import Mathlib.Data.List.Induction
import PeripheralBus.Pack.MemoryCabinet
import PeripheralBus.Pack.Mount
import PeripheralBus.Proofs.Pack.Serving

/-!
# An open image is a snapshot

A cabinet in memory can change while a mount has one of its images open. The open image keeps the
content that it was opened with, and only seeking and reading move it. So what a read brings is a
matter of history: of the **opening** that the mount still holds, of what the cabinet held then, and
of the seeks and reads since.

* `Handling`: what is done with a cabinet and a mount; `Desk.handle`, `Desk.after`: one handling,
  and any number.
* `stored`: what a cabinet holds, by the history of what was put there.
* `Handling.Keeps`, `Handling.move`: which handlings leave an image open, and how they move it.
* `Snapshot`: the opening that is still held, with its content and the place of the next byte.
* `handle_mounted_iff`, `snapshot_concat_iff`: one handling, as it is done and as history tells it.
* `mounted_iff_snapshot`: **the open image is the snapshot.**
* `reads_snapshot`: what a read brings and what a selection answers.
-/

namespace PeripheralBus.Pack

open Host

/-- Taking out the entries of one key changes nothing for the others. -/
theorem lookup_filter_ne {α : Type} {key other : String} (h : other ≠ key) :
    ∀ entries : List (String × α), (entries.filter (·.1 ≠ key)).lookup other = entries.lookup other
  | [] => rfl
  | (k, value) :: rest => by
    have ih := lookup_filter_ne h rest
    by_cases hk : k = key
    · have hother : (other == k) = false := by simpa [hk] using h
      simpa [hk, List.lookup_cons, hk ▸ hother] using ih
    · cases hother : other == k with
      | true => simp [hk, List.lookup_cons, hother]
      | false => simpa [hk, List.lookup_cons, hother] using ih

/-- What is put is found under its name, and all else as before. -/
theorem MemoryCabinet.content?_put (s : MemoryCabinet) (name other : String) (content : Content) :
    (s.put name content).content? other =
      if other = name then some content else s.content? other := by
  by_cases h : other = name
  · simp [put, content?, h]
  · have hne : (other == name) = false := by simpa using h
    rw [if_neg h, content?, put, List.lookup_cons, hne]
    exact lookup_filter_ne h s.images

/-! ## Handlings -/

/-- A cabinet and a mount beside it. -/
structure Desk where
  cabinet : MemoryCabinet := {}
  mount : Mount MemoryCabinet := {}

/-- What is done with a cabinet and a mount. -/
inductive Handling where
  /-- An image is added to the cabinet, or replaced. -/
  | put (name : String) (content : Content)
  /-- Another cabinet takes the place of the first. -/
  | replace (cabinet : MemoryCabinet)
  /-- The mount selects an image. -/
  | select (name : String)
  /-- The cabinet itself is asked for an image, which is dropped. -/
  | ask (name : String)
  | release
  | seek (offset : UInt64)
  /-- One read call. -/
  | read (count : ℕ)

/-- What comes of a handling. -/
inductive Outcome where
  | done
  /-- Whether an image could be opened. -/
  | opened (yes : Bool)
  /-- What a read call brought. -/
  | bytes (result : Except Error (List UInt8))

namespace Desk

/-- One handling. -/
def handle (s : Desk) : Handling → Outcome × Desk
  | .put name content => (.done, { s with cabinet := s.cabinet.put name content })
  | .replace cabinet => (.done, { s with cabinet })
  | .select name =>
    let selection := s.mount.select s.cabinet name
    (.opened selection.ready, ⟨selection.cabinet, selection.mount⟩)
  | .ask name =>
    let (result, cabinet) := Cabinet.openImage s.cabinet name
    (.opened result.isOk, { s with cabinet })
  | .release => (.done, { s with mount := s.mount.release.2 })
  | .seek offset => (.done, { s with mount := (s.mount.seek offset).2 })
  | .read count =>
    let (result, mount) := s.mount.read count
    (.bytes result, { s with mount })

/-- Handlings, one after the other. -/
def after (s : Desk) (past : List Handling) : Desk := past.foldl (fun s h => (s.handle h).2) s

@[simp] theorem after_nil (s : Desk) : s.after [] = s := rfl

@[simp] theorem after_concat (s : Desk) (past : List Handling) (h : Handling) :
    s.after (past ++ [h]) = ((s.after past).handle h).2 := by
  simp [after]

end Desk

/-! ## History -/

/-- **What a cabinet holds after some handlings**: under each name what was put there last, since
another cabinet took its place. -/
def stored (cabinet : MemoryCabinet) (past : List Handling) : String → Option Content :=
  past.foldl (fun held h =>
    match h with
    | .put name content => fun other => if other = name then some content else held other
    | .replace cabinet => cabinet.content?
    | _ => held) cabinet.content?

/-- Whether a handling leaves the image of this name open: it neither releases it nor selects
another one. -/
def Handling.Keeps (name : String) : Handling → Prop
  | .release => False
  | .select other => other = name
  | _ => True

/-- Where a handling moves an open image of this content: a seek goes to its offset, a read behind
the bytes that it brings. -/
def Handling.move (content : Content) (place : ℕ) : Handling → ℕ
  | .seek offset => offset.toNat
  | .read count => place + min count (content.size - place)
  | _ => place

/-- Where handlings have moved an image since it was opened. -/
def placeAfter (content : Content) (since : List Handling) : ℕ :=
  since.foldl (Handling.move content) 0

/-- **The opening that is still held** after some handlings. The latest selection that asked the
cabinet was for this name, the cabinet held this content under it, and the handlings since then
have left the image open and moved it to this place. -/
def Snapshot (cabinet : MemoryCabinet) (past : List Handling) (name : String) (content : Content)
    (place : ℕ) : Prop :=
  ∃ before since, past = before ++ .select name :: since ∧
    (Desk.after ⟨cabinet, {}⟩ before).mount.name? ≠ some name ∧
    stored cabinet before name = some content ∧
    (∀ h ∈ since, h.Keeps name) ∧ placeAfter content since = place

/-! ## One handling -/

namespace Desk

variable {s : Desk} {h : Handling}

/-- A selection of the image that is open asks nobody. -/
theorem select_of_open {name : String} (hname : s.mount.name? = some name)
    (cabinet : MemoryCabinet) : s.mount.select cabinet name = ⟨true, s.mount, cabinet, []⟩ :=
  if_pos hname

/-- A selection of any other image opens what the cabinet holds. -/
theorem select_of_ne {name : String} (hname : s.mount.name? ≠ some name) :
    (s.mount.select s.cabinet name).mount =
      ⟨(s.cabinet.content? name).map fun content => ⟨name, { content }⟩⟩ := by
  rw [Mount.select, if_neg hname]
  cases hcontent : s.cabinet.content? name <;> simp [Cabinet.openImage, hcontent]

theorem select_cabinet (name : String) :
    (s.mount.select s.cabinet name).cabinet = s.cabinet := by
  unfold Mount.select
  split
  · rfl
  · cases hcontent : s.cabinet.content? name <;> simp [Cabinet.openImage, hcontent]

/-- What the cabinet holds after a handling. -/
theorem handle_content? (s : Desk) (h : Handling) :
    (s.handle h).2.cabinet.content? =
      match h with
      | .put name content => fun other => if other = name then some content
          else s.cabinet.content? other
      | .replace cabinet => cabinet.content?
      | _ => s.cabinet.content? := by
  cases h with
  | put name content =>
    funext other
    exact s.cabinet.content?_put name other content
  | select name => exact congrArg _ (select_cabinet name)
  | ask name =>
    cases hcontent : s.cabinet.content? name <;> simp [handle, Cabinet.openImage, hcontent]
  | replace | release | seek | read => rfl

theorem after_content? (cabinet : MemoryCabinet) (past : List Handling) :
    (after ⟨cabinet, {}⟩ past).cabinet.content? = stored cabinet past := by
  induction past using List.reverseRecOn with
  | nil => rfl
  | append_singleton past h ih =>
    rw [after_concat, handle_content?, ih, stored, stored, List.foldl_concat]

/-- An image that is neither selected nor released stays open, moved by the handling. -/
theorem handle_mounted_of_moves (s : Desk) (hselect : ∀ name, h ≠ .select name)
    (hrelease : h ≠ .release) :
    (s.handle h).2.mount.mounted = s.mount.mounted.map fun u =>
      let image : MemoryCabinet.Open := u.image
      ⟨u.name, { image with place := h.move image.content image.place }⟩ := by
  rcases s with ⟨cabinet, _ | ⟨name, content, place⟩⟩
  · cases h with
    | select name => exact absurd rfl (hselect name)
    | release => exact absurd rfl hrelease
    | _ => rfl
  · -- a read moves by the bytes that it brings, which may be fewer than were asked for
    cases h with
    | select name => exact absurd rfl (hselect name)
    | release => exact absurd rfl hrelease
    | read count =>
      have hlength : (content.slice place count).length = min count (content.size - place) := by
        simp [Content.slice]
      simp [handle, Mount.read, Cabinet.read, MemoryCabinet.Open.read, Handling.move, hlength]
    | _ => rfl

/-- **What one handling leaves open**: the image that a selection has just opened, at its first
byte, or the one that was open, moved. -/
theorem handle_mounted_iff {name : String} {content : Content} {place : ℕ} :
    (s.handle h).2.mount.mounted = some ⟨name, content, place⟩ ↔
      (h = .select name ∧ s.mount.name? ≠ some name ∧ s.cabinet.content? name = some content ∧
        place = 0) ∨
      ∃ before, s.mount.mounted = some ⟨name, content, before⟩ ∧ h.Keeps name ∧
        h.move content before = place := by
  cases h with
  | select other =>
    by_cases hopen : s.mount.name? = some other
    · -- nothing is opened, and what is open has this name
      simp only [handle, select_of_open hopen, Handling.select.injEq, Handling.Keeps]
      constructor
      · intro hm
        have hname : other = name := by simpa [Mount.name?, hm, eq_comm] using hopen
        exact .inr ⟨place, hm, hname, rfl⟩
      · rintro (⟨rfl, hne, -⟩ | ⟨before, hm, -, rfl⟩)
        · exact absurd hopen hne
        · exact hm
    · -- the cabinet is asked, and what was open is gone whatever it answers
      simp only [handle, select_of_ne hopen, Option.map_eq_some_iff, Handling.select.injEq,
        Handling.Keeps]
      constructor
      · rintro ⟨content', hcontent, hu⟩
        cases hu
        exact .inl ⟨rfl, hopen, hcontent, rfl⟩
      · rintro (⟨rfl, -, hcontent, rfl⟩ | ⟨before, hm, rfl, -⟩)
        · exact ⟨content, hcontent, rfl⟩
        · exact absurd (by simp [Mount.name?, hm]) hopen
  | release => simp [handle, Mount.release, Handling.Keeps]
  | put | replace | ask | seek | read =>
    rw [handle_mounted_of_moves, Option.map_eq_some_iff]
    · constructor
      · rintro ⟨⟨other, other', before⟩, hm, hu⟩
        cases hu
        exact .inr ⟨before, hm, trivial, rfl⟩
      · rintro (⟨hselect, -⟩ | ⟨before, hm, -, rfl⟩)
        · cases hselect
        · exact ⟨_, hm, rfl⟩
    · intro name hname
      cases hname
    · intro hrelease
      cases hrelease

end Desk

/-- **What one more handling makes of a snapshot.** -/
theorem snapshot_concat_iff {cabinet : MemoryCabinet} {past : List Handling} {h : Handling}
    {name : String} {content : Content} {place : ℕ} :
    Snapshot cabinet (past ++ [h]) name content place ↔
      (h = .select name ∧ (Desk.after ⟨cabinet, {}⟩ past).mount.name? ≠ some name ∧
        stored cabinet past name = some content ∧ place = 0) ∨
      ∃ before, Snapshot cabinet past name content before ∧ h.Keeps name ∧
        h.move content before = place := by
  constructor
  · rintro ⟨before, since, hpast, hne, hstored, hkeeps, rfl⟩
    -- the opening is this handling, or was before it
    rcases List.eq_nil_or_concat since with rfl | ⟨since, last, rfl⟩
    · obtain ⟨rfl, hlast⟩ := List.append_inj' hpast rfl
      exact .inl ⟨List.singleton_inj.1 hlast, hne, hstored, rfl⟩
    · rw [List.concat_eq_append, ← List.cons_append, ← List.append_assoc] at hpast
      obtain ⟨rfl, hlast⟩ := List.append_inj' hpast rfl
      obtain rfl := List.singleton_inj.1 hlast
      rw [List.concat_eq_append, List.forall_mem_append, List.forall_mem_singleton] at hkeeps
      refine .inr ⟨placeAfter content since, ⟨before, since, rfl, hne, hstored, hkeeps.1, rfl⟩,
        hkeeps.2, ?_⟩
      rw [placeAfter, placeAfter, List.concat_eq_append, List.foldl_concat]
  · rintro (⟨rfl, hne, hstored, rfl⟩ |
      ⟨before, ⟨earlier, since, rfl, hne, hstored, hkeeps, rfl⟩, hkeep, rfl⟩)
    · exact ⟨past, [], rfl, hne, hstored, by simp, rfl⟩
    · refine ⟨earlier, since ++ [h], by simp, hne, hstored, ?_, ?_⟩
      · rw [List.forall_mem_append, List.forall_mem_singleton]
        exact ⟨hkeeps, hkeep⟩
      · rw [placeAfter, placeAfter, List.foldl_concat]

/-- **The open image is the snapshot**, and where there is no snapshot none is open. -/
theorem mounted_iff_snapshot (cabinet : MemoryCabinet) (past : List Handling) {name : String}
    {content : Content} {place : ℕ} :
    (Desk.after ⟨cabinet, {}⟩ past).mount.mounted = some ⟨name, content, place⟩ ↔
      Snapshot cabinet past name content place := by
  induction past using List.reverseRecOn generalizing place with
  | nil => simp [Snapshot]
  | append_singleton past h ih =>
    rw [Desk.after_concat, Desk.handle_mounted_iff, Desk.after_content?, snapshot_concat_iff]
    simp only [ih]

/-- **An open image is a snapshot.** Take a cabinet in memory with a mount that has nothing open,
and anything that is done with them: images are put or replaced, the whole cabinet is replaced or
asked directly, and the mount selects, releases, seeks and reads. The image that is then open is the
one of the latest opening that still stands, with the content that the cabinet held at that moment,
moved only by the seeks and reads since. A read brings the bytes of that content from there on, none
past its end. What is done with the cabinet leaves the mount as it is. Selecting the image that is
open answers yes whatever the cabinet holds, asks nobody and leaves mount and cabinet alone. After
any selection an image is open exactly when the answer was yes, and then under the name that was
selected. -/
theorem reads_snapshot (cabinet : MemoryCabinet) (past : List Handling) :
    let s := Desk.after ⟨cabinet, {}⟩ past
    (∀ name content place, s.mount.mounted = some ⟨name, content, place⟩ ↔
      Snapshot cabinet past name content place) ∧
    (∀ name content place count, Snapshot cabinet past name content place →
      (s.handle (.read count)).1 = .bytes (.ok ((content.toList.drop place).take count))) ∧
    (∀ name content replacement, (s.handle (.put name content)).2.mount = s.mount ∧
      (s.handle (.replace replacement)).2.mount = s.mount ∧
      (s.handle (.ask name)).2.mount = s.mount) ∧
    (∀ name, s.mount.name? = some name → (s.handle (.select name)) = (.opened true, s) ∧
      ∀ other : MemoryCabinet, s.mount.select other name = ⟨true, s.mount, other, []⟩) ∧
    ∀ name, ∃ yes, (s.handle (.select name)).1 = .opened yes ∧
      (s.handle (.select name)).2.mount.isOpen = yes ∧
      (s.handle (.select name)).2.mount.name? = if yes then some name else none := by
  intro s
  have hmounted : ∀ name content place, s.mount.mounted = some ⟨name, content, place⟩ ↔
      Snapshot cabinet past name content place := by
    intro name content place
    exact mounted_iff_snapshot cabinet past
  refine ⟨hmounted, ?_, ?_, ?_, ?_⟩
  · intro name content place count hsnapshot
    rw [← hmounted] at hsnapshot
    rw [← Content.slice_eq]
    simp [Desk.handle, Mount.read, hsnapshot, Cabinet.read, MemoryCabinet.Open.read]
  · intro name content replacement
    exact ⟨rfl, rfl, rfl⟩
  · intro name hname
    have hselect := Desk.select_of_open hname
    refine ⟨?_, hselect⟩
    rw [Desk.handle, hselect]
  · intro name
    have hname := s.mount.name?_select s.cabinet name
    refine ⟨_, rfl, ?_, hname⟩
    rw [Desk.handle, Mount.isOpen_eq, hname]
    cases (s.mount.select s.cabinet name).ready <;> rfl

/-- An image is replaced in the cabinet while it is open and one of its bytes has been read. The
next read goes on in the old content, as far as that goes. -/
theorem reads_snapshot_replaced :
    let past : List Handling := [.put "dev26u0" (.ofList [1, 2, 3]), .select "dev26u0", .read 1,
      .put "dev26u0" (.ofList [9])]
    Snapshot {} past "dev26u0" (.ofList [1, 2, 3]) 1 ∧
      ((Desk.after {} past).handle (.read 5)).1 = .bytes (.ok [2, 3]) := by
  intro past
  have hsnapshot : Snapshot {} past "dev26u0" (.ofList [1, 2, 3]) 1 := by
    refine ⟨[.put "dev26u0" (.ofList [1, 2, 3])],
      [.read 1, .put "dev26u0" (.ofList [9])], rfl, nofun, by simp [stored], ?_, rfl⟩
    simp [Handling.Keeps]
  exact ⟨hsnapshot, (reads_snapshot {} past).2.1 _ _ _ 5 hsnapshot⟩

end PeripheralBus.Pack
