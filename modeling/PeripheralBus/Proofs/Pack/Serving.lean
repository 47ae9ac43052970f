import Mathlib.Data.List.Basic
import PeripheralBus.Channel.Controller
import PeripheralBus.Pack.DirectoryCabinet
import PeripheralBus.Pack.FaultyCabinet

/-!
# Images that serve their content

A read call may bring fewer bytes than it was asked for, and how many is up to the cabinet. An image
**serves** a content from a place on when its calls, however they split it, bring the content's
bytes in order, at least one of them as long as there are any. It **holds** a content if its calls
bring no other bytes, though they may fail or bring none.

* `fill_of_serves`: the calls of `Cabinet.fill` together bring the bytes of the range asked for, as
  far as the content goes.
* `fetch_of_serves`: a fetch succeeds exactly when the content does not end before the range.
* `HoldsAt`, `fetch_of_holdsAt`: an image with these bytes at an offset, and that a fetch of them
  brings no others, if it succeeds.
* `DirectoryCabinet.serves`, `FaultyCabinet.serves`: the files of a directory and the images of
  small portions serve their content.
* `DirectoryCabinet.holdsAt`, `FaultyCabinet.holdsAt`: they have its bytes at every offset, whatever
  is wrong with them.
-/

namespace PeripheralBus

open Host

variable {S : Type} [Pack.Cabinet S]

namespace Pack

/-- A call on an image at a place of a content brings the bytes from there on, at least one and at
most as many as were asked for, or as many as the content has left, and leaves the image at the
place behind them. -/
structure Delivers (content : List UInt8) (At : Cabinet.Image S → ℕ → Prop) : Prop where
  read : ∀ image place count, At image place → 0 < count →
    ∃ portion after, 1 ≤ portion ∧ portion ≤ count ∧
      Cabinet.read image count = (.ok ((content.drop place).take portion), after) ∧
      At after (place + ((content.drop place).take portion).length)

/-- The image's calls bring the content's bytes from the place on. -/
def Serves (content : List UInt8) (image : Cabinet.Image S) (place : ℕ) : Prop :=
  ∃ At, Delivers content At ∧ At image place

variable {content : List UInt8} {image : Cabinet.Image S} {place : ℕ}

/-- What one call does to an image that serves a content. -/
theorem Serves.read (h : Serves content image place) {count : ℕ} (hcount : 0 < count) :
    ∃ portion after, 1 ≤ portion ∧ portion ≤ count ∧
      Cabinet.read image count = (.ok ((content.drop place).take portion), after) ∧
      Serves content after (place + ((content.drop place).take portion).length) := by
  obtain ⟨At, hdelivers, hat⟩ := h
  obtain ⟨portion, after, hpos, hle, hread, hafter⟩ := hdelivers.read _ _ _ hat hcount
  exact ⟨portion, after, hpos, hle, hread, At, hdelivers, hafter⟩

/-- A filling call after another takes the rest of the range. -/
theorem take_append_take_drop (bytes : List UInt8) {portion count : ℕ} (h : portion ≤ count) :
    bytes.take portion ++ (bytes.drop (bytes.take portion).length).take
      (count - (bytes.take portion).length) = bytes.take count := by
  rw [List.length_take]
  rcases Nat.le_total portion bytes.length with hle | hle
  · rw [Nat.min_eq_left hle, ← List.take_add, Nat.add_sub_cancel' h]
  · rw [Nat.min_eq_right hle, List.drop_length, List.take_nil, List.append_nil,
      List.take_of_length_le hle, List.take_of_length_le (Nat.le_trans hle h)]

/-- **Calls that bring some bytes bring all of them in the end.** -/
theorem fill_of_serves (h : Serves content image place) (count : ℕ) :
    (Cabinet.fill image count).1 = .ok ((content.drop place).take count) := by
  induction count using Nat.strongRecOn generalizing image place with
  | ind count ih =>
    rw [Cabinet.fill]
    rcases Nat.eq_zero_or_pos count with rfl | hcount
    · simp
    · obtain ⟨portion, after, hpos, hle, hread, hafter⟩ := h.read hcount
      have hwhole := take_append_take_drop (content.drop place) hle
      have htake : ((content.drop place).take portion).take count =
          (content.drop place).take portion := by
        rw [List.take_take, Nat.min_eq_right hle]
      rw [if_neg (by omega), hread]
      simp only [htake]
      cases hbytes : (content.drop place).take portion with
      | nil =>
        -- no bytes although one was asked for: the content ends at the place
        have hend : content.drop place = [] := by
          rcases List.take_eq_nil_iff.1 hbytes with h0 | h0
          · omega
          · exact h0
        simp [hend]
      | cons b more =>
        rw [hbytes] at hafter hwhole
        have hrest := ih (count - (more.length + 1)) (by omega) hafter
        rw [← List.drop_drop] at hrest
        simp only [hrest, Except.map]
        rw [← hwhole]
        rfl

/-- **A fetch of an image that serves its content** brings the bytes of the range when the content
has them all, and otherwise falls short of them by as many as are missing. -/
theorem fetch_of_serves {u : Mounted S} {offset : UInt64} (count : ℕ)
    (hseek : Cabinet.seek u.image offset = (.ok (), image))
    (h : Serves content image offset.toNat) :
    (u.fetch offset count).1 =
      if offset.toNat + count ≤ content.length ∨ count = 0 then
        .ok ((content.drop offset.toNat).take count)
      else .error (.shortRead u.name count (content.length - offset.toNat)) := by
  rcases hfill : Cabinet.fill image count with ⟨bytes, last⟩
  obtain rfl : bytes = .ok ((content.drop offset.toNat).take count) := by
    rw [← fill_of_serves h count, hfill]
  have hlen : ((content.drop offset.toNat).take count).length =
      min count (content.length - offset.toNat) := by
    rw [List.length_take, List.length_drop]
  unfold Mounted.fetch
  simp only [hseek, hfill, hlen]
  by_cases hall : offset.toNat + count ≤ content.length ∨ count = 0
  · rw [if_pos (by omega), if_pos hall]
  · rw [if_neg (by omega), if_neg hall, Nat.min_eq_right (by omega)]

/-! ## Images that can fail -/

/-- A call on an image at a place of a content, if it does not fail, brings bytes from there on, at
most as many as were asked for, and leaves the image at the place behind them. -/
structure Keeps (content : List UInt8) (At : Cabinet.Image S → ℕ → Prop) : Prop where
  read : ∀ image place count bytes after, At image place → 0 < count →
    Cabinet.read image count = (.ok bytes, after) →
    bytes <+: content.drop place ∧ bytes.length ≤ count ∧ At after (place + bytes.length)

/-- The image's calls bring no other bytes than the content's from the place on. -/
def Holds (content : List UInt8) (image : Cabinet.Image S) (place : ℕ) : Prop :=
  ∃ At, Keeps content At ∧ At image place

/-- **The image has these bytes at an offset**: after it was moved there, its calls bring them and
no others, as long as they do not fail. -/
def HoldsAt (image : Cabinet.Image S) (offset : UInt64) (bytes : List UInt8) : Prop :=
  ∃ content, (content.drop offset.toNat).take bytes.length = bytes ∧
    ∀ after, Cabinet.seek image offset = (.ok (), after) → Holds content after offset.toNat

/-- What one call does to an image that holds a content. -/
theorem Holds.read (h : Holds content image place) {count : ℕ} (hcount : 0 < count)
    {bytes : List UInt8} {after : Cabinet.Image S}
    (hread : Cabinet.read image count = (.ok bytes, after)) :
    bytes <+: content.drop place ∧ bytes.length ≤ count ∧
      Holds content after (place + bytes.length) := by
  obtain ⟨At, hkeeps, hat⟩ := h
  obtain ⟨hfront, hle, hafter⟩ := hkeeps.read _ _ _ _ _ hat hcount hread
  exact ⟨hfront, hle, At, hkeeps, hafter⟩

/-- An image that serves a content holds it. -/
theorem Serves.holds (h : Serves content image place) : Holds content image place := by
  obtain ⟨At, hdelivers, hat⟩ := h
  refine ⟨At, ⟨?_⟩, hat⟩
  intro image place count bytes after hat hcount hread
  obtain ⟨portion, after', -, hle, hdelivered, hafter⟩ := hdelivers.read _ _ _ hat hcount
  obtain ⟨hbytes, rfl⟩ := Prod.mk.inj (hread.symm.trans hdelivered)
  obtain rfl := Except.ok.inj hbytes
  refine ⟨List.take_prefix _ _, ?_, hafter⟩
  rw [List.length_take]
  omega

/-- **Calls that bring bytes of a content bring them in order.** -/
theorem fill_of_holds (h : Holds content image place) {count : ℕ} {bytes : List UInt8}
    {last : Cabinet.Image S} (hfill : Cabinet.fill image count = (.ok bytes, last)) :
    bytes <+: content.drop place := by
  induction count using Nat.strongRecOn generalizing image place bytes last with
  | ind count ih =>
    rw [Cabinet.fill] at hfill
    rcases Nat.eq_zero_or_pos count with rfl | hcount
    · obtain rfl : [] = bytes := by simpa using congrArg Prod.fst hfill
      exact List.nil_prefix
    · rw [if_neg (by omega)] at hfill
      rcases hread : Cabinet.read image count with ⟨e | portion, after⟩
      · simp [hread] at hfill
      · obtain ⟨hfront, hle, hafter⟩ := h.read hcount hread
        simp only [hread, List.take_of_length_le hle] at hfill
        cases portion with
        | nil =>
          obtain rfl : [] = bytes := by simpa using congrArg Prod.fst hfill
          exact List.nil_prefix
        | cons b more =>
          -- what the later calls bring follows the first portion in the content
          rcases hrest : Cabinet.fill after (count - (more.length + 1)) with ⟨e | others, final⟩
          · simp [hrest, Except.map] at hfill
          · have hothers := ih _ (by omega) hafter hrest
            obtain rfl : b :: more ++ others = bytes := by
              simpa [hrest, Except.map] using congrArg Prod.fst hfill
            obtain ⟨behind, hbehind⟩ := hfront
            rw [← List.drop_drop, ← hbehind, List.drop_left] at hothers
            rw [← hbehind]
            exact List.prefix_append_right_inj _ |>.2 hothers

/-- **A fetch of bytes that the image has** brings no others, if it succeeds. -/
theorem fetch_of_holdsAt {u u' : Mounted S} {offset : UInt64} {bytes fetched : List UInt8}
    (h : HoldsAt u.image offset bytes)
    (hfetch : u.fetch offset bytes.length = (.ok fetched, u')) : fetched = bytes := by
  obtain ⟨content, hbytes, hholds⟩ := h
  unfold Mounted.fetch at hfetch
  rcases hseek : Cabinet.seek u.image offset with ⟨e | ⟨⟩, after⟩
  · simp [hseek] at hfetch
  · rcases hfill : Cabinet.fill after bytes.length with ⟨e | got, last⟩
    · simp [hseek, hfill] at hfetch
    · have hfront := fill_of_holds (hholds after hseek) hfill
      by_cases hlength : got.length = bytes.length
      · obtain rfl : got = fetched := by
          simpa [hseek, hfill, hlength] using congrArg Prod.fst hfetch
        rw [List.prefix_iff_eq_take, hlength, hbytes] at hfront
        exact hfront
      · simp [hseek, hfill, hlength] at hfetch

end Pack

/-! ## Cabinets whose images serve their content -/

/-- The bytes of a range are those of the list of all bytes. -/
theorem Host.Content.slice_eq (c : Content) (start count : ℕ) :
    c.slice start count = (c.toList.drop start).take count := by
  apply List.ext_getElem
  · simp [Content.slice, Content.toList]
  · intro i h h'
    simp [Content.slice, Content.toList]

namespace Pack

/-- A file of a directory serves its content. -/
theorem DirectoryCabinet.serves {image : Open} {c : Content} (hfile : image.node = .file c) :
    Serves (S := DirectoryCabinet) c.toList image image.place := by
  refine ⟨fun (i : Open) place => i.node = .file c ∧ i.place = place, ⟨?_⟩, hfile, rfl⟩
  rintro ⟨_, place⟩ _ count ⟨rfl, rfl⟩ hcount
  refine ⟨count, ⟨.file c, place + (c.slice place count).length⟩, hcount, Nat.le_refl count, ?_,
    rfl, ?_⟩
  · rw [← Content.slice_eq]
    rfl
  · rw [← Content.slice_eq]

/-- A file of a directory has its bytes at every offset. -/
theorem DirectoryCabinet.holdsAt {image : Open} {c : Content} {offset : UInt64}
    {bytes : List UInt8} (hfile : image.node = .file c)
    (hbytes : (c.toList.drop offset.toNat).take bytes.length = bytes) :
    HoldsAt (S := DirectoryCabinet) image offset bytes := by
  refine ⟨c.toList, hbytes, fun after hseek => ?_⟩
  simp only [Cabinet.seek] at hseek
  split at hseek
  · obtain ⟨-, rfl⟩ := Prod.mk.inj hseek
    have hmoved : ({ image with place := offset.toNat } : Open).node = .file c := hfile
    exact (DirectoryCabinet.serves hmoved).holds
  · cases hseek

/-- An image whose calls do not fail serves its content, in portions that are not empty. -/
theorem FaultyCabinet.serves (image : Open) (hfault : image.image.readFault = none)
    (hportion : ∀ portion, image.image.portion = some portion → 1 ≤ portion) :
    Serves (S := FaultyCabinet) image.image.content.toList image image.place := by
  refine ⟨fun (o : Open) place => o.image = image.image ∧ o.place = place, ⟨?_⟩, rfl, rfl⟩
  rintro ⟨i, place, calls⟩ _ count ⟨hi, rfl⟩ hcount
  obtain rfl : i = image.image := hi
  have hpos : 1 ≤ min count (image.image.portion.getD count) := by
    cases hp : image.image.portion with
    | none => rw [Option.getD_none]; omega
    | some portion => have := hportion portion hp; rw [Option.getD_some]; omega
  have hread : Open.read ⟨image.image, place, calls⟩ count =
      (.ok (image.image.content.slice place (min count (image.image.portion.getD count))),
        ⟨image.image, place + (image.image.content.slice place
          (min count (image.image.portion.getD count))).length, calls + 1⟩) := by
    simp only [Open.read, hfault]
  rw [Content.slice_eq] at hread
  exact ⟨_, _, hpos, Nat.min_le_left _ _, hread, rfl, rfl⟩

/-- **Whatever is wrong with an image**, it holds its content. -/
theorem FaultyCabinet.holds (image : Open) :
    Holds (S := FaultyCabinet) image.image.content.toList image image.place := by
  refine ⟨fun (o : Open) place => o.image = image.image ∧ o.place = place, ⟨?_⟩, rfl, rfl⟩
  rintro ⟨i, place, calls⟩ _ count bytes after ⟨hi, rfl⟩ - hread
  obtain rfl : i = image.image := hi
  -- a call that did not fail brought a slice of the content
  have hserved : bytes = image.image.content.slice place
        (min count (image.image.portion.getD count)) ∧
      after = ⟨image.image, place + bytes.length, calls + 1⟩ := by
    replace hread : Open.read ⟨image.image, place, calls⟩ count = (.ok bytes, after) := hread
    unfold Open.read at hread
    dsimp only at hread
    split at hread
    · split at hread
      · simp at hread
      · obtain ⟨hbytes, hafter⟩ := Prod.mk.inj hread
        obtain rfl := Except.ok.inj hbytes
        exact ⟨rfl, hafter.symm⟩
    · obtain ⟨hbytes, hafter⟩ := Prod.mk.inj hread
      obtain rfl := Except.ok.inj hbytes
      exact ⟨rfl, hafter.symm⟩
  obtain ⟨rfl, rfl⟩ := hserved
  rw [Content.slice_eq]
  refine ⟨List.take_prefix _ _, ?_, rfl, rfl⟩
  rw [List.length_take]
  omega

/-- So it has the bytes of its content at every offset. -/
theorem FaultyCabinet.holdsAt (image : Open) {offset : UInt64} {bytes : List UInt8}
    (hbytes : (image.image.content.toList.drop offset.toNat).take bytes.length = bytes) :
    HoldsAt (S := FaultyCabinet) image offset bytes := by
  refine ⟨image.image.content.toList, hbytes, fun after hseek => ?_⟩
  simp only [Cabinet.seek] at hseek
  split at hseek
  · cases hseek
  · obtain ⟨-, rfl⟩ := Prod.mk.inj hseek
    exact FaultyCabinet.holds { image with place := offset.toNat }

end Pack

end PeripheralBus
