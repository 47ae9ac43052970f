import PeripheralBus.Proofs.Channel.Ending
import PeripheralBus.Proofs.Channel.Lifetime

/-!
# The unit that was selected last

A controller keeps its image open from one program to the next, so what an order finds open is a
matter of history: of every order that was fetched and every release since the controller was made.
The **latest selection** since the last release decides, whichever program it was in and whatever
device address that program was for.

* `unitName_inj`: devices and units with the same image name are the same.
* `OpenedAs`: an image comes from an opening under a name.
* `Deed`, `History`: what is done to a controller, in order.
* `latest`: the latest of something since the last release.
* `Standing`: **the open image is that of the latest attempt**, and the latest attempt is for the
  unit of the latest selection.
* `Standing.step`, `Standing.path`, `History.standing`: orders, programs and histories keep to that.
* `History.image_selected`: what an order finds open is the unit that was selected last.
-/

namespace PeripheralBus

open Pack

variable {S : Type} [Cabinet S]

/-! ## Names -/

/-- Digits in a base up to ten tell the number. -/
theorem toDigits_inj {base m n : ℕ} (hbase : 1 < base) (hten : base ≤ 10)
    (h : Nat.toDigits base m = Nat.toDigits base n) : m = n := by
  have hm : Nat.ofDigitChars base (Nat.toDigits base m) 0 = m :=
    Nat.ofDigitChars_toDigits hbase hten
  rw [← hm, h, Nat.ofDigitChars_toDigits hbase hten]

theorem letter_notMem_toDigits {base : ℕ} (n : ℕ) (hbase : 1 < base) (hten : base ≤ 10) :
    'u' ∉ Nat.toDigits base n := by
  intro h
  have hdigit := Nat.isDigit_of_mem_toDigits (Nat.zero_lt_of_lt hbase) hten h
  simp at hdigit

/-- **Images have the same name** exactly when device and unit are the same. -/
theorem Pack.unitName_inj {d u d' u' : UInt8} :
    unitName d u = unitName d' u' ↔ d = d' ∧ u = u' := by
  constructor
  · intro h
    have hlists := congrArg String.toList h
    simp only [unitName, Octal.text, Octal.digits, Nat.toString_eq_ofList_toDigits,
      String.toList_append, String.toList_ofList, List.append_assoc,
      List.append_cancel_left_eq] at hlists
    -- the letter between the two numbers is no digit, so it stands at the same place in both
    obtain ⟨hdevice, -, hunit⟩ := (List.append_cons_inj_of_notMem
      (letter_notMem_toDigits _ (by decide) (by decide))
      (letter_notMem_toDigits _ (by decide) (by decide))).1 hlists
    exact ⟨UInt8.toNat_inj.1 (toDigits_inj (by decide) (by decide) hdevice),
      UInt8.toNat_inj.1 (toDigits_inj (by decide) (by decide) hunit)⟩
  · rintro ⟨rfl, rfl⟩
    rfl

/-! ## Images and where they come from -/

namespace Pack

/-- An image that was opened under a name, however it was moved and read since. -/
inductive OpenedAs (name : String) : Cabinet.Image S → Prop
  | opened {cabinet cabinet' : S} {image : Cabinet.Image S}
      (h : Cabinet.openImage cabinet name = (.ok image, cabinet')) : OpenedAs name image
  | sought {image : Cabinet.Image S} (offset : UInt64) (h : OpenedAs name image) :
      OpenedAs name (Cabinet.seek image offset).2
  | read {image : Cabinet.Image S} (count : ℕ) (h : OpenedAs name image) :
      OpenedAs name (Cabinet.read image count).2

theorem OpenedAs.fill {name : String} {image : Cabinet.Image S} (h : OpenedAs name image)
    (count : ℕ) : OpenedAs name (Cabinet.fill image count).2 := by
  induction count using Nat.strongRecOn generalizing image with
  | ind count ih =>
    rw [Cabinet.fill]
    split
    · exact h
    · have hread := h.read count
      split <;> rename_i heq <;> rw [heq] at hread
      · exact hread
      · split
        · exact hread
        · exact ih _ (by omega) hread

theorem OpenedAs.fetch {u : Mounted S} (h : OpenedAs u.name u.image) (offset : UInt64)
    (count : ℕ) : OpenedAs (u.fetch offset count).2.name (u.fetch offset count).2.image := by
  have hsought := h.sought offset
  unfold Mounted.fetch
  split <;> rename_i hseek <;> rw [hseek] at hsought
  · exact hsought
  · have hfilled := hsought.fill count
    split <;> rename_i hfill <;> rw [hfill] at hfilled
    · exact hfilled
    · split <;> exact hfilled

/-- What a selection mounts was opened under its name. -/
theorem OpenedAs.select {m : Mount S} (h : ∀ u, m.mounted = some u → OpenedAs u.name u.image)
    (cabinet : S) (name : String) :
    ∀ u, (m.select cabinet name).mount.mounted = some u → OpenedAs u.name u.image := by
  unfold Mount.select
  split
  · exact h
  · split <;> rename_i hopen
    · rintro u hu
      obtain rfl := Option.some.inj hu
      exact .opened hopen
    · simp

end Pack

/-! ## What is done to a controller -/

/-- What is done to a controller: an order is fetched by a program for a device address, or the
image is released. -/
inductive Deed (S : Type) [Cabinet S] where
  | order (device : UInt8) (s : Activity S)
  | release

/-- The attempt to open an image, with its outcome. -/
def Pack.PackEvent.attempt? : PackEvent → Option (String × Bool)
  | .opening name succeeded => some (name, succeeded)
  | _ => none

namespace Deed

/-- The device address and unit field of an executed select order. -/
def selection? : Deed S → Option (UInt8 × UInt8)
  | .order device s =>
    match s.order? with
    | some (.selectUnit field) => some (device, field)
    | _ => none
  | .release => none

/-- The attempt to open an image that an order makes. -/
def attempt? : Deed S → Option (String × Bool)
  | .order device s => (Event.packEvents (s.step device).1).findSome? PackEvent.attempt?
  | .release => none

/-- The **latest** of something since the last release. -/
def latest {α : Type} (f : Deed S → Option α) (past : List (Deed S)) : Option α :=
  past.foldl (fun found deed =>
    match deed with
    | .release => none
    | .order device s => (f (.order device s)).or found) none

variable {α : Type} {f : Deed S → Option α} {past : List (Deed S)}

@[simp] theorem latest_nil : latest f [] = none := rfl

@[simp] theorem latest_order (device : UInt8) (s : Activity S) :
    latest f (past ++ [.order device s]) = (f (.order device s)).or (latest f past) := by
  rw [latest, List.foldl_concat]
  rfl

@[simp] theorem latest_release : latest f (past ++ [.release]) = none := by
  rw [latest, List.foldl_concat]

end Deed

/-- Selecting the image that is open does nothing. -/
theorem Pack.Mount.select_of_open {m : Mount S} {name : String} (cabinet : S)
    (h : m.name? = some name) : m.select cabinet name = ⟨true, m, cabinet, []⟩ :=
  if_pos h

/-- The only attempt of a selection is for its own name, and is made unless that image is open. -/
theorem Pack.Mount.attempt_select (m : Mount S) (cabinet : S) (name : String) :
    (Event.packEvents (m.select cabinet name).events).findSome? PackEvent.attempt? =
      if m.name? = some name then none else some (name, (m.select cabinet name).ready) := by
  have hclosing : (Event.packEvents m.closingEvents).findSome? PackEvent.attempt? = none := by
    rw [closingEvents]
    rcases m with ⟨_ | unit⟩ <;> rfl
  unfold select
  by_cases hname : m.name? = some name
  · simp [hname]
  · rw [if_neg hname, if_neg hname]
    split <;>
      simp [Event.packEvents_append, List.findSome?_append, hclosing, PackEvent.attempt?]

namespace Activity

variable {device : UInt8} {s t : Activity S}

/-- What a select order for a unit does to the mount. -/
def selection (s : Activity S) (device field : UInt8) : Selection S :=
  s.controller.mount.select s.controller.cabinet (unitName device (unitNumber field))

/-- The attempt of a select order. -/
theorem attempt_of_select (device : UInt8) {field : UInt8}
    (h : s.order? = some (.selectUnit field)) :
    (Deed.order device s).attempt? =
      if s.controller.openName? = some (unitName device (unitNumber field)) then none
      else some (unitName device (unitNumber field), (s.selection device field).ready) := by
  rw [Deed.attempt?, (step_of_order device h).2]
  exact s.controller.mount.attempt_select _ _

/-- Other orders make none. -/
theorem attempt_of_ne_select (device : UInt8) (h : ∀ field, s.order? ≠ some (.selectUnit field)) :
    (Deed.order device s).attempt? = none := by
  rw [Deed.attempt?, List.findSome?_eq_none_iff]
  intro e he
  obtain ⟨name, offset, rfl⟩ := step_seeking h e he
  rfl

/-- What a select order leaves of the controller. -/
theorem step_of_select (device : UInt8) {field : UInt8}
    (h : s.order? = some (.selectUnit field)) :
    (s.step device).2.controller =
      { s.controller with
        cabinet := (s.selection device field).cabinet
        mount := (s.selection device field).mount } := by
  rw [(step_of_order device h).1, perform, Progress.controller, advance_controller,
    selectUnit_controller, countExecuted_controller]
  rfl

/-- A read order leaves the controller as it is, or with the image that it fetched from. -/
theorem perform_read_controller (s : Activity S) (device : UInt8) (sector : Sector) :
    (s.perform device (.read sector)).2.controller = s.controller ∨
      ∃ unit offset count, s.controller.mount.mounted = some unit ∧
        (s.perform device (.read sector)).2.controller =
          { s.controller with mount := ⟨some (unit.fetch offset count).2⟩ } := by
  rcases hresult : s.read sector with ⟨events, result⟩
  rcases s.read_cases sector with ⟨-, ⟨fault, -, hread⟩, -⟩ | ⟨-, hread, -⟩ |
    ⟨unit, offset, fetched, unit', hm, -, -, hfetch, -, hread⟩ <;>
    rw [hresult] at hread <;> subst hread
  · simp only [perform, hresult]
    exact .inl rfl
  · simp only [perform, hresult]
    exact .inl rfl
  · refine .inr ⟨unit, offset, 2 * s.wordsLeft.toNat, hm, ?_⟩
    rw [hfetch]
    cases fetched <;> simp only [perform, hresult, afterFetch] <;> rfl

/-- A step that does not select leaves the controller as it is, or with the image that it fetched
from. -/
theorem step_controller_of_ne_select (device : UInt8)
    (h : ∀ field, s.order? ≠ some (.selectUnit field)) :
    (s.step device).2.controller = s.controller ∨
      ∃ unit offset count, s.controller.mount.mounted = some unit ∧
        (s.step device).2.controller =
          { s.controller with mount := ⟨some (unit.fetch offset count).2⟩ } := by
  rcases step_cases s with hf | ⟨hf, code, he⟩ | ⟨o, ho⟩
  · rw [(step_of_flagged device hf).1]
    exact .inl rfl
  · rw [(step_of_error device hf he).1]
    exact .inl rfl
  · rw [(step_of_order device ho).1]
    cases o with
    | selectUnit field => exact absurd ho (h field)
    | read sector => exact s.countExecuted.perform_read_controller device sector
    | format | write =>
      refine .inl ?_
      rw [perform, Progress.controller, advance_controller, refuse_controller,
        countExecuted_controller]
    | halt | interrupt | jump | seek | stall | storeStatus | storeAddress | selectDma =>
      exact .inl rfl

end Activity

/-! ## The open image and the latest selection -/

/-- **What is open after some deeds**: the image of the latest attempt, if that one succeeded; and
the latest attempt was for the unit of the latest selection. -/
structure Standing (past : List (Deed S)) (c : Controller S) : Prop where
  image : c.openName? = (Deed.latest Deed.attempt? past).bind fun a => if a.2 then some a.1 else none
  selection : (Deed.latest Deed.attempt? past).map (·.1) =
    (Deed.latest Deed.selection? past).map fun d => unitName d.1 (unitNumber d.2)
  opened : ∀ u, c.mount.mounted = some u → OpenedAs u.name u.image

namespace Standing

variable {past : List (Deed S)} {c : Controller S} {device : UInt8} {s t : Activity S}

theorem release (_ : Standing past c) : Standing (past ++ [.release]) c.release.2 where
  image := by simp [Controller.release, Controller.openName?]
  selection := by simp
  opened := by simp [Controller.release, Mount.release]

/-- The attempt behind an open image. -/
theorem attempt_of_open (h : Standing past c) {name : String} (hopen : c.openName? = some name) :
    Deed.latest Deed.attempt? past = some (name, true) := by
  rw [h.image] at hopen
  rcases hlatest : Deed.latest Deed.attempt? past with _ | ⟨other, _ | _⟩ <;>
    simp_all

/-- The selection behind an attempt. -/
theorem selection_of_attempt (h : Standing past c) {name : String} {succeeded : Bool}
    (hattempt : Deed.latest Deed.attempt? past = some (name, succeeded)) :
    ∃ d field, Deed.latest Deed.selection? past = some (d, field) ∧
      name = unitName d (unitNumber field) := by
  have hselection := h.selection
  rw [hattempt, Option.map_some, eq_comm, Option.map_eq_some_iff] at hselection
  obtain ⟨⟨d, field⟩, hlatest, hname⟩ := hselection
  exact ⟨d, field, hlatest, hname.symm⟩

/-- The attempt behind a selection. -/
theorem attempt_of_selection (h : Standing past c) {d field : UInt8}
    (hselection : Deed.latest Deed.selection? past = some (d, field)) : ∃ succeeded,
    Deed.latest Deed.attempt? past = some (unitName d (unitNumber field), succeeded) := by
  have hattempt := h.selection
  rw [hselection, Option.map_some, Option.map_eq_some_iff] at hattempt
  obtain ⟨⟨name, succeeded⟩, hlatest, hname⟩ := hattempt
  exact ⟨succeeded, by rw [hlatest, ← hname]⟩

/-- A select order: either its unit is open already, so that the latest attempt was for that one, or
it makes an attempt. -/
theorem step_of_select (h : Standing past s.controller) (device : UInt8) {field : UInt8}
    (ho : s.order? = some (.selectUnit field)) :
    Standing (past ++ [.order device s]) (s.step device).2.controller := by
  have hattempt := Activity.attempt_of_select device ho
  have hselection : (Deed.order device s).selection? = some (device, field) := by
    simp [Deed.selection?, ho]
  have hname : (s.selection device field).mount.name? =
      if (s.selection device field).ready then some (unitName device (unitNumber field))
      else none := Mount.name?_select ..
  rw [Activity.step_of_select device ho]
  by_cases hopen : s.controller.openName? = some (unitName device (unitNumber field))
  · have hlatest := h.attempt_of_open hopen
    have hready : (s.selection device field).ready = true := by
      rw [Activity.selection, Mount.select_of_open _ hopen]
    -- no attempt is made, and the latest one, which opened this unit, still stands
    rw [if_pos hopen] at hattempt
    rw [if_pos hready] at hname
    refine ⟨?_, ?_, OpenedAs.select h.opened _ _⟩
    · rw [Deed.latest_order, hattempt, Option.none_or, hlatest]
      exact hname
    · rw [Deed.latest_order, Deed.latest_order, hattempt, hselection, Option.none_or, hlatest]
      rfl
  · -- the attempt made now is the latest, whatever comes of it
    rw [if_neg hopen] at hattempt
    refine ⟨?_, ?_, OpenedAs.select h.opened _ _⟩
    · rw [Deed.latest_order, hattempt]
      exact hname
    · rw [Deed.latest_order, Deed.latest_order, hattempt, hselection]
      rfl

/-- Any other order makes no attempt and leaves the name of the open image. -/
theorem step_of_ne_select (h : Standing past s.controller) (device : UInt8)
    (hselect : ∀ field, s.order? ≠ some (.selectUnit field)) :
    Standing (past ++ [.order device s]) (s.step device).2.controller := by
  have hattempt := Activity.attempt_of_ne_select device hselect
  have hselection : (Deed.order device s).selection? = none := by
    unfold Deed.selection?
    split <;> simp_all
  rcases Activity.step_controller_of_ne_select device hselect with
    hsame | ⟨unit, offset, count, hm, hmoved⟩
  · refine ⟨?_, ?_, ?_⟩
    · rw [Deed.latest_order, hattempt, Option.none_or, hsame]
      exact h.image
    · rw [Deed.latest_order, Deed.latest_order, hattempt, hselection]
      exact h.selection
    · rw [hsame]
      exact h.opened
  · -- a fetch keeps the name, and moves the image
    have hname : (unit.fetch offset count).2.name = unit.name := Mounted.fetch_name rfl
    have himage := h.image
    rw [Controller.openName?, Mount.name?, hm, Option.map_some, ← hname] at himage
    refine ⟨?_, ?_, ?_⟩
    · rw [Deed.latest_order, hattempt, Option.none_or, hmoved]
      exact himage
    · rw [Deed.latest_order, Deed.latest_order, hattempt, hselection]
      exact h.selection
    · rw [hmoved]
      intro u hu
      obtain rfl := Option.some.inj hu
      exact (h.opened unit hm).fetch offset count

/-- **What an order finds open, and what it leaves open.** -/
theorem step (h : Standing past s.controller) (device : UInt8) :
    Standing (past ++ [.order device s]) (s.step device).2.controller := by
  by_cases hselect : ∃ field, s.order? = some (.selectUnit field)
  · obtain ⟨field, ho⟩ := hselect
    exact h.step_of_select device ho
  · exact h.step_of_ne_select device (not_exists.1 hselect)

/-- What holds before a program holds all along it. -/
theorem path (h : Standing past s.controller) {visited : List (Activity S)}
    (hp : Activity.Path device s visited t) :
    Standing (past ++ visited.map (.order device)) t.controller := by
  induction hp generalizing past with
  | nil s => simpa using h
  | @cons s next t visited hstep _ ih =>
    have hs := h.step device
    rw [hstep] at hs
    simpa using ih hs

end Standing

/-- **The history of a controller**: programs that ran to their end, each for a device address of
its own, and releases. A run that ended is such a path, by `Controller.run_eq_some_iff`. -/
inductive History (c : Controller S) : List (Deed S) → Controller S → Prop
  | start : History c [] c
  | run {past : List (Deed S)} {c' : Controller S} {m : Machine} {device : UInt8} {address : Word}
      {visited : List (Activity S)} {t : Activity S} {last : Ended S} :
      History c past c' → Activity.Path device ⟨m, c', { address }⟩ visited t →
      (t.step device).2 = .ended last →
      History c (past ++ (visited ++ [t]).map (.order device)) last.controller
  | release {past : List (Deed S)} {c' : Controller S} :
      History c past c' → History c (past ++ [.release]) c'.release.2

theorem History.standing {cabinet : S} {geometry : Geometry} {past : List (Deed S)}
    {c : Controller S} (h : History ⟨cabinet, {}, geometry⟩ past c) : Standing past c := by
  induction h with
  | start => exact ⟨rfl, rfl, by simp⟩
  | @run past c' m device address visited t last _ hp hlast ih =>
    have ht := (ih.path hp).step device
    rw [hlast, Progress.controller] at ht
    simpa using ht
  | release _ ih => exact ih.release

/-- A read order that goes on with an image open takes its data from that image. -/
theorem Activity.step_read {device : UInt8} {t next : Activity S} {sector : Sector} {u : Mounted S}
    (ho : t.order? = some (.read sector)) (hnext : (t.step device).2 = .running next)
    (hu : t.controller.mount.mounted = some u) : ∃ offset count bytes,
      (u.fetch offset count).1 = .ok bytes ∧
        next.machine = deposit t.machine t.countIndex (wordsOfBytes bytes) := by
  rw [(step_of_order device ho).1] at hnext
  obtain ⟨after, hread, rfl⟩ := running_of_read hnext
  rcases read_ok hread with ⟨hm, -⟩ | ⟨unit, offset, bytes, unit', hm, -, hfetch, rfl⟩
  · rw [countExecuted_controller, hu] at hm
    cases hm
  · obtain rfl := Option.some.inj (hu.symm.trans hm)
    exact ⟨offset, _, bytes, congrArg Prod.fst hfetch, rfl⟩

/-- **Data comes from the unit that was selected last.** Take a controller that was made with no
image open, any history of programs and releases, and a program that is at work. Whatever order
comes next finds an image open exactly when some order has selected a unit since the last release
and the attempt to open it succeeded: the one that the latest of these orders made, or the one that
still stood for its unit. That image was opened under the name of this order's unit and of the
device address that its program was for, and a read order takes its data from it. Names are the
same only for the same unit of the same device. -/
theorem History.image_selected {cabinet : S} {geometry : Geometry} {past : List (Deed S)}
    {c : Controller S} (h : History ⟨cabinet, {}, geometry⟩ past c) {m : Machine} {device : UInt8}
    {address : Word} {visited : List (Activity S)} {t : Activity S}
    (hp : Activity.Path device ⟨m, c, { address }⟩ visited t) :
    let done := past ++ visited.map (.order device)
    (t.controller.mount.isOpen = true ↔ ∃ d field,
      Deed.latest Deed.selection? done = some (d, field) ∧
        Deed.latest Deed.attempt? done = some (unitName d (unitNumber field), true)) ∧
    (∀ d field, Deed.latest Deed.selection? done = some (d, field) → ∃ succeeded,
      Deed.latest Deed.attempt? done = some (unitName d (unitNumber field), succeeded)) ∧
    (∀ u, t.controller.mount.mounted = some u →
      OpenedAs u.name u.image ∧
      (∃ d field, Deed.latest Deed.selection? done = some (d, field) ∧
        u.name = unitName d (unitNumber field)) ∧
      ∀ sector next, t.order? = some (.read sector) → (t.step device).2 = .running next →
        ∃ offset count bytes, (u.fetch offset count).1 = .ok bytes ∧
          next.machine = Activity.deposit t.machine t.countIndex (wordsOfBytes bytes)) ∧
    ∀ d u d' u', unitName d u = unitName d' u' ↔ d = d' ∧ u = u' := by
  intro done
  have hdone : Standing done t.controller := h.standing.path hp
  have hbehind : ∀ u, t.controller.mount.mounted = some u → ∃ d field,
      Deed.latest Deed.selection? done = some (d, field) ∧ u.name = unitName d (unitNumber field) ∧
        Deed.latest Deed.attempt? done = some (u.name, true) := by
    intro u hu
    have hopen : t.controller.openName? = some u.name := by
      rw [Controller.openName?, Mount.name?, hu, Option.map_some]
    have hattempt := hdone.attempt_of_open hopen
    obtain ⟨d, field, hselection, hname⟩ := hdone.selection_of_attempt hattempt
    exact ⟨d, field, hselection, hname, hattempt⟩
  refine ⟨⟨?_, ?_⟩, ?_, ?_, fun d u d' u' => unitName_inj⟩
  · intro hopen
    obtain ⟨u, hu⟩ := Option.isSome_iff_exists.1 hopen
    obtain ⟨d, field, hselection, hname, hattempt⟩ := hbehind u hu
    exact ⟨d, field, hselection, by rw [hattempt, hname]⟩
  · rintro ⟨d, field, -, hattempt⟩
    have himage := hdone.image
    rw [hattempt] at himage
    rw [Mount.isOpen_eq]
    exact congrArg Option.isSome himage
  · intro d field hselection
    exact hdone.attempt_of_selection hselection
  · intro u hu
    obtain ⟨d, field, hselection, hname, -⟩ := hbehind u hu
    refine ⟨hdone.opened u hu, ⟨d, field, hselection, hname⟩, ?_⟩
    intro sector next ho hnext
    exact Activity.step_read ho hnext hu

/-- After a program of one device has selected a unit, a program of another device finds its image
open. -/
theorem image_selected_otherDevice : ∃ past c t u, History oneUnit past c ∧
    Deed.latest Deed.selection? past = some (0o26, 1) ∧
      Activity.Path 0o27 ⟨{}, c, { address := 0 }⟩ [] t ∧ t.controller.mount.mounted = some u ∧
        u.name = unitName 0o26 (unitNumber 1) ∧ OpenedAs u.name u.image := by
  let s : Activity MemoryCabinet := ⟨selecting 1, oneUnit, { address := 0 }⟩
  let t : Activity MemoryCabinet := (s.countExecuted.selectUnit 0o26 1).2.advance 2
  obtain ⟨hs, ht, hp⟩ : s.order? = some (.selectUnit 1) ∧ t.order? = some .halt ∧
      Activity.Path 0o26 s [s] t := path_selecting oneUnit 0o26 1 (by decide) rfl
  have hhistory := History.run .start hp (Activity.step_of_halt 0o26 ht)
  have hselection : Deed.latest Deed.selection? ([] ++ ([s] ++ [t]).map (Deed.order 0o26)) =
      some (0o26, 1) := by
    simp [Deed.latest, Deed.selection?, hs, ht]
  have hnext : Activity.Path 0o27 ⟨{}, t.controller, { address := 0 }⟩ [] _ := .nil _
  obtain ⟨hopened, ⟨d, field, hlatest, hname⟩, -⟩ :=
    (History.image_selected hhistory hnext).2.2.1 _ rfl
  rw [List.map_nil, List.append_nil, hselection] at hlatest
  obtain ⟨rfl, rfl⟩ := Prod.mk.inj (Option.some.inj hlatest)
  exact ⟨_, _, _, _, hhistory, hselection, hnext, rfl, hname, hopened⟩

end PeripheralBus
