import PeripheralBus.Bus
import PeripheralBus.Line.KeyboardTerminal
import PeripheralBus.Pack.MemoryCabinet
import PeripheralBus.Proofs.Channel.Codec
import PeripheralBus.Proofs.Channel.Effects
import PeripheralBus.Proofs.Pack.Custody

/-!
# The images of a controller

A controller opens, closes and positions images from the day it is made to the day it is dropped.
Only a select order opens or closes one, or a release, and each step hands the image that is open on
to the next.

* `perform_custody`, `step_custody`: what an order does to images leads from the image that is open
  before it to the one that is open after it.
* `Lifetime`: channel programs, instructions and releases in any order.
* `Lifetime.images_alternate`: over a lifetime and the drop at its end images are opened and closed
  one at a time, and all that was opened is closed.
-/

namespace PeripheralBus

open Pack

variable {S : Type} [Cabinet S]

/-! ## Selecting -/

namespace Pack.Mount

theorem custody_release (m : Mount S) :
    Custody m.name? (Event.packEvents m.release.1) m.release.2.name? := by
  rw [release, closingEvents]
  rcases m with ⟨_ | unit⟩
  · exact .nil none
  · exact .closed (.nil none)

theorem custody_dropEvents (m : Mount S) :
    Custody m.name? (Event.packEvents m.dropEvents) none := by
  rw [dropEvents]
  rcases m with ⟨_ | unit⟩
  · exact .nil none
  · exact .closed (.nil none)

/-- Selecting closes the image that is open before it tries to open another. -/
theorem custody_select (m : Mount S) (cabinet : S) (name : String) :
    Custody m.name? (Event.packEvents (m.select cabinet name).events)
      (m.select cabinet name).mount.name? := by
  unfold select
  split
  · exact .nil _
  · have hclosing := m.custody_release
    rcases hopen : Cabinet.openImage cabinet name with ⟨e | image, cabinet'⟩
    · simp only [Event.packEvents_append]
      exact hclosing.append (.failed (.nil none))
    · simp only [Event.packEvents_append]
      exact hclosing.append (.opened (.nil (some name)))

/-- A selection asks the cabinet for no image but its own. -/
theorem name_of_opening {m : Mount S} {cabinet : S} {name other : String} {succeeded : Bool}
    (h : .opening other succeeded ∈ Event.packEvents (m.select cabinet name).events) :
    other = name := by
  have hclosing : .opening other succeeded ∉ Event.packEvents m.closingEvents := by
    rw [closingEvents]
    rcases m with ⟨_ | unit⟩ <;> simp
  unfold select at h
  split at h
  · simp at h
  · split at h <;> simp_all

/-- An image is not opened again while it is open. -/
theorem name?_ne_of_opening {m : Mount S} {cabinet : S} {name other : String} {succeeded : Bool}
    (h : .opening other succeeded ∈ Event.packEvents (m.select cabinet name).events) :
    m.name? ≠ some other := by
  intro hopen
  have hname : other = name := name_of_opening h
  rw [select, if_pos (hname ▸ hopen)] at h
  simp at h

end Pack.Mount

/-- The controller when a step is over. -/
def Progress.controller : Progress S → Controller S
  | .running next => next.controller
  | .ended last => last.controller

namespace Activity

variable {device : UInt8} {s t : Activity S}

/-! ## One order -/

@[simp] theorem packEvents_refuse (name : String) :
    Event.packEvents (s.refuse name).1 = [] := by
  unfold refuse
  split <;> rfl

/-- What a read order does to images: it moves the one that is open, or does nothing. -/
theorem read_packEvents (s : Activity S) (sector : Sector) :
    Event.packEvents (s.read sector).1 = [] ∨ ∃ name offset,
      s.controller.openName? = some name ∧
        Event.packEvents (s.read sector).1 = [.seeking name offset] := by
  rcases s.read_cases sector with ⟨-, -, hevents⟩ | ⟨-, -, hevents⟩ |
    ⟨unit, offset, fetched, unit', hm, -, -, -, hevents, -⟩
  · exact .inl hevents
  · exact .inl hevents
  · refine .inr ⟨unit.name, offset, ?_, hevents⟩
    rw [Controller.openName?, Mount.name?, hm]
    rfl

/-- A read order that goes on leaves the image open under its name. -/
theorem read_ok_openName {sector : Sector} (h : (s.read sector).2 = .ok t) :
    t.controller.openName? = s.controller.openName? := by
  rcases read_ok h with ⟨-, rfl⟩ | ⟨unit, offset, bytes, unit', hm, -, hfetch, rfl⟩
  · rfl
  · have hname : unit'.name = unit.name := Mounted.fetch_name hfetch
    simp [Controller.openName?, Mount.name?, hm, hname]

/-- What an order other than a selection does to images: none is opened or closed, and the one that
is open stays open. -/
theorem perform_of_ne_select (s : Activity S) (device : UInt8) {o : Order}
    (ho : ∀ field, o ≠ .selectUnit field) :
    (s.perform device o).2.controller.openName? = s.controller.openName? ∧
      (Event.packEvents (s.perform device o).1 = [] ∨ ∃ name offset,
        s.controller.openName? = some name ∧
          Event.packEvents (s.perform device o).1 = [.seeking name offset]) := by
  cases o with
  | selectUnit field => exact absurd rfl (ho field)
  | read sector =>
    have hevents := s.read_packEvents sector
    rcases hread : s.read sector with ⟨events, ⟨fault, c⟩ | next⟩
    · rw [hread] at hevents
      simp only [perform, hread]
      exact ⟨(read_error (congrArg Prod.snd hread)).2, hevents⟩
    · have hname := read_ok_openName (congrArg Prod.snd hread)
      rw [hread] at hevents
      simp only [perform, hread]
      exact ⟨hname, hevents⟩
  | format | write =>
    simp only [perform]
    refine ⟨?_, .inl (packEvents_refuse _)⟩
    rw [Progress.controller, advance_controller, refuse_controller]
  | halt | interrupt | jump | seek | stall | storeStatus | storeAddress | selectDma =>
    exact ⟨rfl, .inl rfl⟩

/-- A selection leaves the mount and the cabinet as its mount does. -/
theorem selectUnit_controller (s : Activity S) (device field : UInt8) :
    (s.selectUnit device field).2.controller =
      { s.controller with
        cabinet := (s.controller.mount.select s.controller.cabinet
          (unitName device (unitNumber field))).cabinet
        mount := (s.controller.mount.select s.controller.cabinet
          (unitName device (unitNumber field))).mount } := by
  unfold selectUnit
  dsimp only
  split <;> rfl

/-- What a selection does to images is what its mount does. -/
theorem perform_selectUnit (s : Activity S) (device field : UInt8) :
    ∃ name, Event.packEvents (s.perform device (.selectUnit field)).1 = Event.packEvents
        (s.controller.mount.select s.controller.cabinet name).events ∧
      (s.perform device (.selectUnit field)).2.controller.openName? =
        (s.controller.mount.select s.controller.cabinet name).mount.name? := by
  refine ⟨unitName device (unitNumber field), rfl, ?_⟩
  rw [perform, Progress.controller, advance_controller, selectUnit_controller]
  rfl

/-- **What an order does to images** leads from the one that is open before it to the one that is
open after it. -/
theorem perform_custody (s : Activity S) (device : UInt8) (o : Order) :
    Custody s.controller.openName? (Event.packEvents (s.perform device o).1)
      (s.perform device o).2.controller.openName? := by
  by_cases ho : ∃ field, o = .selectUnit field
  · obtain ⟨field, rfl⟩ := ho
    obtain ⟨name, hevents, hname⟩ := s.perform_selectUnit device field
    rw [hevents, hname]
    exact Mount.custody_select ..
  · obtain ⟨hname, hevents⟩ := s.perform_of_ne_select device (not_exists.1 ho)
    rw [hname]
    rcases hevents with hevents | ⟨name, offset, hopen, hevents⟩
    · rw [hevents]
      exact .nil _
    · rw [hevents, hopen]
      exact .seeking (.nil _)

/-- **What a step does to images.** -/
theorem step_custody (s : Activity S) (device : UInt8) :
    Custody s.controller.openName? (Event.packEvents (s.step device).1)
      (s.step device).2.controller.openName? := by
  rcases step_cases s with hf | ⟨hf, code, he⟩ | ⟨o, ho⟩
  -- neither an order that is stepped over nor a word that is none comes to an image
  · obtain ⟨hnext, hevents⟩ := step_of_flagged device hf
    rw [hnext, hevents]
    exact .nil _
  · obtain ⟨hnext, hevents⟩ := step_of_error device hf he
    rw [hnext, hevents]
    exact .nil _
  · obtain ⟨hnext, hevents⟩ := step_of_order device ho
    rw [hnext, hevents]
    exact s.countExecuted.perform_custody device o

/-- Only a step that selects does more than move the image that is open. -/
theorem step_seeking (h : ∀ field, s.order? ≠ some (.selectUnit field)) :
    ∀ e ∈ Event.packEvents (s.step device).1, IsSeeking e := by
  intro e he
  rcases step_cases s with hf | ⟨hf, code, herror⟩ | ⟨o, ho⟩
  · rw [(step_of_flagged device hf).2] at he
    simp at he
  · rw [(step_of_error device hf herror).2] at he
    simp at he
  · have hne : ∀ field, o ≠ .selectUnit field := by
      rintro field rfl
      exact h field ho
    rw [(step_of_order device ho).2] at he
    obtain ⟨-, hevents | ⟨name, offset, -, hevents⟩⟩ :=
      s.countExecuted.perform_of_ne_select device hne
    · rw [hevents] at he
      simp at he
    · rw [hevents, List.mem_singleton] at he
      exact ⟨name, offset, he⟩

/-- **No step tries to open the image that is open.** -/
theorem step_opening {name : String} {succeeded : Bool}
    (h : .opening name succeeded ∈ Event.packEvents (s.step device).1) :
    s.controller.openName? ≠ some name := by
  by_cases hselect : ∃ field, s.order? = some (.selectUnit field)
  · obtain ⟨field, ho⟩ := hselect
    obtain ⟨other, hevents, -⟩ := s.countExecuted.perform_selectUnit device field
    rw [(step_of_order device ho).2, hevents] at h
    exact Mount.name?_ne_of_opening h
  · obtain ⟨other, offset, he⟩ := step_seeking (not_exists.1 hselect) _ h
    cases he

/-! ## Programs -/

theorem packEvents_eventsOf (visited : List (Activity S)) :
    Event.packEvents (eventsOf device visited) =
      visited.flatMap fun s => Event.packEvents (s.step device).1 := by
  rw [eventsOf, Event.packEvents, List.filterMap_flatMap]
  rfl

/-- What the steps on a path do to images. -/
theorem Path.custody {visited : List (Activity S)} (hp : Path device s visited t) :
    Custody s.controller.openName? (Event.packEvents (eventsOf device visited))
      t.controller.openName? := by
  induction hp with
  | nil s => exact .nil _
  | @cons s next t visited hstep _ ih =>
    have hs := s.step_custody device
    rw [hstep] at hs
    simp only [eventsOf, List.flatMap_cons, Event.packEvents_append]
    exact hs.append ih

end Activity

namespace Controller

variable {c : Controller S} {events : List Event}

/-- **What a channel program does to images.** -/
theorem run_custody {limit : ℕ} {m : Machine} {device : UInt8} {address : Word} {last : Ended S}
    (h : c.run limit m device address = some (events, last)) :
    Custody c.openName? (Event.packEvents events) last.controller.openName? := by
  obtain ⟨visited, t, hp, ht, -, rfl⟩ := run_eq_some_iff.1 h
  have hlast := t.step_custody device
  rw [ht] at hlast
  rw [Activity.eventsOf, List.flatMap_append, Event.packEvents_append, List.flatMap_singleton]
  exact hp.custody.append hlast

/-- A channel program that executes no select order opens and closes nothing. -/
theorem run_seeking {limit : ℕ} {m : Machine} {device : UInt8} {address : Word} {last : Ended S}
    (h : c.run limit m device address = some (events, last))
    (hselect : ∀ t, Activity.Reaches device ⟨m, c, { address }⟩ t →
      ∀ field, t.order? ≠ some (.selectUnit field)) :
    ∀ e ∈ Event.packEvents events, IsSeeking e := by
  obtain ⟨visited, t, hp, -, -, rfl⟩ := run_eq_some_iff.1 h
  intro e he
  rw [Activity.packEvents_eventsOf] at he
  obtain ⟨a, ha, he⟩ := List.mem_flatMap.1 he
  have hreach : Activity.Reaches device ⟨m, c, { address }⟩ a := by
    rcases List.mem_append.1 ha with ha | ha
    · exact hp.reaches a ha
    · rw [List.mem_singleton.1 ha]
      exact ⟨visited, hp⟩
  exact Activity.step_seeking (hselect a hreach) e he

/-- What an instruction does to images is what its channel program does. -/
theorem perform_custody {limit : ℕ} {i : Instruction} {m : Machine} {r : Reply (Controller S)}
    (h : c.perform limit i m = some r) :
    Custody c.openName? (Event.packEvents r.events) r.device.openName? := by
  unfold perform at h
  split at h
  -- control, sense, input and output in this order; only the last runs a program
  · obtain rfl := Option.some.inj h
    have hevents : Event.packEvents (controlEvents i) = [] := by
      unfold controlEvents
      split <;> rfl
    simp only [hevents]
    exact .nil _
  · obtain rfl := Option.some.inj h
    exact .nil _
  · obtain rfl := Option.some.inj h
    unfold input
    split <;> exact .nil _
  · unfold output at h
    split at h
    · obtain ⟨⟨events, last⟩, hrun, rfl⟩ := Option.map_eq_some_iff.1 h
      have hcustody := run_custody hrun
      unfold programReply
      split
      · exact hcustody
      · simpa [Reply.succeed] using hcustody
    · obtain rfl := Option.some.inj h
      exact .nil _

end Controller

/-! ## Lifetimes -/

/-- **The lifetime of a controller**, with the events on the way: channel programs that end or are
still at work, instructions, and releases in any order. -/
inductive Lifetime : Controller S → List Event → Controller S → Prop
  | nil (c : Controller S) : Lifetime c [] c
  | run {c c' : Controller S} {limit : ℕ} {m : Machine} {device : UInt8} {address : Word}
      {events more : List Event} {last : Ended S} :
      c.run limit m device address = some (events, last) → Lifetime last.controller more c' →
      Lifetime c (events ++ more) c'
  | working {c : Controller S} {m : Machine} {device : UInt8} {address : Word}
      {visited : List (Activity S)} {t : Activity S} :
      Activity.Path device ⟨m, c, { address }⟩ visited t →
      Lifetime c (Activity.eventsOf device visited) t.controller
  | instruction {c c' : Controller S} {limit : ℕ} {i : Instruction} {m : Machine}
      {r : Reply (Controller S)} {more : List Event} :
      c.perform limit i m = some r → Lifetime r.device more c' → Lifetime c (r.events ++ more) c'
  | release {c c' : Controller S} {more : List Event} :
      Lifetime c.release.2 more c' → Lifetime c (c.release.1 ++ more) c'

/-- What dropping a controller does, by itself or because another device takes its place on a
bus. -/
inductive Dropped (T : Type) [Line.Terminal T] : Controller S → List Event → Prop
  | alone (c : Controller S) : Dropped T c c.mount.dropEvents
  | replaced {c : Controller S} {b b' : Bus T S} {address : UInt8} {d : Device T S}
      {events : List Event} : b.device address = .disk c → b.attach address d = .ok (events, b') →
      Dropped T c events

variable {T : Type} [Line.Terminal T] {c c' : Controller S} {events dropped : List Event}

theorem Dropped.custody (h : Dropped T c dropped) :
    Custody c.openName? (Event.packEvents dropped) none := by
  cases h with
  | alone => exact c.mount.custody_dropEvents
  | replaced hdevice hattach =>
    unfold Bus.attach at hattach
    split at hattach
    · simp only [hdevice, Except.ok.injEq, Prod.mk.injEq] at hattach
      rw [← hattach.1]
      exact c.mount.custody_dropEvents
    · simp at hattach

theorem Lifetime.custody (h : Lifetime c events c') :
    Custody c.openName? (Event.packEvents events) c'.openName? := by
  induction h with
  | nil c => exact .nil _
  | run hrun _ ih =>
    rw [Event.packEvents_append]
    exact (Controller.run_custody hrun).append ih
  | working hp => exact hp.custody
  | instruction hperform _ ih =>
    rw [Event.packEvents_append]
    exact (Controller.perform_custody hperform).append ih
  | @release c c' more _ ih =>
    rw [Event.packEvents_append]
    exact c.mount.custody_release.append ih

/-- **Images are opened and closed in strict alternation.** Over the lifetime of a controller that
starts with no image open, whatever its cabinet answers, at most one image is open at a time, an
opening is tried only when none is open, and what is closed is what is open. When the controller has
been dropped, every image that was opened has been closed, once. A program that executes no select
order opens and closes nothing, and no order tries to open the image that is open when the order is
fetched. -/
theorem Lifetime.images_alternate {cabinet : S} {geometry : Geometry}
    (h : Lifetime ⟨cabinet, {}, geometry⟩ events c) (hdropped : Dropped T c dropped) :
    OneAtATime (Event.packEvents (events ++ dropped)) ∧
    Settled (Event.packEvents (events ++ dropped)) ∧
    (∀ (c : Controller S) (limit : ℕ) (m : Machine) (device : UInt8) (address : Word)
      (events : List Event) (last : Ended S),
      c.run limit m device address = some (events, last) →
      (∀ t, Activity.Reaches device ⟨m, c, { address }⟩ t →
        ∀ field, t.order? ≠ some (.selectUnit field)) →
      ∀ e ∈ Event.packEvents events, IsSeeking e) ∧
    (∀ (s : Activity S) (device : UInt8) (name : String) (succeeded : Bool),
      .opening name succeeded ∈ Event.packEvents (s.step device).1 →
      s.controller.openName? ≠ some name) := by
  have hcustody : Custody none (Event.packEvents (events ++ dropped)) none := by
    -- a new controller has no image open, and a dropped one leaves none
    rw [Event.packEvents_append]
    exact h.custody.append hdropped.custody
  refine ⟨hcustody.oneAtATime, hcustody.settled, ?_, ?_⟩
  · intro c limit m device address events last hrun hselect
    exact Controller.run_seeking hrun hselect
  · intro s device name succeeded hopening
    exact Activity.step_opening hopening

/-- A machine whose program selects a unit and halts. -/
def selecting (field : UInt8) : Machine :=
  { memory := Memory.zero.writeAll 0 (Order.toWords (.selectUnit field) false) }

/-- A controller of which only unit 0 of device 26 has an image. -/
def oneUnit : Controller MemoryCabinet where
  cabinet := ⟨[(unitName 0o26 0, .empty)]⟩

/-- The two orders of the program. -/
theorem order?_selecting {s : Activity S} {field : UInt8} (hfield : field < 16)
    (hs : s.machine.memory = (selecting field).memory) :
    (s.registers.address = 0 → s.order? = some (.selectUnit field)) ∧
      (s.registers.address = 2 → s.order? = some .halt) := by
  constructor
  · intro haddress
    have hwords : Order.toWords (.selectUnit field) false <+: s.words.toList := by
      simp [Activity.words, hs, haddress, selecting, Memory.orderWords, Memory.writeAll,
        Order.toWords, Order.operandWords, OrderWords.toList, Memory.read_write]
    have hfits : (Order.selectUnit field).Fits := hfield
    rw [Activity.order?_eq_some_iff, Order.ofWords_of_toWords hwords,
      Order.narrowed_of_fits hfits]
    exact ⟨(Order.code_of_toWords hwords).2, rfl⟩
  · intro haddress
    rw [Activity.order?_eq_some_iff, Activity.words, hs, haddress]
    simp [selecting, Memory.orderWords, Memory.writeAll, Order.toWords, Order.operandWords,
      Memory.read_write]
    decide

/-- The program comes from one to the other. -/
theorem path_selecting (c : Controller S) (device field : UInt8) {m : Machine}
    (hfield : field < 16) (hm : m.memory = (selecting field).memory) :
    let s : Activity S := ⟨m, c, { address := 0 }⟩
    let t : Activity S := (s.countExecuted.selectUnit device field).2.advance 2
    s.order? = some (.selectUnit field) ∧ t.order? = some .halt ∧
      Activity.Path device s [s] t := by
  intro s t
  have hs : s.order? = some (.selectUnit field) := (order?_selecting hfield hm).1 rfl
  have ht : t.order? = some .halt := by
    refine (order?_selecting hfield ?_).2 ?_
    · rw [Activity.advance_machine, Activity.selectUnit_machine]
      exact hm
    · simp only [t, s, Activity.advance, Activity.goto, Activity.selectUnit]
      split <;> rfl
  exact ⟨hs, ht, .cons (Activity.step_of_order device hs).1 (.nil t)⟩

theorem run_selecting (c : Controller MemoryCabinet) (field : UInt8)
    (hfield : field < 16) :
    let selection := c.mount.select c.cabinet (unitName 0o26 (unitNumber field))
    ∃ events last, c.run 2 (selecting field) 0o26 0 = some (events, last) ∧
      Event.packEvents events = Event.packEvents selection.events ∧
      last.controller = { c with cabinet := selection.cabinet, mount := selection.mount } := by
  obtain ⟨hs, ht, hp⟩ := path_selecting c 0o26 field hfield rfl
  obtain ⟨hlast, hevents'⟩ := Activity.step_of_order 0o26 ht
  have hevents := (Activity.step_of_order 0o26 hs).2
  have hrun := Controller.run_eq_some_iff.2 ⟨_, _, hp, hlast, Nat.lt_succ_self 1, rfl⟩
  refine ⟨_, _, hrun, ?_, ?_⟩
  · rw [Activity.packEvents_eventsOf]
    simp only [List.cons_append, List.nil_append, List.flatMap_cons, List.flatMap_nil, hevents,
      hevents', List.append_nil]
    exact List.append_nil _
  · simp only [Activity.countExecuted_controller, Activity.advance_controller,
      Activity.selectUnit_controller]

/-- Three programs on a controller with one image, which is found, missed, and found again, before
another device takes the controller's place. -/
theorem images_alternate_selecting : ∃ events c dropped,
    Lifetime (⟨⟨[(unitName 0o26 0, .empty)]⟩, {}, {}⟩ : Controller MemoryCabinet) events c ∧
      Dropped Line.KeyboardTerminal c dropped ∧
      Event.packEvents (events ++ dropped) =
        [.opening (unitName 0o26 0) true, .closed (unitName 0o26 0),
          .opening (unitName 0o26 1) false, .opening (unitName 0o26 0) true,
          .closed (unitName 0o26 0)] ∧
      OneAtATime (Event.packEvents (events ++ dropped)) := by
  obtain ⟨events₁, last₁, hrun₁, hevents₁, hlast₁⟩ :=
    run_selecting ⟨⟨[(unitName 0o26 0, .empty)]⟩, {}, {}⟩ 1 (by decide)
  obtain ⟨events₂, last₂, hrun₂, hevents₂, hlast₂⟩ :=
    run_selecting last₁.controller 2 (by decide)
  obtain ⟨events₃, last₃, hrun₃, hevents₃, hlast₃⟩ :=
    run_selecting last₂.controller 1 (by decide)
  have hlife := Lifetime.run hrun₁ (.run hrun₂ (.run hrun₃ (.nil _)))
  have hdevice : (({} : Bus Line.KeyboardTerminal MemoryCabinet).set 0o26
      (.disk last₃.controller)).device 0o26 = .disk last₃.controller := by
    rw [Bus.device_set _ _ _ _ (by decide), if_pos rfl]
  have hdropped := Dropped.replaced (d := .null) hdevice (if_pos (by decide))
  refine ⟨_, _, _, hlife, hdropped, ?_, (Lifetime.images_alternate hlife hdropped).1⟩
  simp only [hlast₃, hlast₂, hlast₁, Event.packEvents_append, hevents₁, hevents₂, hevents₃]
  rfl

end PeripheralBus
