import PeripheralBus.Proofs.Channel.Ending
import PeripheralBus.Proofs.Channel.Lifetime
import PeripheralBus.Proofs.Channel.Listing

/-!
# The status of a controller

The status word is the only news that a channel program gets of its unit. It starts ready in every
program and becomes not ready by the first order that is not **served**: a selection that leaves its
unit closed, or an order that moves data and finds no image open. From then on it stays.

* `Activity.served`: whether the next order gets what it asks of a unit.
* `statusAfter`: the status that a history of orders makes.
* `step_status`: what one order does to the status.
* `Path.status_eq`: the status on a path is the one that its orders make.
* `status_truthful`: so it is at every moment of every run, in every word that is stored, and in
  the result.
-/

namespace PeripheralBus

open Pack

variable {S : Type} [Cabinet S]

namespace Activity

/-- **Whether the next order is served**: a selection leaves its unit's image open, and an order
that moves data finds an image open. Other orders ask nothing of a unit, nor does an order that is
stepped over. -/
def served (device : UInt8) (s : Activity S) : Bool :=
  match s.order? with
  | some (.selectUnit field) =>
    (s.step device).2.controller.openName? = some (unitName device (unitNumber field))
  | some (.format _) | some (.read _) | some (.write _) => s.controller.mount.isOpen
  | _ => true

/-- **The status that orders make**: ready if all of them were served. -/
def statusAfter (device : UInt8) (visited : List (Activity S)) : Word :=
  if visited.all (served device) then 0o100000 else 0o100001

variable {device : UInt8} {s t : Activity S}

/-! ## One order -/

theorem selectUnit_status (s : Activity S) (device field : UInt8) :
    (s.selectUnit device field).2.registers.status =
      if (s.selectUnit device field).2.controller.openName? =
          some (unitName device (unitNumber field)) then s.registers.status
      else statusNotReady := by
  have hname := s.controller.mount.name?_select s.controller.cabinet
    (unitName device (unitNumber field))
  rw [selectUnit_controller, Controller.openName?, hname, selectUnit_registers]
  split <;> simp_all

/-- **What a step does to the status**: it makes it not ready if the order is not served. -/
theorem step_status {next : Activity S} (h : (s.step device).2 = .running next) :
    next.registers.status = if s.served device then s.registers.status else statusNotReady := by
  rcases step_running h with ⟨hnone, rfl⟩ | ⟨o, ho, hperform⟩
  · simp [served, hnone, stepOver]
  · cases o with
    | halt | interrupt => simp [perform, finish] at hperform
    | selectUnit field =>
      simp only [perform, Progress.running.injEq] at hperform
      simp only [served, ho, h, decide_eq_true_eq, Progress.controller]
      rw [← hperform, advance_controller]
      exact s.countExecuted.selectUnit_status device field
    | format sector | write sector =>
      simp only [perform, Progress.running.injEq] at hperform
      simp only [served, ho]
      rw [← hperform]
      exact congrArg Registers.status (s.countExecuted.refuse_registers _)
    | read sector =>
      obtain ⟨after, hread, rfl⟩ := running_of_read hperform
      simp only [served, ho]
      exact congrArg Registers.status (read_registers hread)
    | _ =>
      -- the others ask nothing of a unit
      simp only [perform, Progress.running.injEq] at hperform
      simp only [served, ho, if_true]
      rw [← hperform]
      rfl

/-! ## Programs -/

/-- **The status on a path** is the one that its orders make of the status before. -/
theorem Path.status_eq {visited : List (Activity S)} (hp : Path device s visited t) :
    t.registers.status =
      if visited.all (served device) then s.registers.status else statusNotReady := by
  induction hp with
  | nil s => rfl
  | @cons s next t visited hstep _ ih =>
    rw [ih, step_status hstep, List.all_cons]
    cases served device s <;> simp

/-- Once not ready, a status stays so. -/
theorem Path.status_of_notReady {visited : List (Activity S)} (hp : Path device s visited t)
    (hs : s.registers.status = statusNotReady) : t.registers.status = statusNotReady := by
  rw [hp.status_eq, hs, ite_self]

end Activity

/-- **The status word tells the truth and never recovers within a program.** Take a program of any
controller, whatever programs it ran before. At every moment the status is ready if all orders so
far were served, and not ready otherwise; once not ready it stays so. Every order that stores the
status stores this word, and a program that halts ends with it. -/
theorem Controller.status_truthful (c : Controller S) (m : Machine) (device : UInt8)
    (address : Word) :
    (∀ visited t, Activity.Path device ⟨m, c, { address }⟩ visited t →
      t.registers.status = Activity.statusAfter device visited ∧
      (∀ more u, Activity.Path device t more u → t.registers.status = statusNotReady →
        u.registers.status = statusNotReady) ∧
      (∀ place, t.order? = some (.storeStatus place) → ∃ next,
        (t.step device).2 = .running next ∧
          next.machine = t.machine.write place (Activity.statusAfter device visited))) ∧
    ∀ limit events last done, c.run limit m device address = some (events, last) →
      last.result = .ok done → ∃ visited t, Activity.Path device ⟨m, c, { address }⟩ visited t ∧
        t.order? = some .halt ∧ (t.step device).2 = .ended last ∧
        done.status = Activity.statusAfter device visited := by
  have hstatus : ∀ visited t, Activity.Path device ⟨m, c, { address }⟩ visited t →
      t.registers.status = Activity.statusAfter device visited := by
    intro visited t hp
    exact hp.status_eq
  constructor
  · intro visited t hp
    refine ⟨hstatus visited t hp, ?_, ?_⟩
    · intro more u hmore hnot
      exact hmore.status_of_notReady hnot
    · intro place ho
      refine ⟨_, (Activity.step_of_order device ho).1, ?_⟩
      rw [Activity.advance_machine, ← hstatus visited t hp]
      rfl
  · intro limit events last done hrun hok
    obtain ⟨visited, t, hp, hlast, -, -⟩ := Controller.run_eq_some_iff.1 hrun
    obtain ⟨ho, hdone⟩ := Activity.halt_of_step_ok hlast hok
    refine ⟨visited, t, hp, ho, hlast, ?_⟩
    rw [hdone, ← hstatus visited t hp]
    rfl

/-- A machine whose program selects unit 1, then unit 0, stores the status and halts. -/
def recovering : Machine :=
  { memory := Memory.zero.writeAll 0 (Order.toWords (.selectUnit 2) false ++
      Order.toWords (.selectUnit 1) false ++ Order.toWords (.storeStatus 0o400) false) }

theorem order?_recovering {s : Activity S} (hs : s.machine = recovering) :
    (s.registers.address = 0 → s.order? = some (.selectUnit 2)) ∧
      (s.registers.address = 2 → s.order? = some (.selectUnit 1)) ∧
      (s.registers.address = 4 → s.order? = some (.storeStatus 0o400)) := by
  have hwords : s.machine.memory.Has 0
      (Listing.wordsOf [.selectUnit 2, .selectUnit 1, .storeStatus 0o400]) := by
    rw [hs]
    exact Memory.has_writeAll (by decide)
  have hfits : ∀ o ∈ [Order.selectUnit 2, .selectUnit 1, .storeStatus 0o400], o.Fits := by
    simp [Order.Fits]
  refine ⟨?_, ?_, ?_⟩ <;> intro haddress <;>
    exact Listing.order?_of_has hwords hfits (by rw [haddress]; rfl)

/-- The status that is stored after a missing unit tells of it, although the unit that was selected
later is open. -/
theorem status_truthful_recovering : ∃ visited t next,
    Activity.Path 0o26 ⟨recovering, oneUnit, { address := 0 }⟩ visited t ∧
      t.controller.openName? = some (unitName 0o26 0) ∧ (t.step 0o26).2 = .running next ∧
      next.machine.memory.read 0o400 = 0o100001 := by
  let s : Activity MemoryCabinet := ⟨recovering, oneUnit, { address := 0 }⟩
  let s' : Activity MemoryCabinet := (s.countExecuted.selectUnit 0o26 2).2.advance 2
  let t : Activity MemoryCabinet := (s'.countExecuted.selectUnit 0o26 1).2.advance 2
  have hs : (s.step 0o26).2 = .running s' :=
    (Activity.step_of_order 0o26 ((order?_recovering rfl).1 rfl)).1
  have hs' : (s'.step 0o26).2 = .running t :=
    (Activity.step_of_order 0o26 ((order?_recovering rfl).2.1 rfl)).1
  have hp := Activity.Path.cons hs (.cons hs' (.nil t))
  have ht : t.order? = some (.storeStatus 0o400) := (order?_recovering rfl).2.2 rfl
  obtain ⟨hstatus, -, hstore⟩ := (Controller.status_truthful oneUnit recovering 0o26 0).1 _ _ hp
  obtain ⟨next, hnext, hmachine⟩ := hstore _ ht
  refine ⟨_, t, next, hp, rfl, hnext, ?_⟩
  rw [hmachine, ← hstatus, Machine.write, Memory.read_write, if_pos rfl]
  rfl

end PeripheralBus
