import PeripheralBus.Pack.MemoryCabinet
import PeripheralBus.Proofs.Channel.Codec
import PeripheralBus.Proofs.Channel.Effects

/-!
# How a program ends

A program ends at one order: a halt, an interrupt order, a word that is no order, or a read order
that fails. That order is still in memory afterwards, for it changes nothing, however far into a
transfer a read order has come.

* `StopsWith`: memory has an order of a code at an address, without the execute-if flag.
* `Ending`: the results of a program, by the order that ended it.
* `step_ended`: a step that ends a program leaves the machine and the name of the open image.
* `step_of_halt`, `halt_of_step_ok`: a program ends well at a halt order and nowhere else.
* `run_ended`: a run ends with the machine that its last order was fetched from, and the order that
  the result tells of is in its memory.
-/

namespace PeripheralBus

open Pack

variable {S : Type} [Cabinet S]

/-- Memory has an order of this code at an address, without the execute-if flag. -/
def Memory.StopsWith (m : Memory) (address : Word) (code : UInt8) : Prop :=
  (m.orderWords address).code = code ∧ (m.orderWords address).flagged = false

/-- **What a program can end with** at an address, by the order that memory has there. -/
inductive Ending (m : Memory) (here : Word) : Except Fault Completion → Prop
  | halt {done : Completion} (haddress : done.address = here) (hstop : m.StopsWith here 0) :
      Ending m here (.ok done)
  | unrecognized {code : UInt8} (hstop : m.StopsWith here code)
      (hcode : code = 1 ∨ code = 8 ∨ code = 10 ∨ code = 12) :
      Ending m here (.error (.unrecognizedOrder code here))
  | interrupt {vector : Word} (hstop : m.StopsWith here 14) (hvector : m.read (here + 1) = vector) :
      Ending m here (.error (.interruptOrder vector here))
  | read {fault : Fault} (hstop : m.StopsWith here 5) (hfault : Activity.ReadFault fault) :
      Ending m here (.error fault)

namespace Ending

variable {m : Memory} {here : Word} {result : Except Fault Completion}

/-- A halt order is where the result says. -/
theorem stopsWith_of_ok {done : Completion} (h : Ending m here (.ok done)) :
    m.StopsWith done.address 0 := by
  cases h with
  | halt haddress hstop => rwa [haddress]

/-- The code of a result that tells of no order is where the result says. -/
theorem stopsWith_of_unrecognized {code : UInt8} {address : Word}
    (h : Ending m here (.error (.unrecognizedOrder code address))) :
    m.StopsWith address code ∧ (code = 1 ∨ code = 8 ∨ code = 10 ∨ code = 12) := by
  cases h with
  | unrecognized hstop hcode => exact ⟨hstop, hcode⟩
  | read _ hfault => cases hfault

/-- An interrupt order and its vector are where the result says. -/
theorem stopsWith_of_interrupt {vector address : Word}
    (h : Ending m here (.error (.interruptOrder vector address))) :
    m.StopsWith address 14 ∧ m.read (address + 1) = vector := by
  cases h with
  | interrupt hstop hvector => exact ⟨hstop, hvector⟩
  | read _ hfault => cases hfault

end Ending

namespace Activity

variable {device : UInt8} {s : Activity S} {last : Ended S}

/-- Where an order is executed next, memory has its code and no flag. -/
theorem stopsWith_of_order {o : Order} (h : s.order? = some o) :
    s.machine.memory.StopsWith s.registers.address o.code := by
  obtain ⟨hf, ho⟩ := order?_eq_some_iff.1 h
  exact ⟨Order.code_of_ofWords ho, hf⟩

/-- **A step that ends a program** leaves the machine and the name of the open image, and its order
is not flagged. -/
theorem step_ended (h : (s.step device).2 = .ended last) :
    last.machine = s.machine ∧ last.controller.openName? = s.controller.openName? ∧
      s.words.flagged = false ∧
      Ending s.machine.memory s.registers.address last.result := by
  rcases step_ends h with ⟨code, hf, he, rfl⟩ | ⟨o, ho, hperform⟩
  · obtain ⟨hcode, hcases⟩ := Order.code_of_ofWords_error he
    exact ⟨rfl, rfl, hf, .unrecognized ⟨hcode, hf⟩ hcases⟩
  · have hstop := stopsWith_of_order ho
    obtain ⟨hf, hwords⟩ := order?_eq_some_iff.1 ho
    cases o with
    | halt =>
      simp only [perform, finish, Progress.ended.injEq] at hperform
      subst hperform
      exact ⟨rfl, rfl, hf, .halt rfl hstop⟩
    | interrupt vector =>
      simp only [perform, finish, Progress.ended.injEq] at hperform
      subst hperform
      exact ⟨rfl, rfl, hf, .interrupt hstop (Order.vector_of_ofWords hwords)⟩
    | read sector =>
      -- the words fetched so far were not written, so the machine is still the old one
      obtain ⟨fault, c, hread, rfl⟩ := ended_of_read hperform
      obtain ⟨hfault, hname⟩ := read_error hread
      exact ⟨rfl, hname, hf, .read hstop hfault⟩
    | _ => simp [perform] at hperform

/-- What a program that halts here reports. -/
def completion (s : Activity S) : Completion :=
  ⟨s.registers.address, s.registers.status, s.registers.unit, s.registers.executed + 1,
    s.registers.skipped⟩

/-- A halt order ends a program well. -/
theorem step_of_halt (device : UInt8) (h : s.order? = some .halt) :
    (s.step device).2 = s.finish (.ok s.completion) :=
  (step_of_order device h).1

/-- **Only a halt order ends a program well.** -/
theorem halt_of_step_ok {done : Completion} (h : (s.step device).2 = .ended last)
    (hok : last.result = .ok done) : s.order? = some .halt ∧ done = s.completion := by
  rcases step_ends h with ⟨code, -, -, rfl⟩ | ⟨o, ho, hperform⟩
  · simp at hok
  · cases o with
    | halt =>
      rw [step_of_halt device ho, finish, Progress.ended.injEq] at h
      rw [← h, Except.ok.injEq] at hok
      exact ⟨ho, hok.symm⟩
    | interrupt vector =>
      simp only [perform, finish, Progress.ended.injEq] at hperform
      simp [← hperform] at hok
    | read sector =>
      obtain ⟨fault, c, -, rfl⟩ := ended_of_read hperform
      simp at hok
    | _ => simp [perform] at hperform

end Activity

/-- **A run ends cleanly at the order that ended it.** The final machine and the name of the open
image are those with which the last order was fetched, and that order is not flagged. So the final
memory still has it: after a halt the halt order at the address of the result, after an
unrecognized order its code, and after an interrupt order that order and its vector. -/
theorem Controller.run_ended {c : Controller S} {limit : ℕ} {m : Machine} {device : UInt8}
    {address : Word} {events : List Event} {last : Ended S}
    (h : c.run limit m device address = some (events, last)) :
    (∃ visited t, Activity.Path device ⟨m, c, { address }⟩ visited t ∧
      (t.step device).2 = .ended last ∧ events = Activity.eventsOf device (visited ++ [t]) ∧
      last.machine = t.machine ∧ last.controller.openName? = t.controller.openName? ∧
      t.words.flagged = false ∧
      Ending last.machine.memory t.registers.address last.result) ∧
    (∀ done, last.result = .ok done → last.machine.memory.StopsWith done.address 0) ∧
    (∀ code a, last.result = .error (.unrecognizedOrder code a) →
      last.machine.memory.StopsWith a code ∧ (code = 1 ∨ code = 8 ∨ code = 10 ∨ code = 12)) ∧
    (∀ vector a, last.result = .error (.interruptOrder vector a) →
      last.machine.memory.StopsWith a 14 ∧ last.machine.memory.read (a + 1) = vector) := by
  obtain ⟨visited, t, hp, ht, -, hevents⟩ := run_eq_some_iff.1 h
  obtain ⟨hmachine, hname, hflag, hending⟩ := Activity.step_ended ht
  rw [← hmachine] at hending
  refine ⟨⟨visited, t, hp, ht, hevents, hmachine, hname, hflag, hending⟩, ?_, ?_, ?_⟩
  · intro done hdone
    rw [hdone] at hending
    exact hending.stopsWith_of_ok
  · intro code a hresult
    rw [hresult] at hending
    exact hending.stopsWith_of_unrecognized
  · intro vector a hresult
    rw [hresult] at hending
    exact hending.stopsWith_of_interrupt

/-- A program that writes a halt order over the interrupt order behind its only other order. -/
def selfHalting : Machine :=
  { memory := (Memory.zero.writeAll 0o100 (Order.toWords (.storeAddress 0o102) false)).writeAll
      0o102 (Order.toWords (.interrupt 0o300) false) }

theorem run_ended_selfHalting : ∃ events last,
    ((⟨{}, {}, {}⟩ : Controller MemoryCabinet).run 2 selfHalting 0o26 0o100) =
        some (events, last) ∧
      last.result = .ok ⟨0o102, statusReady, none, 2, 0⟩ ∧
      last.machine.memory.StopsWith 0o102 0 := by
  let s : Activity MemoryCabinet := ⟨selfHalting, ⟨{}, {}, {}⟩, { address := 0o100 }⟩
  let t : Activity MemoryCabinet := (s.countExecuted.write 0o102 0o100).advance 2
  have hs : s.order? = some (.storeAddress 0o102) := by
    rw [Activity.order?_eq_some_iff]
    simp only [s, selfHalting, Activity.words, Memory.orderWords, Memory.writeAll, Order.toWords]
    decide
  have ht : t.order? = some .halt := by
    rw [Activity.order?_eq_some_iff]
    simp only [t, s, selfHalting, Activity.words, Memory.orderWords, Memory.writeAll,
      Order.toWords, Activity.advance, Activity.goto, Activity.write, Machine.write,
      Memory.read_write]
    decide
  have hnext : (s.step 0o26).2 = .running t := by
    rw [(Activity.step_of_order 0o26 hs).1]
    rfl
  have hlast : (t.step 0o26).2 =
      .ended ⟨.ok ⟨0o102, statusReady, none, 2, 0⟩, t.machine, t.controller⟩ := by
    rw [(Activity.step_of_order 0o26 ht).1]
    rfl
  have hrun : s.controller.run 2 selfHalting 0o26 0o100 = some (_, _) :=
    Controller.run_eq_some_iff.2 ⟨[s], t, .cons hnext (.nil t), hlast, by decide, rfl⟩
  have hstop := (Controller.run_ended hrun).2.1 ⟨0o102, statusReady, none, 2, 0⟩ rfl
  exact ⟨_, _, hrun, rfl, hstop⟩

end PeripheralBus
