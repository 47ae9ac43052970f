import PeripheralBus.Proofs.Channel.Path
import PeripheralBus.Proofs.Memory

/-!
# What orders change

Most orders change one thing: a store one memory word, a selection the mount, all others at most
the controller's registers. The read order is the one with many ways out, and the only order that
can end a program with a fault of its own.

* `read_cases`: the ways a read order can take; `read_ok`, `read_error`: how it goes on, and how it
  ends the program; `running_of_read`, `ended_of_read`: what is then left.
* `selectUnit_registers`, `refuse_registers`, `read_registers`: the registers after an order that asks
  for a unit.
* `Activity.Writes`: the addresses that the next order writes.
* `step_memory`: a step leaves every other memory word as it is.
* `step_processor`, `Path.processor_eq`: steps and programs leave the processor's registers alone.
-/

namespace PeripheralBus

open Pack

variable {S : Type} [Cabinet S]

/-! ## Fetching -/

/-- A fetch keeps the name of the image. -/
theorem Pack.Mounted.fetch_name {u u' : Mounted S} {offset : UInt64} {count : ℕ}
    {result : Except Fault (List UInt8)} (h : u.fetch offset count = (result, u')) :
    u'.name = u.name := by
  unfold fetch at h
  split at h
  · rw [← (Prod.mk.inj h).2]
  · split at h
    · rw [← (Prod.mk.inj h).2]
    · split at h <;> rw [← (Prod.mk.inj h).2]

/-- What is fetched has the length asked for. -/
theorem Pack.Mounted.fetch_length {u u' : Mounted S} {offset : UInt64} {count : ℕ}
    {bytes : List UInt8} (h : u.fetch offset count = (.ok bytes, u')) : bytes.length = count := by
  unfold fetch at h
  split at h
  · simp at h
  · split at h
    · simp at h
    · split at h
      · rename_i hlen
        simp only [Prod.mk.injEq, Except.ok.injEq] at h
        rw [← h.1, hlen]
      · simp at h

/-- A fault of a fetch is the host's, or a short read. -/
theorem Pack.Mounted.fetch_fault {u u' : Mounted S} {offset : UInt64} {count : ℕ} {fault : Fault}
    (h : u.fetch offset count = (.error fault, u')) :
    (∃ e, fault = .host e) ∨ ∃ got, fault = .shortRead u.name count got := by
  unfold fetch at h
  split at h
  · simp only [Prod.mk.injEq, Except.error.injEq] at h
    exact .inl ⟨_, h.1.symm⟩
  · split at h
    · simp only [Prod.mk.injEq, Except.error.injEq] at h
      exact .inl ⟨_, h.1.symm⟩
    · split at h
      · simp at h
      · simp only [Prod.mk.injEq, Except.error.injEq] at h
        exact .inr ⟨_, h.1.symm⟩

/-- The registers that belong to the processor: the accumulator, the mode register and the
instruction pointer. -/
def Machine.processor (m : Machine) : Word × Word × Word := (m.a, m.keys, m.rp)

namespace Activity

variable {device : UInt8} {s t : Activity S}

/-! ## Orders that leave the machine alone -/

@[simp] theorem goto_machine (a : Word) : (s.goto a).machine = s.machine := rfl

@[simp] theorem goto_controller (a : Word) : (s.goto a).controller = s.controller := rfl

@[simp] theorem advance_machine (size : Word) : (s.advance size).machine = s.machine := rfl

@[simp] theorem advance_controller (size : Word) :
    (s.advance size).controller = s.controller := rfl

@[simp] theorem stepOver_machine (size : Word) : (s.stepOver size).machine = s.machine := rfl

@[simp] theorem stepOver_controller (size : Word) :
    (s.stepOver size).controller = s.controller := rfl

@[simp] theorem countExecuted_machine : s.countExecuted.machine = s.machine := rfl

@[simp] theorem countExecuted_controller : s.countExecuted.controller = s.controller := rfl

@[simp] theorem becomeNotReady_machine : s.becomeNotReady.machine = s.machine := rfl

@[simp] theorem becomeNotReady_controller : s.becomeNotReady.controller = s.controller := rfl

@[simp] theorem refuse_machine (name : String) : (s.refuse name).2.machine = s.machine := by
  unfold refuse
  split <;> rfl

@[simp] theorem refuse_controller (name : String) :
    (s.refuse name).2.controller = s.controller := by
  unfold refuse
  split <;> rfl

@[simp] theorem selectUnit_machine (field : UInt8) :
    (s.selectUnit device field).2.machine = s.machine := by
  unfold selectUnit
  dsimp only
  split <;> rfl

/-! ## What a unit does to the registers -/

/-- A selection keeps the unit, and makes the status not ready if the unit does not open. -/
theorem selectUnit_registers (s : Activity S) (device field : UInt8) :
    (s.selectUnit device field).2.registers = { s.registers with
      status := if (s.controller.mount.select s.controller.cabinet
          (unitName device (unitNumber field))).ready then s.registers.status else statusNotReady
      unit := some (unitNumber field) } := by
  unfold selectUnit
  dsimp only
  split <;> rfl

/-- Format and write make the status not ready if no image is open. -/
theorem refuse_registers (s : Activity S) (name : String) :
    (s.refuse name).2.registers = { s.registers with
      status := if s.controller.mount.isOpen then s.registers.status else statusNotReady } := by
  unfold refuse
  split <;> rfl

/-! ## The read order -/

/-- The index of the selected channel's count register; its address register follows. -/
def countIndex (s : Activity S) : ℕ := Dma.countIndex s.registers.dmaChannel

/-- How many words the selected channel asks for. -/
def wordsLeft (s : Activity S) : Int := Dma.wordsLeft (s.machine.dmaRegister s.countIndex)

/-- Where the selected channel puts the next word. -/
def dmaAddress (s : Activity S) : Word := s.machine.dmaRegister (s.countIndex + 1)

/-- The faults that a read order can end a program with. -/
inductive ReadFault : Fault → Prop
  | outside (fault : ConfigurationFault) : ReadFault (.configuration fault)
  | count (channel register : Word) : ReadFault (.invalidCount channel register)
  | short (file : String) (expected got : ℕ) : ReadFault (.shortRead file expected got)
  | host (error : Host.Error) : ReadFault (.host error)

/-- What a read order does with the outcome of its fetch and the image it leaves. -/
def afterFetch (s : Activity S) (unit : Mounted S) :
    Except Fault (List UInt8) → Except (Fault × Controller S) (Activity S)
  | .error fault => .error (fault, { s.controller with mount := ⟨some unit⟩ })
  | .ok bytes => .ok { s with
      machine := deposit s.machine s.countIndex (wordsOfBytes bytes)
      controller := { s.controller with mount := ⟨some unit⟩ } }

/-- **What a read order can do.** It fails before it comes to an image, it finds none open, or it
moves the one that is open and fetches as many words as the channel asks for. -/
theorem read_cases (s : Activity S) (sector : Sector) :
    ((s.controller.geometry.byteOffset? sector.track sector.head sector.record = none ∨
        s.wordsLeft < 0) ∧
      (∃ fault, ReadFault fault ∧ (s.read sector).2 = .error (fault, s.controller)) ∧
      Event.packEvents (s.read sector).1 = []) ∨
    (s.controller.mount.mounted = none ∧ (s.read sector).2 = .ok s.becomeNotReady ∧
      Event.packEvents (s.read sector).1 = []) ∨
    ∃ unit offset fetched unit', s.controller.mount.mounted = some unit ∧
      s.controller.geometry.byteOffset? sector.track sector.head sector.record = some offset ∧
      0 ≤ s.wordsLeft ∧ unit.fetch offset (2 * s.wordsLeft.toNat) = (fetched, unit') ∧
      Event.packEvents (s.read sector).1 = [.seeking unit.name offset] ∧
      (s.read sector).2 = s.afterFetch unit' fetched := by
  unfold read
  dsimp only
  split
  · rename_i hoffset
    exact .inl ⟨.inl hoffset, ⟨_, .outside _, rfl⟩, rfl⟩
  · rename_i offset hoffset
    split
    · rename_i hm
      exact .inr (.inl ⟨hm, rfl, rfl⟩)
    · rename_i unit hm
      split
      · rename_i hcount
        exact .inl ⟨.inr hcount, ⟨_, .count _ _, rfl⟩, rfl⟩
      · rename_i hcount
        rcases hfetch : unit.fetch offset (2 * s.wordsLeft.toNat) with ⟨fetched, unit'⟩
        refine .inr (.inr ⟨unit, offset, fetched, unit', hm, hoffset, Int.not_lt.1 hcount, hfetch,
          ?_⟩)
        rw [wordsLeft, countIndex] at hfetch
        rw [hfetch]
        cases fetched <;> exact ⟨rfl, rfl⟩

/-- **How a read order goes on**: without an image it makes the status not ready, and with one it
deposits as many words as the channel asks for. -/
theorem read_ok {sector : Sector} (h : (s.read sector).2 = .ok t) :
    (s.controller.mount.mounted = none ∧ t = s.becomeNotReady) ∨
      ∃ unit offset bytes unit', s.controller.mount.mounted = some unit ∧ 0 ≤ s.wordsLeft ∧
        unit.fetch offset (2 * s.wordsLeft.toNat) = (.ok bytes, unit') ∧
        t = { s with
          machine := deposit s.machine s.countIndex (wordsOfBytes bytes)
          controller := { s.controller with mount := ⟨some unit'⟩ } } := by
  rcases s.read_cases sector with ⟨-, ⟨fault, -, hread⟩, -⟩ | ⟨hm, hread, -⟩ |
    ⟨unit, offset, fetched, unit', hm, -, hcount, hfetch, -, hread⟩
  · simp [hread] at h
  · rw [hread, Except.ok.injEq] at h
    exact .inl ⟨hm, h.symm⟩
  · cases fetched with
    | error fault => simp [hread, afterFetch] at h
    | ok bytes =>
      rw [hread, afterFetch, Except.ok.injEq] at h
      exact .inr ⟨unit, offset, bytes, unit', hm, hcount, hfetch, h.symm⟩

/-- So does a read order that goes on. -/
theorem read_registers {sector : Sector} (h : (s.read sector).2 = .ok t) :
    t.registers = { s.registers with
      status := if s.controller.mount.isOpen then s.registers.status else statusNotReady } := by
  rcases read_ok h with ⟨hm, rfl⟩ | ⟨unit, offset, bytes, unit', hm, -, -, rfl⟩
  · simp [Mount.isOpen, hm, becomeNotReady]
  · simp [Mount.isOpen, hm]

/-- **How a read order ends the program**: with a fault of its own, and the open image, which may
have moved, still open under its name. -/
theorem read_error {sector : Sector} {fault : Fault} {c : Controller S}
    (h : (s.read sector).2 = .error (fault, c)) :
    ReadFault fault ∧ c.openName? = s.controller.openName? := by
  rcases s.read_cases sector with ⟨-, ⟨fault, hfault, hread⟩, -⟩ | ⟨hm, hread, -⟩ |
    ⟨unit, offset, fetched, unit', hm, -, hcount, hfetch, -, hread⟩
  · rw [hread, Except.error.injEq, Prod.mk.injEq] at h
    obtain ⟨rfl, rfl⟩ := h
    exact ⟨hfault, rfl⟩
  · simp [hread] at h
  · cases fetched with
    | ok bytes => simp [hread, afterFetch] at h
    | error fault =>
      rw [hread, afterFetch, Except.error.injEq, Prod.mk.injEq] at h
      obtain ⟨rfl, rfl⟩ := h
      have hname : unit'.name = unit.name := Mounted.fetch_name hfetch
      refine ⟨?_, by simp [Controller.openName?, Mount.name?, hm, hname]⟩
      rcases Mounted.fetch_fault hfetch with ⟨e, rfl⟩ | ⟨got, rfl⟩
      · exact .host e
      · exact .short _ _ got

/-- The program goes on from a read order that did not fail. -/
theorem running_of_read {sector : Sector} (h : (s.perform device (.read sector)).2 = .running t) :
    ∃ after, (s.read sector).2 = .ok after ∧ t = after.advance (Order.read sector).size := by
  rcases hread : s.read sector with ⟨events, ⟨fault, c⟩ | after⟩
  · simp [perform, hread] at h
  · simp only [perform, hread, Progress.running.injEq] at h
    exact ⟨after, rfl, h.symm⟩

/-- A read order that does not fail goes on behind itself. -/
theorem perform_of_read_ok {sector : Sector} (device : UInt8) (h : (s.read sector).2 = .ok t) :
    (s.perform device (.read sector)).2 = .running (t.advance (Order.read sector).size) := by
  rcases hread : s.read sector with ⟨events, result⟩
  obtain rfl : result = .ok t := by rw [← h, hread]
  simp only [perform, hread]

/-- A read order that fails ends the program. -/
theorem perform_of_read_error {sector : Sector} {fault : Fault} {c : Controller S} (device : UInt8)
    (h : (s.read sector).2 = .error (fault, c)) :
    (s.perform device (.read sector)).2 = .ended ⟨.error fault, s.machine, c⟩ := by
  rcases hread : s.read sector with ⟨events, result⟩
  obtain rfl : result = .error (fault, c) := by rw [← h, hread]
  simp only [perform, hread]

/-- The program ends at a read order that failed, with the machine as it was. -/
theorem ended_of_read {sector : Sector} {last : Ended S}
    (h : (s.perform device (.read sector)).2 = .ended last) :
    ∃ fault c, (s.read sector).2 = .error (fault, c) ∧ last = ⟨.error fault, s.machine, c⟩ := by
  rcases hread : s.read sector with ⟨events, ⟨fault, c⟩ | after⟩
  · simp only [perform, hread, Progress.ended.injEq] at h
    exact ⟨fault, c, rfl, h.symm⟩
  · simp [perform, hread] at h

/-! ## Written words -/

/-- **The addresses that the next order writes.** A read order writes when it goes on with an image
open, as many words as the channel asks for. -/
inductive Writes (device : UInt8) (s : Activity S) : Word → Prop
  | status {a : Word} (h : s.order? = some (.storeStatus a)) : Writes device s a
  | address {a : Word} (h : s.order? = some (.storeAddress a)) : Writes device s a
  | transfer {sector : Sector} {next : Activity S} {i : ℕ} (h : s.order? = some (.read sector))
      (hopen : s.controller.mount.isOpen = true) (hnext : (s.step device).2 = .running next)
      (hi : i < s.wordsLeft.toNat) : Writes device s (s.dmaAddress + UInt16.ofNat i)

/-- What a deposit leaves of the memory. -/
theorem read_deposit_of_ne {m : Machine} {i : ℕ} {words : List Word} {a : Word}
    (h : ∀ j < words.length, a ≠ m.dmaRegister (i + 1) + UInt16.ofNat j) :
    (deposit m i words).memory.read a = m.memory.read a :=
  Memory.read_writeAll_of_ne h

/-- **A step leaves every word as it is that its order does not write.** -/
theorem step_memory {next : Activity S} (hnext : (s.step device).2 = .running next) {a : Word}
    (ha : ¬ Writes device s a) : next.machine.memory.read a = s.machine.memory.read a := by
  rcases step_running hnext with ⟨-, rfl⟩ | ⟨o, ho, hperform⟩
  · rw [stepOver_machine]
  · cases o with
    | halt | interrupt => simp [perform, finish] at hperform
    | format | write | seek | stall | selectDma | jump | selectUnit =>
      simp only [perform, Progress.running.injEq] at hperform
      simp [← hperform]
    | storeStatus place =>
      have hne : a ≠ place := by rintro rfl; exact ha (.status ho)
      simp only [perform, Progress.running.injEq] at hperform
      simp [← hperform, Activity.write, Machine.write, Memory.read_write, hne]
    | storeAddress place =>
      have hne : a ≠ place := by rintro rfl; exact ha (.address ho)
      simp only [perform, Progress.running.injEq] at hperform
      simp [← hperform, Activity.write, Machine.write, Memory.read_write, hne]
    | read sector =>
      obtain ⟨after, hread, rfl⟩ := running_of_read hperform
      rw [advance_machine]
      rcases read_ok hread with ⟨-, rfl⟩ | ⟨unit, offset, bytes, unit', hm, hcount, hfetch, rfl⟩
      · rfl
      · -- the fetched bytes make exactly the words that the channel asked for
        have hlen : (wordsOfBytes bytes).length = s.wordsLeft.toNat := by
          have hbytes : bytes.length = 2 * s.wordsLeft.toNat := Mounted.fetch_length hfetch
          rw [length_wordsOfBytes]
          omega
        apply read_deposit_of_ne
        intro j hj
        rintro rfl
        have hopen : s.controller.mount.isOpen = true := by
          simpa [Mount.isOpen] using congrArg Option.isSome hm
        exact ha (.transfer ho hopen hnext (hlen ▸ hj))

/-! ## The processor -/

/-- **A step leaves the processor's registers alone.** -/
theorem step_processor {next : Activity S} (hnext : (s.step device).2 = .running next) :
    next.machine.processor = s.machine.processor := by
  rcases step_running hnext with ⟨-, rfl⟩ | ⟨o, -, hperform⟩
  · rw [stepOver_machine]
  · cases o with
    | halt | interrupt => simp [perform, finish] at hperform
    | format | write | selectUnit =>
      simp only [perform, Progress.running.injEq] at hperform
      simp [← hperform]
    | seek | stall | selectDma | jump | storeStatus | storeAddress =>
      simp only [perform, Progress.running.injEq] at hperform
      rw [← hperform]
      rfl
    | read sector =>
      obtain ⟨after, hread, rfl⟩ := running_of_read hperform
      rw [advance_machine]
      rcases read_ok hread with ⟨-, rfl⟩ | ⟨_, _, _, _, -, -, -, rfl⟩ <;> rfl

theorem Path.processor_eq {visited : List (Activity S)} (hp : Path device s visited t) :
    t.machine.processor = s.machine.processor := by
  refine (hp.invariant (P := fun a => a.machine.processor = s.machine.processor) ?_ rfl).1
  intro a next ha hnext
  exact (step_processor hnext).trans ha

end Activity

end PeripheralBus
