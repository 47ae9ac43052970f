import PeripheralBus.Proofs.Channel.Ending
import PeripheralBus.Proofs.Channel.Listing
import PeripheralBus.Proofs.Channel.Transfer
import PeripheralBus.Proofs.Dma

/-!
# What a program leaves alone

A step changes the machine in one of two ways: it stores a word, or it transfers words through the
registers of the selected DMA channel. Whatever a program does besides, and wherever it ends, the
machine afterwards is told by the stores and the transfers on its path.

* `Activity.stored?`, `Activity.Transfers`: the two ways.
* `step_machine`: **a step transfers, or does nothing to the machine but its store**.
* `step_dmaRegister`: a step leaves every DMA register alone but the two of a channel that
  transfers.
* `Path.machine_eq`: without transfers, the machine at the end of a path is made by its stores.
* `run_frame`: all that a run can change, word by word and register by register.
-/

namespace PeripheralBus

open Pack

variable {S : Type} [Cabinet S]

namespace Activity

/-- The address and the word that the next order stores. -/
def stored? (s : Activity S) : Option (Word × Word) :=
  match s.order? with
  | some (.storeStatus a) => some (a, s.registers.status)
  | some (.storeAddress a) => some (a, s.registers.address)
  | _ => none

/-- **The next order transfers**: it is a read order that finds an image open and does not fail. It
can be a transfer of no words. -/
structure Transfers (device : UInt8) (s : Activity S) : Prop where
  order : ∃ sector, s.order? = some (.read sector)
  isOpen : s.controller.mount.isOpen = true
  running : ∃ next, (s.step device).2 = .running next

/-- The machine after the stores of some orders, one after the other. -/
def afterStores (m : Machine) (visited : List (Activity S)) : Machine :=
  (visited.filterMap stored?).foldl (fun m stored => m.write stored.1 stored.2) m

variable {device : UInt8} {s t next : Activity S}

theorem afterStores_of_none (m : Machine) {visited : List (Activity S)}
    (h : ∀ s ∈ visited, s.stored? = none) : afterStores m visited = m := by
  rw [afterStores, List.filterMap_eq_nil_iff.2 h, List.foldl_nil]

theorem afterStores_dma (m : Machine) (visited : List (Activity S)) :
    (afterStores m visited).dma = m.dma := by
  unfold afterStores
  induction visited.filterMap stored? generalizing m with
  | nil => rfl
  | cons stored rest ih => exact ih (m.write stored.1 stored.2)

theorem afterStores_cons (m : Machine) (s : Activity S) (visited : List (Activity S)) :
    afterStores m (s :: visited) = afterStores (afterStores m [s]) visited := by
  unfold afterStores
  rw [← List.foldl_append, ← List.filterMap_append]
  rfl

/-! ## One step -/

/-- **What a step does to the machine.** It transfers as many words as the selected channel asks
for, or it does nothing to the machine but store a word. -/
theorem step_machine (h : (s.step device).2 = .running next) :
    (s.Transfers device ∧ 0 ≤ s.wordsLeft ∧ ∃ words : List Word,
      words.length = s.wordsLeft.toNat ∧ next.machine = deposit s.machine s.countIndex words) ∨
    (¬ s.Transfers device ∧ next.machine = afterStores s.machine [s]) := by
  have hquiet : s.stored? = none → s.machine = afterStores s.machine [s] := fun hnone =>
    (afterStores_of_none s.machine (by simpa using hnone)).symm
  have hidle : (∀ sector, s.order? ≠ some (.read sector)) → ¬ s.Transfers device :=
    fun hread htransfers => let ⟨sector, ho⟩ := htransfers.order; hread sector ho
  rcases step_running h with ⟨hnone, rfl⟩ | ⟨o, ho, hperform⟩
  · exact .inr ⟨hidle (by simp [hnone]), hquiet (by simp [stored?, hnone])⟩
  · cases o with
    | halt | interrupt => simp [perform, finish] at hperform
    | format | write | seek | stall | selectDma | jump | selectUnit =>
      simp only [perform, Progress.running.injEq] at hperform
      refine .inr ⟨hidle (by simp [ho]), ?_⟩
      rw [← hquiet (by simp [stored?, ho])]
      simp [← hperform]
    | storeStatus place | storeAddress place =>
      simp only [perform, Progress.running.injEq] at hperform
      refine .inr ⟨hidle (by simp [ho]), ?_⟩
      simp only [afterStores, List.filterMap_cons, stored?, ho, List.filterMap_nil,
        List.foldl_cons, List.foldl_nil]
      rw [← hperform]
      rfl
    | read sector =>
      obtain ⟨after, hread, rfl⟩ := running_of_read hperform
      rcases read_ok hread with ⟨hm, rfl⟩ | ⟨unit, offset, bytes, unit', hm, hcount, hfetch, rfl⟩
      · refine .inr ⟨?_, hquiet (by simp [stored?, ho])⟩
        intro htransfers
        have hopen := htransfers.isOpen
        rw [Mount.isOpen, ← countExecuted_controller, hm] at hopen
        cases hopen
      · -- the fetched bytes make exactly the words that the channel asked for
        have hlen : (wordsOfBytes bytes).length = s.wordsLeft.toNat := by
          have hbytes : bytes.length = 2 * s.wordsLeft.toNat := Mounted.fetch_length hfetch
          rw [length_wordsOfBytes]
          omega
        have hopen : s.controller.mount.isOpen = true := by
          simpa [Mount.isOpen] using congrArg Option.isSome hm
        exact .inl ⟨⟨⟨sector, ho⟩, hopen, _, h⟩, hcount, _, hlen, rfl⟩

/-- What a deposit leaves in the DMA registers. -/
theorem dmaRegister_deposit (m : Machine) (i j : ℕ) (words : List Word) :
    (deposit m i words).dmaRegister j =
      if j % 64 = (i + 1) % 64 then m.dmaRegister (i + 1) + UInt16.ofNat words.length
      else if j % 64 = i % 64 then 0 else m.dmaRegister j := by
  rw [deposit, Machine.dmaRegister_setDmaRegister, Machine.dmaRegister_setDmaRegister]
  rfl

/-- **A step leaves every DMA register alone** but the two of the selected channel when it
transfers. -/
theorem step_dmaRegister (h : (s.step device).2 = .running next) {j : ℕ} (hj : j < 64)
    (hother : s.Transfers device → j ≠ s.countIndex ∧ j ≠ s.countIndex + 1) :
    next.machine.dmaRegister j = s.machine.dmaRegister j := by
  rcases step_machine h with ⟨htransfers, -, words, -, hmachine⟩ | ⟨-, hmachine⟩
  · obtain ⟨hcount, haddress⟩ := hother htransfers
    have hindex : s.countIndex < 62 := Dma.countIndex_lt _
    rw [hmachine, dmaRegister_deposit, if_neg (by omega), if_neg (by omega)]
  · rw [hmachine, Machine.dmaRegister, Machine.dmaRegister, afterStores_dma]

/-! ## Programs -/

/-- **Without transfers, the machine at the end of a path is made by the stores on it.** -/
theorem Path.machine_eq {visited : List (Activity S)} (hp : Path device s visited t)
    (h : ∀ r ∈ visited, ¬ r.Transfers device) : t.machine = afterStores s.machine visited := by
  induction hp with
  | nil s => rfl
  | @cons s next t visited hstep _ ih =>
    rcases step_machine hstep with ⟨htransfers, -⟩ | ⟨-, hnext⟩
    · exact absurd htransfers (h s List.mem_cons_self)
    · rw [afterStores_cons, ← hnext]
      exact ih fun r hr => h r (List.mem_cons_of_mem s hr)

/-- A memory word that is different at the end of a path was written on it. -/
theorem Path.writes_of_ne {visited : List (Activity S)} (hp : Path device s visited t) {a : Word}
    (h : t.machine.memory.read a ≠ s.machine.memory.read a) : ∃ r ∈ visited, r.Writes device a := by
  obtain ⟨r, hr, next, hnext, hne⟩ := hp.exists_step_of_ne (fun r => r.machine.memory.read a) h
  refine ⟨r, hr, ?_⟩
  by_contra hwrites
  exact hne (step_memory hnext hwrites)

/-- A DMA register that is different at the end of a path is one of a channel that transferred on
it. -/
theorem Path.transfers_of_ne {visited : List (Activity S)} (hp : Path device s visited t) {j : ℕ}
    (hj : j < 64) (h : t.machine.dmaRegister j ≠ s.machine.dmaRegister j) :
    ∃ r ∈ visited, r.Transfers device ∧ (j = r.countIndex ∨ j = r.countIndex + 1) := by
  obtain ⟨r, hr, next, hnext, hne⟩ := hp.exists_step_of_ne (fun r => r.machine.dmaRegister j) h
  refine ⟨r, hr, ?_⟩
  by_contra hother
  refine hne (step_dmaRegister hnext hj ?_)
  intro htransfers
  constructor
  · intro hcount
    exact hother ⟨htransfers, .inl hcount⟩
  · intro haddress
    exact hother ⟨htransfers, .inr haddress⟩

end Activity

/-- **A program touches nothing that it was not told to.** However a run ends, the processor's
registers are those from before. A memory word that differs was written by an order of the run: a
store to its address, or a transfer of words among which it is. A DMA register that differs is one
of the two of a channel that transferred, so it is never the last one of four. A run that executes
no store and no read order leaves the whole machine as it was. -/
theorem Controller.run_frame {c : Controller S} {limit : ℕ} {m : Machine} {device : UInt8}
    {address : Word} {events : List Event} {last : Ended S}
    (h : c.run limit m device address = some (events, last)) :
    ∃ visited t, Activity.Path device ⟨m, c, { address }⟩ visited t ∧
      (t.step device).2 = .ended last ∧
      last.machine.a = m.a ∧ last.machine.keys = m.keys ∧ last.machine.rp = m.rp ∧
      (∀ a, last.machine.memory.read a ≠ m.memory.read a → ∃ s ∈ visited, s.Writes device a) ∧
      (∀ j < 64, last.machine.dmaRegister j ≠ m.dmaRegister j →
        ∃ s ∈ visited, s.Transfers device ∧ (j = Dma.countIndex s.registers.dmaChannel ∨
          j = Dma.countIndex s.registers.dmaChannel + 1)) ∧
      (∀ j < 64, j % 4 = 3 → last.machine.dmaRegister j = m.dmaRegister j) ∧
      ((∀ s ∈ visited, (∀ a, s.order? ≠ some (.storeStatus a)) ∧
          (∀ a, s.order? ≠ some (.storeAddress a)) ∧
          ∀ sector, s.order? ≠ some (.read sector)) →
        last.machine = m) := by
  obtain ⟨visited, t, hp, hlast, -⟩ := run_eq_some_iff.1 h
  -- the order that ends the program leaves the whole machine
  have hmachine : last.machine = t.machine := (Activity.step_ended hlast).1
  have hprocessor : last.machine.processor = m.processor := by
    rw [hmachine]
    exact hp.processor_eq
  have hdma : ∀ j < 64, last.machine.dmaRegister j ≠ m.dmaRegister j → ∃ s ∈ visited,
      s.Transfers device ∧ (j = s.countIndex ∨ j = s.countIndex + 1) := by
    intro j hj hne
    rw [hmachine] at hne
    exact hp.transfers_of_ne hj hne
  refine ⟨visited, t, hp, hlast, congrArg Prod.fst hprocessor,
    congrArg (fun r => r.2.1) hprocessor, congrArg (fun r => r.2.2) hprocessor, ?_, hdma, ?_, ?_⟩
  · intro a hne
    rw [hmachine] at hne
    exact hp.writes_of_ne hne
  · intro j hj hmod
    by_contra hne
    obtain ⟨s, -, -, hindex⟩ := hdma j hj hne
    have heq := Dma.countIndex_eq s.registers.dmaChannel
    rw [Activity.countIndex] at hindex
    omega
  · intro hquiet
    rw [hmachine, hp.machine_eq, Activity.afterStores_of_none]
    · intro s hs
      obtain ⟨hstatus, haddress, -⟩ := hquiet s hs
      unfold Activity.stored?
      split
      · exact absurd ‹_› (hstatus _)
      · exact absurd ‹_› (haddress _)
      · rfl
    · intro s hs htransfers
      obtain ⟨sector, ho⟩ := htransfers.order
      exact (hquiet s hs).2.2 sector ho

/-- A program that selects a unit, then DMA channel 1, and reads a record. -/
def readingOrders : List Order := [.selectUnit 1, .selectDma 0 1, .read ⟨0, 0, 0, 0⟩, .halt]

/-- A machine with this program, on which channel 1 asks for one word, at address 4000. -/
def reading : Machine where
  memory := Memory.zero.writeAll 0 (Listing.wordsOf readingOrders)
  dma := (((Vector.replicate 64 0).set 0 0o177700).set 1 0o177760).set 2 0o4000

/-- A controller of which unit 0 of device 26 has an image of one word. -/
def oneWord : Controller FaultyCabinet where
  cabinet := ⟨[(unitName 0o26 0, { content := ⟨2, fun i => UInt8.ofNat (i + 1)⟩ })]⟩

theorem has_reading : reading.memory.Has 0 (Listing.wordsOf readingOrders) :=
  Memory.has_writeAll (by decide)

theorem fits_reading : ∀ o ∈ readingOrders, o.Fits := by
  simp [readingOrders, Order.Fits, Sector.Fits]

/-- The program comes to its halt, with the word read and the registers of channel 1 moved on. No
other channel transfers. -/
theorem path_reading {m : Machine} (hm : m.memory.Has 0 (Listing.wordsOf readingOrders))
    (hcount : m.dmaRegister 1 = 0o177760) (haddress : m.dmaRegister 2 = 0o4000) :
    ∃ visited t, Activity.Path 0o26 ⟨m, oneWord, { address := 0 }⟩ visited t ∧
      visited.length = 3 ∧ t.order? = some .halt ∧
      t.machine = Activity.deposit m 1 [0x0102] ∧
      (∃ r ∈ visited, r.Transfers 0o26 ∧ r.countIndex = 1) ∧
      ∀ r ∈ visited, r.Transfers 0o26 → r.countIndex = 1 := by
  let opened : FaultyCabinet.Open :=
    { image := { content := ⟨2, fun i => UInt8.ofNat (i + 1)⟩ } }
  let selected : Registers := { address := 2, unit := some 0, executed := 1 }
  let ready : Registers := { address := 4, unit := some 0, dmaChannel := 1, executed := 2 }
  let sector : Sector := ⟨0, 0, 0, 0⟩
  have hfirst : Activity.order? ⟨m, oneWord, { address := 0 }⟩ = some (.selectUnit 1) :=
    Listing.order?_of_has hm fits_reading rfl
  -- the controller with the unit open is only a name from here on
  obtain ⟨c, hselect, hmounted, hgeometry⟩ : ∃ c,
      (Activity.step ⟨m, oneWord, { address := 0 }⟩ 0o26).2 = .running ⟨m, c, selected⟩ ∧
      c.mount.mounted = some (⟨unitName 0o26 0, opened⟩ : Mounted FaultyCabinet) ∧
      c.geometry = {} :=
    ⟨_, (Activity.step_of_order 0o26 hfirst).1, rfl, rfl⟩
  have hsecond : Activity.order? ⟨m, c, selected⟩ = some (.selectDma 0 1) :=
    Listing.order?_of_has hm fits_reading rfl
  have hready : (Activity.step ⟨m, c, selected⟩ 0o26).2 = .running ⟨m, c, ready⟩ :=
    (Activity.step_of_order 0o26 hsecond).1
  have hthird : Activity.order? ⟨m, c, ready⟩ = some (.read sector) :=
    Listing.order?_of_has hm fits_reading rfl
  let s : Activity FaultyCabinet := ⟨m, c, { ready with executed := 3 }⟩
  have hindex : s.countIndex = 1 := show Dma.countIndex 1 = 1 by decide
  have hleft : s.wordsLeft = 1 := by
    rw [Activity.wordsLeft, hindex, hcount]
    decide
  have hoffset : s.controller.geometry.byteOffset? sector.track sector.head sector.record =
      some 0 := by
    show c.geometry.byteOffset? 0 0 0 = some 0
    rw [hgeometry]
    decide
  have hserves : Serves (S := FaultyCabinet) [1, 2] opened 0 :=
    FaultyCabinet.serves opened rfl (by simp [opened])
  obtain ⟨image, hread⟩ := Activity.read_of_serves hoffset hmounted rfl hserves
    (by rw [hleft]; decide)
  have hwords : wordsOfBytes (([1, 2] : List UInt8).drop 0 |>.take 2) = [0x0102] := by decide
  rw [hleft, if_pos (by decide), Activity.afterFetch, hindex] at hread
  have hlast := (Activity.step_of_order 0o26 hthird).1.trans
    (Activity.perform_of_read_ok 0o26 hread)
  have hopen : c.mount.isOpen = true := by rw [Mount.isOpen, hmounted, Option.isSome_some]
  refine ⟨_, _, .cons hselect (.cons hready (.cons hlast (.nil _))), rfl, ?_,
    congrArg (Activity.deposit m 1) hwords,
    ⟨⟨m, c, ready⟩, by simp, ⟨⟨sector, hthird⟩, hopen, _, hlast⟩, hindex⟩, ?_⟩
  · refine Listing.order?_of_has (hm.of_eq ?_) fits_reading rfl
    -- the word is deposited far behind the program
    intro i hi
    apply Activity.read_deposit_of_ne
    intro j hj
    obtain rfl : j = 0 := Nat.lt_one_iff.1 hj
    have hi : i < 9 := hi
    rw [haddress]
    interval_cases i <;> decide
  · intro r hr htransfers
    obtain ⟨sector, ho⟩ := htransfers.order
    simp only [List.mem_cons, List.not_mem_nil, or_false] at hr
    rcases hr with rfl | rfl | rfl
    · cases hfirst.symm.trans ho
    · cases hsecond.symm.trans ho
    · exact hindex

/-- The run of that program changes the word that it reads and the registers of its channel, but
neither the accumulator nor the register that belongs to no channel. -/
theorem run_frame_reading : ∃ events last,
    oneWord.run 4 reading 0o26 0 = some (events, last) ∧
      last.machine.memory.read 0o4000 = 0x0102 ∧ last.machine.dmaRegister 1 = 0 ∧
      last.machine.a = 0 ∧ last.machine.dmaRegister 3 = 0 := by
  obtain ⟨visited, t, hp, hlen, ho, hmachine, -⟩ :=
    path_reading has_reading (by decide) (by decide)
  have hrun := Controller.run_eq_some_iff.2
    ⟨visited, t, hp, Activity.step_of_halt 0o26 ho, (by omega : visited.length < 4), rfl⟩
  obtain ⟨-, -, -, -, ha, -, -, -, -, hfourth, -⟩ := Controller.run_frame hrun
  refine ⟨_, _, hrun, ?_, ?_, ha, (hfourth 3 (by decide) rfl).trans (by decide)⟩
  · have hplace : reading.dmaRegister 2 = 0o4000 := by decide
    show t.machine.memory.read 0o4000 = 0x0102
    rw [hmachine]
    show (reading.memory.writeAll (reading.dmaRegister 2) [0x0102]).read 0o4000 = 0x0102
    rw [hplace, Memory.writeAll, Memory.writeAll, Memory.read_write, if_pos rfl]
  · show t.machine.dmaRegister 1 = 0
    rw [hmachine, Activity.dmaRegister_deposit]
    rfl

end PeripheralBus
