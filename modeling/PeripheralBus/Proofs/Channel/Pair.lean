import PeripheralBus.Proofs.Channel.Frame

/-!
# The registers of a DMA channel during a program

A transfer moves a channel's pair of registers on once: the count becomes zero, and the address
grows by the words transferred. With a zero count, the next transfer of the channel is one of no
words and leaves the pair as it is. Other channels leave it alone too, but for one: the two channels
of a group share a register, and a transfer of the one changes what the other has.

* `Machine.dmaPair`: the pair; `step_dmaPair`: **all that a transfer does to it**.
* `Path.dmaPair_eq`: the pair on a path on which the other channel of the group does not transfer.
* `Path.dmaCount_eq`: the count on any path, of a channel whose count register is no address.
* `Spent`: the invariant by which a channel that has transferred asks for no words again.
* `transfer_once`: all of this for programs; `pair_disturbed`: a program in which a transfer changes
  another channel's pair.
-/

namespace PeripheralBus

open Pack

variable {S : Type} [Cabinet S]

/-- The pair of DMA registers of a channel: its count, at this index, and its address. -/
def Machine.dmaPair (m : Machine) (i : ℕ) : Word × Word := (m.dmaRegister i, m.dmaRegister (i + 1))

namespace Activity

/-- One of these orders transferred through the pair of registers at an index. -/
def Completed (device : UInt8) (visited : List (Activity S)) (i : ℕ) : Prop :=
  ∃ s ∈ visited, s.Transfers device ∧ s.countIndex = i

variable {device : UInt8} {s t next : Activity S} {i : ℕ}

/-! ## One step -/

/-- A step that does not transfer leaves every pair alone. -/
theorem step_dmaPair_of_not_transfers (h : (s.step device).2 = .running next)
    (hquiet : ¬ s.Transfers device) (hi : i + 1 < 64) :
    next.machine.dmaPair i = s.machine.dmaPair i := by
  rw [Machine.dmaPair, step_dmaRegister h (by omega) (absurd · hquiet),
    step_dmaRegister h hi (absurd · hquiet), Machine.dmaPair]

/-- A transfer that goes on was asked for no fewer than no words. -/
theorem wordsLeft_nonneg (h : s.Transfers device) : 0 ≤ s.wordsLeft := by
  obtain ⟨next, hnext⟩ := h.running
  rcases step_machine hnext with ⟨-, hcount, -⟩ | ⟨hno, -⟩
  · exact hcount
  · exact absurd h hno

/-- A transfer moves its own pair on. -/
theorem step_dmaPair_self (h : (s.step device).2 = .running next)
    (htransfers : s.Transfers device) :
    next.machine.dmaPair s.countIndex = Dma.moved (s.machine.dmaPair s.countIndex) := by
  rcases step_machine h with ⟨-, hcount, words, hlen, hmachine⟩ | ⟨hno, -⟩
  · have hindex : s.countIndex < 62 := Dma.countIndex_lt _
    rw [Machine.dmaPair, hmachine, dmaRegister_deposit, if_neg (by omega), if_pos rfl,
      dmaRegister_deposit, if_pos rfl, hlen, ← ofInt_of_nonneg hcount]
    rfl
  · exact absurd htransfers hno

/-- **All that a transfer does to a pair of registers.** It moves its own pair on. To do so it
writes the count of a channel that has its address register for a count register, and clears the
address of a channel that has its count register for an address register. -/
theorem step_dmaPair (h : (s.step device).2 = .running next) (htransfers : s.Transfers device)
    (hi : i + 1 < 64) :
    next.machine.dmaPair i =
      if s.countIndex = i then Dma.moved (s.machine.dmaPair i)
      else if s.countIndex + 1 = i then
        (s.dmaAddress + UInt16.ofInt s.wordsLeft, s.machine.dmaRegister (i + 1))
      else if i + 1 = s.countIndex then (s.machine.dmaRegister i, 0)
      else s.machine.dmaPair i := by
  have hself := step_dmaPair_self h htransfers
  obtain ⟨hcount, haddress⟩ := Prod.mk.inj hself
  have hother (j : ℕ) (hj : j < 64) (hne : j ≠ s.countIndex) (hne' : j ≠ s.countIndex + 1) :
      next.machine.dmaRegister j = s.machine.dmaRegister j :=
    step_dmaRegister h hj fun _ => ⟨hne, hne'⟩
  split_ifs with hsame hlower hupper
  · rw [← hsame, hself]
  · rw [Machine.dmaPair, hother (i + 1) (by omega) (by omega) (by omega), ← hlower, haddress]
    rfl
  · rw [Machine.dmaPair, hupper, hcount, hother i (by omega) (by omega) (by omega)]
  · rw [Machine.dmaPair, hother i (by omega) (Ne.symm hsame) (Ne.symm hlower),
      hother (i + 1) hi hupper (by omega), Machine.dmaPair]

theorem countIndex_mod (s : Activity S) : s.countIndex % 4 < 2 := by
  rw [countIndex, Dma.countIndex_eq]
  omega

/-! ## Programs -/

/-- **The pair on a path** on which no channel that shares a register with it transfers. -/
theorem Path.dmaPair_eq {visited : List (Activity S)} (hp : Path device s visited t)
    (hi : i + 1 < 64)
    (halone : ∀ r ∈ visited, r.Transfers device → ¬ Dma.Overlap r.countIndex i) :
    (¬ Completed device visited i ∧ t.machine.dmaPair i = s.machine.dmaPair i) ∨
      (Completed device visited i ∧ t.machine.dmaPair i = Dma.moved (s.machine.dmaPair i)) := by
  refine hp.moved_once (f := fun r => r.machine.dmaPair i) Dma.moved_moved ?_
  intro r hr next hnext
  by_cases htransfers : r.Transfers device
  · by_cases hindex : r.countIndex = i
    · refine .inl ⟨⟨htransfers, hindex⟩, ?_⟩
      rw [← hindex]
      exact step_dmaPair_self hnext htransfers
    · obtain ⟨hlower, hupper⟩ := not_or.1 (halone r hr htransfers)
      refine .inr ⟨fun hown => hindex hown.2, ?_⟩
      rw [step_dmaPair hnext htransfers hi, if_neg hindex, if_neg hlower, if_neg hupper]
  · exact .inr ⟨fun hown => htransfers hown.1, step_dmaPair_of_not_transfers hnext htransfers hi⟩

/-- **The count on any path**, of a channel whose count register is no channel's address. -/
theorem Path.dmaCount_eq {visited : List (Activity S)} (hp : Path device s visited t)
    (hmod : i % 4 = 0) (hi : i < 64) :
    (¬ Completed device visited i ∧ t.machine.dmaRegister i = s.machine.dmaRegister i) ∨
      (Completed device visited i ∧ t.machine.dmaRegister i = 0) := by
  refine hp.moved_once (f := fun r => r.machine.dmaRegister i) (g := fun _ => 0)
    (fun _ => rfl) ?_
  intro r _ next hnext
  by_cases hown : r.Transfers device ∧ r.countIndex = i
  · refine .inl ⟨hown, ?_⟩
    rw [← hown.2]
    exact (Prod.mk.inj (step_dmaPair_self hnext hown.1)).1
  · refine .inr ⟨hown, step_dmaRegister hnext hi fun htransfers => ⟨?_, ?_⟩⟩
    · intro hindex
      exact hown ⟨htransfers, hindex.symm⟩
    · -- an address register is never the first of four
      have hindex := r.countIndex_mod
      omega

/-- **A channel that has transferred**: its count is zero, or it is the address that the first
channel of its group has left there, and that channel has transferred too. -/
def Spent (m : Machine) (i : ℕ) : Prop :=
  m.dmaRegister i = 0 ∨
    ((m.dmaRegister i).toNat ≤ 2048 ∧ ∃ j, j + 1 = i ∧ m.dmaRegister j = 0)

/-- A channel that has transferred asks for no words. -/
theorem Spent.wordsLeft_nonpos {m : Machine} (h : Spent m i) :
    Dma.wordsLeft (m.dmaRegister i) ≤ 0 := by
  apply Dma.wordsLeft_nonpos
  rcases h with hzero | ⟨hle, -⟩
  · rw [hzero]
    decide
  · omega

theorem Spent.step (hs : Spent s.machine i) (hmod : i % 4 < 2) (hi : i < 64)
    (h : (s.step device).2 = .running next) : Spent next.machine i := by
  have hindex : s.countIndex < 62 := Dma.countIndex_lt _
  have hmod' := s.countIndex_mod
  by_cases hown : s.Transfers device ∧ s.countIndex = i
  · obtain ⟨htransfers, rfl⟩ := hown
    exact .inl (Prod.mk.inj (step_dmaPair_self h htransfers)).1
  by_cases hlower : s.Transfers device ∧ s.countIndex + 1 = i
  · -- the first channel of the group adds its words to the count
    obtain ⟨htransfers, rfl⟩ := hlower
    obtain ⟨hzero, haddress⟩ := Prod.mk.inj (step_dmaPair_self h htransfers)
    refine .inr ⟨?_, s.countIndex, rfl, hzero⟩
    rw [haddress]
    rcases hs with hfirst | ⟨hle, j, hj, hspent⟩
    · have hcount := wordsLeft_nonneg htransfers
      have hle := Dma.wordsLeft_le (s.machine.dmaRegister s.countIndex)
      rw [wordsLeft] at hcount
      rw [Machine.dmaPair, hfirst, UInt16.zero_add, ofInt_of_nonneg hcount,
        UInt16.toNat_ofNat']
      omega
    · obtain rfl : j = s.countIndex := by omega
      rw [Machine.dmaPair, hspent, Dma.ofInt_wordsLeft_zero, UInt16.add_zero]
      exact hle
  · -- no transfer reaches the register, or the one before it
    have hsame (j : ℕ) (hj : j = i ∨ j + 1 = i) :
        next.machine.dmaRegister j = s.machine.dmaRegister j := by
      refine step_dmaRegister h (by omega) fun htransfers => ?_
      have hne : s.countIndex ≠ i := fun heq => hown ⟨htransfers, heq⟩
      have hne' : s.countIndex + 1 ≠ i := fun heq => hlower ⟨htransfers, heq⟩
      omega
    rcases hs with hzero | ⟨hle, j, hj, hzero⟩
    · exact .inl ((hsame i (.inl rfl)).trans hzero)
    · refine .inr ⟨?_, j, hj, (hsame j (.inr hj)).trans hzero⟩
      rwa [hsame i (.inl rfl)]

/-- **Once a channel has transferred, it stays so.** -/
theorem Path.spent {visited : List (Activity S)} (hp : Path device s visited t)
    (hmod : i % 4 < 2) (hi : i < 64) (h : Completed device visited i) : Spent t.machine i := by
  induction hp with
  | nil s => simp [Completed] at h
  | @cons s next t visited hstep hrest ih =>
    rcases (List.exists_mem_cons_iff ..).1 h with ⟨htransfers, rfl⟩ | h
    · have hnext : Spent next.machine s.countIndex :=
        .inl (Prod.mk.inj (step_dmaPair_self hstep htransfers)).1
      exact (hrest.invariant (P := fun r => Spent r.machine s.countIndex)
        (fun _ _ ha hstep => ha.step hmod hi hstep) hnext).1
    · exact ih h

/-- What holds of the registers of the channel at an index, at a moment of a program that began with
this machine, after these orders. -/
structure Once (device : UInt8) (m : Machine) (visited : List (Activity S)) (t : Activity S)
    (i : ℕ) : Prop where
  /-- The pair is as it was, or moved on once. -/
  pair : (∀ r ∈ visited, r.Transfers device → ¬ Dma.Overlap r.countIndex i) →
    (¬ Completed device visited i ∧ t.machine.dmaPair i = m.dmaPair i) ∨
      (Completed device visited i ∧ t.machine.dmaPair i =
        (0, m.dmaRegister (i + 1) + UInt16.ofInt (Dma.wordsLeft (m.dmaRegister i))))
  /-- The count of the first channel of a group is as it was, or zero. -/
  count : i % 4 = 0 →
    (¬ Completed device visited i ∧ t.machine.dmaRegister i = m.dmaRegister i) ∨
      (Completed device visited i ∧ t.machine.dmaRegister i = 0)
  /-- A channel that has transferred transfers no words again. -/
  spent : Completed device visited i → t.countIndex = i → t.wordsLeft ≤ 0 ∧
    ∀ next, t.Transfers device → (t.step device).2 = .running next →
      next.machine.memory = t.machine.memory
  /-- The transfer of another channel changes a register that it shares, and no other. -/
  other : ∀ next, t.Transfers device → (t.step device).2 = .running next → t.countIndex ≠ i →
    next.machine.dmaPair i =
      if t.countIndex + 1 = i then
        (t.dmaAddress + UInt16.ofInt t.wordsLeft, t.machine.dmaRegister (i + 1))
      else if i + 1 = t.countIndex then (t.machine.dmaRegister i, 0)
      else t.machine.dmaPair i

theorem Path.once {visited : List (Activity S)} (hp : Path device s visited t) (hmod : i % 4 < 2)
    (hi : i + 1 < 64) : Once device s.machine visited t i where
  pair := hp.dmaPair_eq hi
  count hmod := hp.dmaCount_eq hmod (by omega)
  spent hcompleted hindex := by
    have hcount : t.wordsLeft ≤ 0 := by
      rw [wordsLeft, hindex]
      exact (hp.spent hmod (by omega) hcompleted).wordsLeft_nonpos
    refine ⟨hcount, ?_⟩
    intro next htransfers hstep
    rcases step_machine hstep with ⟨-, -, words, hlen, hmachine⟩ | ⟨hno, -⟩
    · obtain rfl : words = [] := List.eq_nil_of_length_eq_zero (by omega)
      rw [hmachine]
      rfl
    · exact absurd htransfers hno
  other next htransfers hstep hindex := by
    rw [step_dmaPair hstep htransfers hi, if_neg hindex]

end Activity

/-- **A channel's transfer completes once.** Take any program on any machine, and a channel. As long
as the other channel of its group does not transfer, its registers are as they were before the
program, or they were moved on by the words that they asked for then, once the channel has
transferred. Whatever transfers, a channel that has transferred asks for no words again, and the
count of the first channel of a group is as it was or zero. The transfer of another channel leaves
the registers alone, but for the one that the two channels share. A run ends with the machine that
its last order was fetched from. -/
theorem Controller.transfer_once (c : Controller S) (m : Machine) (device : UInt8)
    (address channel : Word) :
    (∀ visited t, Activity.Path device ⟨m, c, { address }⟩ visited t →
      Activity.Once device m visited t (Dma.countIndex channel)) ∧
    ∀ limit events last, c.run limit m device address = some (events, last) →
      ∃ visited t, Activity.Path device ⟨m, c, { address }⟩ visited t ∧
        (t.step device).2 = .ended last ∧ last.machine = t.machine := by
  constructor
  · intro visited t hp
    have hindex := Dma.countIndex_eq channel
    exact hp.once (by omega) (by omega)
  · intro limit events last h
    obtain ⟨visited, t, hp, hlast, -⟩ := Controller.run_eq_some_iff.1 h
    exact ⟨visited, t, hp, hlast, (Activity.step_ended hlast).1⟩

/-- The record of one word is read through channel 1, whose registers are moved on once. -/
theorem transfer_once_reading : ∃ visited t,
    Activity.Path 0o26 ⟨reading, oneWord, { address := 0 }⟩ visited t ∧
      Activity.Completed 0o26 visited 1 ∧ t.machine.dmaPair 1 = (0, 0o4001) := by
  obtain ⟨visited, t, hp, -, -, -, hcompleted, hothers⟩ :=
    path_reading has_reading (by decide) (by decide)
  have honce := (Controller.transfer_once oneWord reading 0o26 0 1).1 visited t hp
  rw [show Dma.countIndex 1 = 1 from by decide] at honce
  have halone : ∀ r ∈ visited, r.Transfers 0o26 → ¬ Dma.Overlap r.countIndex 1 := by
    intro r hr htransfers
    rw [hothers r hr htransfers]
    simp [Dma.Overlap]
  rcases honce.pair halone with ⟨hno, -⟩ | ⟨hcompleted, hpair⟩
  · exact absurd hcompleted hno
  · refine ⟨visited, t, hp, hcompleted, hpair.trans ?_⟩
    decide

/-- **A transfer can change the pair of a channel that did not transfer.** Only channel 1 transfers
in this program. Its count register is the address register of channel 0, which becomes zero: the
pair of channel 0 is neither as it was nor moved on. -/
theorem Controller.pair_disturbed : ∃ visited t events last,
    Activity.Path 0o26 ⟨reading, oneWord, { address := 0 }⟩ visited t ∧
      (t.step 0o26).2 = .ended last ∧ oneWord.run 4 reading 0o26 0 = some (events, last) ∧
      (∀ r ∈ visited, r.Transfers 0o26 → r.countIndex ≠ Dma.countIndex 0) ∧
      reading.dmaPair (Dma.countIndex 0) = (0o177700, 0o177760) ∧
      last.machine.dmaPair (Dma.countIndex 0) = (0o177700, 0) ∧
      last.machine.dmaPair (Dma.countIndex 0) ≠ reading.dmaPair (Dma.countIndex 0) ∧
      last.machine.dmaPair (Dma.countIndex 0) ≠
        (0, 0o177760 + UInt16.ofInt (Dma.wordsLeft 0o177700)) := by
  obtain ⟨visited, t, hp, hlen, ho, hmachine, -, hothers⟩ :=
    path_reading has_reading (by decide) (by decide)
  have hlast := Activity.step_of_halt 0o26 ho
  have hrun := Controller.run_eq_some_iff.2
    ⟨visited, t, hp, hlast, (by omega : visited.length < 4), rfl⟩
  have hpair : t.machine.dmaPair (Dma.countIndex 0) = (0o177700, 0) := by
    rw [hmachine, show Dma.countIndex 0 = 0 from by decide, Machine.dmaPair,
      Activity.dmaRegister_deposit, Activity.dmaRegister_deposit]
    decide
  refine ⟨visited, t, _, _, hp, hlast, hrun, ?_, by decide, hpair, ?_, ?_⟩
  · intro r hr htransfers
    rw [hothers r hr htransfers]
    decide
  · show t.machine.dmaPair (Dma.countIndex 0) ≠ _
    rw [hpair]
    decide
  · show t.machine.dmaPair (Dma.countIndex 0) ≠ _
    rw [hpair]
    decide

end PeripheralBus
