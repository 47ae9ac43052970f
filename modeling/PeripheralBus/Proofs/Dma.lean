import PeripheralBus.Channel.Dma
import PeripheralBus.Proofs.Channel.RoundTrip

/-!
# DMA channels as numbers

Which registers a channel has, and how many words its count register asks for, in arithmetic. Four
registers in a row belong to two channels: the count of the even one, then a register that is the
even channel's address and the odd channel's count, then the odd channel's address. The fourth
belongs to no channel.

* `Dma.countIndex_eq`: the index of a channel's count register.
* `Dma.countIndex_eq_iff`: channels with the same registers.
* `Dma.Overlap`, `Dma.overlap_iff`: the two channels of a group share a register.
* `Dma.wordsLeft_le`, `Dma.wordsLeft_nonpos`: the largest transfer, and counts that ask for none.
* `Dma.moved`: what a transfer makes of a pair of registers; it does nothing twice.
-/

namespace PeripheralBus.Dma

/-- **The index of a channel's count register**: four registers for every two channels. -/
theorem countIndex_eq (channel : Word) :
    countIndex channel = 4 * (channel.toNat / 2 % 16) + channel.toNat % 2 := by
  have hlow : (channel &&& 1).toNat = channel.toNat % 2 := toNat_and_low 1 (by decide)
  have hmask : (channel &&& 0o36).toNat = channel.toNat / 2 % 16 * 2 :=
    toNat_and_bits channel (show 1 ≤ 4 by decide) (by decide)
  have hhigh : ((channel &&& 0o36) <<< 1).toNat = 2 ^ 1 * (channel &&& 0o36).toNat := by
    rw [UInt16.toNat_shiftLeft, Nat.shiftLeft_eq]
    simp only [show (1 : Word).toNat % 16 = 1 from rfl]
    omega
  rw [countIndex, UInt16.toNat_or, Nat.or_comm, or_high 1 _ (by omega) hhigh, hlow, hhigh, hmask]
  omega

/-- A channel's registers are two of the first 63. -/
theorem countIndex_lt (channel : Word) : countIndex channel < 62 := by
  rw [countIndex_eq]
  omega

/-- Channels have the same registers when they have the same last five bits. -/
theorem countIndex_eq_iff (channel channel' : Word) :
    countIndex channel = countIndex channel' ↔ channel.toNat % 32 = channel'.toNat % 32 := by
  rw [countIndex_eq, countIndex_eq]
  omega

/-- Channels with their count registers at these indices **share a register**: the address register
of the one is the count register of the other. -/
def Overlap (i j : ℕ) : Prop := i + 1 = j ∨ j + 1 = i

/-- Every channel shares a register with one other, the second one of its group. -/
theorem overlap_iff (channel channel' : Word) :
    Overlap (countIndex channel) (countIndex channel') ↔
      channel.toNat / 2 % 16 = channel'.toNat / 2 % 16 ∧
        channel.toNat % 2 ≠ channel'.toNat % 2 := by
  rw [Overlap, countIndex_eq, countIndex_eq]
  omega

/-- A channel asks for at most 2048 words. -/
theorem wordsLeft_le (register : Word) : wordsLeft register ≤ 2048 := by
  have hlow := register.toInt16.le_toInt
  rw [wordsLeft]
  omega

/-- A count register with a number that is not negative asks for no words. -/
theorem wordsLeft_nonpos {register : Word} (h : register.toNat < 2 ^ 15) :
    wordsLeft register ≤ 0 := by
  have hvalue : register.toInt16.toInt = register.toNat :=
    BitVec.toInt_eq_toNat_of_lt (show 2 * register.toNat < 2 ^ 16 by omega)
  rw [wordsLeft, hvalue]
  omega

/-- A zero count asks for no words. -/
theorem ofInt_wordsLeft_zero : UInt16.ofInt (wordsLeft 0) = 0 := by decide

/-- What a transfer makes of a count and an address: the count becomes zero, and the address moves
on by the words transferred. -/
def moved (pair : Word × Word) : Word × Word := (0, pair.2 + UInt16.ofInt (wordsLeft pair.1))

/-- A second transfer leaves the pair as it is. -/
theorem moved_moved (pair : Word × Word) : moved (moved pair) = moved pair := by
  simp only [moved, ofInt_wordsLeft_zero, UInt16.add_zero]

end PeripheralBus.Dma
