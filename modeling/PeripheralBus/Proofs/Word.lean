import Mathlib.Data.Nat.Bitwise
import PeripheralBus.Machine

/-!
# Words as numbers

The bit operations that pack and unpack words, as arithmetic.

* `toNat_and_low`, `and_bit_ne_zero`: a mask of low bits takes a remainder, one of a single bit
  tests it.
* `toNat_shiftLeft_byte`, `or_high`: moving a byte up multiplies, joining bits above others adds.
* `toNat_wordOfBytes`: a word of two bytes.
* `ofInt_of_nonneg`: the word of an integer that is not negative.
-/

namespace PeripheralBus

/-- A mask of low bits takes a remainder. -/
theorem toNat_and_low (k : ℕ) {w mask : Word} (h : mask.toNat = 2 ^ k - 1) :
    (w &&& mask).toNat = w.toNat % 2 ^ k := by
  rw [UInt16.toNat_and, h, Nat.and_two_pow_sub_one_eq_mod]

/-- A mask of one bit tests it. -/
theorem and_bit_ne_zero (k : ℕ) {w mask : Word} (h : mask.toNat = 2 ^ k) :
    w &&& mask ≠ 0 ↔ w.toNat / 2 ^ k % 2 = 1 := by
  have hb : (w &&& mask).toNat = (w.toNat.testBit k).toNat * 2 ^ k := by
    rw [UInt16.toNat_and, h, Nat.and_two_pow]
  rw [ne_eq, ← UInt16.toNat_inj, hb, Nat.testBit_eq_decide_div_mod_eq]
  by_cases hk : w.toNat / 2 ^ k % 2 = 1 <;> simp [hk]

/-- Joining with bits above is adding. -/
theorem or_high {low high : ℕ} (k a : ℕ) (hlow : low < 2 ^ k) (hhigh : high = 2 ^ k * a) :
    low ||| high = low + high := by
  rw [hhigh, Nat.or_comm, ← Nat.two_pow_add_eq_or_of_lt hlow, Nat.add_comm]

/-- A byte that stays inside the word is moved up by multiplying. -/
theorem toNat_shiftLeft_byte (k : ℕ) {b : UInt8} {places : Word} (hk : places.toNat = k)
    (hk' : k < 16) (h : 2 ^ k * b.toNat < 65536) :
    (b.toUInt16 <<< places).toNat = 2 ^ k * b.toNat := by
  rw [UInt16.toNat_shiftLeft, UInt8.toNat_toUInt16, hk, Nat.mod_eq_of_lt hk', Nat.shiftLeft_eq,
    Nat.mul_comm, Nat.mod_eq_of_lt h]

theorem toNat_wordOfBytes (high low : UInt8) :
    (wordOfBytes high low).toNat = high.toNat * 256 + low.toNat := by
  have hhigh := high.toNat_lt
  have hlow := low.toNat_lt
  rw [wordOfBytes, UInt16.toNat_or, toNat_shiftLeft_byte 8 rfl (by omega) (by omega),
    UInt8.toNat_toUInt16, ← Nat.two_pow_add_eq_or_of_lt hlow]
  omega

theorem ofInt_of_nonneg {z : ℤ} (h : 0 ≤ z) : UInt16.ofInt z = UInt16.ofNat z.toNat := by
  rw [UInt16.ofInt, ← UInt16.toNat_inj, UInt16.toNat_ofNat', UInt16.toNat_ofNat']
  omega

/-- The next address but `i`. -/
theorem add_ofNat_succ (a : Word) (i : ℕ) :
    a + UInt16.ofNat (i + 1) = a + 1 + UInt16.ofNat i := by
  rw [UInt16.ofNat_add, UInt16.add_comm (UInt16.ofNat i), ← UInt16.add_assoc]
  rfl

end PeripheralBus
