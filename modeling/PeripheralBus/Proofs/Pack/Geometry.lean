import Mathlib.Tactic.Linarith
import PeripheralBus.Pack.Geometry

/-!
# Offsets without overflow

A record's number and offset are computed step by step in 64 bits, and each step may fail. None
fails before the exact result is out of range, for every step only makes the number larger. So the
checked computation is one check of the exact number, and one test of the last record is enough for
all of them.

* `exactly?`: the 64-bit number of a natural number, if it fits.
* `product?_eq`, `sum?_eq`, `bind_exactly?`: steps are checks of exact numbers, and so are chains of
  steps that do not make the number smaller.
* `exactNumber`, `recordNumber?_eq`, `byteOffset?_eq`: number and offset of a record.
* `flaw?_eq_none_iff`: a geometry without a flaw, in exact numbers.
* `byteOffset?_of_flawless`: **such a geometry has room for every record that an order can name**.
-/

namespace PeripheralBus.Pack

/-- The 64-bit number of a natural number, if it fits. -/
def exactly? (n : ℕ) : Option UInt64 := if n < 2 ^ 64 then some (UInt64.ofNat n) else none

theorem map_toNat_exactly? (n : ℕ) :
    (exactly? n).map UInt64.toNat = if n < 2 ^ 64 then some n else none := by
  by_cases hn : n < 2 ^ 64
  · rw [exactly?, if_pos hn, if_pos hn, Option.map_some, UInt64.toNat_ofNat_of_lt' hn]
  · rw [exactly?, if_neg hn, if_neg hn, Option.map_none]

theorem product?_eq (a b : UInt64) : product? a b = exactly? (a.toNat * b.toNat) := by
  rw [product?, exactly?, UInt64.ofNat_mul, UInt64.ofNat_toNat, UInt64.ofNat_toNat]
  rfl

theorem sum?_eq (a b : UInt64) : sum? a b = exactly? (a.toNat + b.toNat) := by
  rw [sum?, exactly?, UInt64.ofNat_add, UInt64.ofNat_toNat, UInt64.ofNat_toNat]
  rfl

/-- **A chain of steps is one check** when the exact number does not shrink on the way. -/
theorem bind_exactly? {n result : ℕ} {step : UInt64 → Option UInt64}
    (hgrows : n < 2 ^ 64 ∨ n ≤ result)
    (hstep : ∀ x : UInt64, x.toNat = n → step x = exactly? result) :
    (exactly? n).bind step = exactly? result := by
  by_cases hn : n < 2 ^ 64
  · rw [exactly?, if_pos hn, Option.bind_some, hstep _ (UInt64.toNat_ofNat_of_lt' hn)]
  · have hresult : ¬ result < 2 ^ 64 := by omega
    rw [exactly?, if_neg hn, Option.bind_none, exactly?, if_neg hresult]

/-- A 32-bit number that is not zero is positive. -/
theorem toNat_pos_of_ne_zero {b : UInt32} (h : b ≠ 0) : 0 < b.toNat := by
  rw [Nat.pos_iff_ne_zero, ne_eq, ← UInt32.toNat_zero, UInt32.toNat_inj]
  exact h

namespace Geometry

variable (g : Geometry)

/-- The number of a record without regard to any width. -/
def exactNumber (track : Word) (head record : UInt8) : ℕ :=
  track.toNat * g.heads.toNat * g.sectorsPerTrack.toNat + head.toNat * g.sectorsPerTrack.toNat +
    record.toNat

/-- **The number of a record** is the exact one, if that one fits. -/
theorem recordNumber?_eq (track : Word) (head record : UInt8) :
    g.recordNumber? track head record = exactly? (g.exactNumber track head record) := by
  have htrack := track.toNat_lt
  have hhead := head.toNat_lt
  have hheads := g.heads.toNat_lt
  have hsectors := g.sectorsPerTrack.toNat_lt
  -- only the product of all three and what is added to it can be too large
  have htracks : track.toNat * g.heads.toNat < 2 ^ 64 := by nlinarith
  have hwithin : head.toNat * g.sectorsPerTrack.toNat < 2 ^ 64 := by nlinarith
  simp only [recordNumber?, product?_eq, sum?_eq, UInt16.toNat_toUInt64, UInt32.toNat_toUInt64,
    UInt8.toNat_toUInt64, Option.bind_eq_bind]
  refine bind_exactly? (.inl htracks) fun tracks htracks => ?_
  rw [htracks]
  refine bind_exactly? (.inr (by unfold exactNumber; omega)) fun before hbefore => ?_
  refine bind_exactly? (.inl hwithin) fun within hwithin => ?_
  rw [hbefore, hwithin]
  refine bind_exactly? (.inr (by unfold exactNumber; omega)) fun start hstart => ?_
  rw [hstart, exactNumber]

/-- **The offset of a record** is the exact one, if number and offset fit. -/
theorem byteOffset?_eq (track : Word) (head record : UInt8) :
    g.byteOffset? track head record =
      if g.exactNumber track head record < 2 ^ 64 then
        exactly? (g.exactNumber track head record * g.sectorBytes.toNat)
      else none := by
  simp only [byteOffset?, recordNumber?_eq, product?_eq, UInt32.toNat_toUInt64,
    Option.bind_eq_bind]
  by_cases hnumber : g.exactNumber track head record < 2 ^ 64
  · rw [if_pos hnumber]
    exact bind_exactly? (.inl hnumber) fun number h => by rw [h]
  · rw [if_neg hnumber, exactly?, if_neg hnumber, Option.bind_none]

/-- Records have at least one byte, so that the offset fits only if the number does. -/
theorem byteOffset?_eq_of_pos (hbytes : 0 < g.sectorBytes.toNat) (track : Word)
    (head record : UInt8) :
    g.byteOffset? track head record =
      exactly? (g.exactNumber track head record * g.sectorBytes.toNat) := by
  rw [byteOffset?_eq]
  by_cases hnumber : g.exactNumber track head record < 2 ^ 64
  · rw [if_pos hnumber]
  · have hgrows : g.exactNumber track head record ≤
        g.exactNumber track head record * g.sectorBytes.toNat := Nat.le_mul_of_pos_right _ hbytes
    rw [if_neg hnumber, exactly?, if_neg (by omega)]

/-- Where the last record ends, if that place fits. -/
theorem lastEnd?_eq (hbytes : 0 < g.sectorBytes.toNat) :
    g.lastEnd? = exactly? ((g.exactNumber 0o1777 0o77 0o377 + 1) * g.sectorBytes.toNat) := by
  simp only [lastEnd?, lastRecord, g.byteOffset?_eq_of_pos hbytes, sum?_eq, UInt32.toNat_toUInt64,
    Option.bind_eq_bind]
  rw [Nat.add_mul, Nat.one_mul]
  exact bind_exactly? (.inr (Nat.le_add_right _ _)) fun offset h => by rw [h]

/-- **A geometry without a flaw**: no field is zero, and the last record ends inside the 64-bit
range. -/
theorem flaw?_eq_none_iff :
    g.flaw? = none ↔ g.heads ≠ 0 ∧ g.sectorsPerTrack ≠ 0 ∧ g.sectorBytes ≠ 0 ∧
      (g.exactNumber 0o1777 0o77 0o377 + 1) * g.sectorBytes.toNat < 2 ^ 64 := by
  unfold flaw?
  by_cases hzero : g.heads = 0 ∨ g.sectorsPerTrack = 0 ∨ g.sectorBytes = 0
  · rw [if_pos hzero]
    refine iff_of_false (by simp) ?_
    rintro ⟨hheads, hsectors, hbytes, -⟩
    rcases hzero with h | h | h
    · exact hheads h
    · exact hsectors h
    · exact hbytes h
  · obtain ⟨hheads, hsectors, hbytes⟩ :
        g.heads ≠ 0 ∧ g.sectorsPerTrack ≠ 0 ∧ g.sectorBytes ≠ 0 := by
      simpa only [not_or] using hzero
    rw [if_neg hzero, g.lastEnd?_eq (toNat_pos_of_ne_zero hbytes), exactly?]
    split <;> simp_all

/-- Of the records that an order can name none has a higher number than the last one. -/
theorem exactNumber_le {track : Word} {head : UInt8} (htrack : track.toNat ≤ 1023)
    (hhead : head.toNat ≤ 63) (record : UInt8) :
    g.exactNumber track head record ≤ g.exactNumber 0o1777 0o77 0o377 := by
  have hrecord : record.toNat ≤ 255 := Nat.le_of_lt_succ record.toNat_lt
  have htracks : track.toNat * g.heads.toNat * g.sectorsPerTrack.toNat ≤
      1023 * g.heads.toNat * g.sectorsPerTrack.toNat :=
    Nat.mul_le_mul_right _ (Nat.mul_le_mul_right _ htrack)
  have hheads : head.toNat * g.sectorsPerTrack.toNat ≤ 63 * g.sectorsPerTrack.toNat :=
    Nat.mul_le_mul_right _ hhead
  unfold exactNumber
  exact Nat.add_le_add (Nat.add_le_add htracks hheads) hrecord

variable {g}

/-- **A geometry without a flaw has room for every record that an order can name**: each has an
offset, and ends inside the 64-bit range. -/
theorem byteOffset?_of_flawless (h : g.flaw? = none) {track : Word} {head : UInt8}
    (htrack : track.toNat ≤ 1023) (hhead : head.toNat ≤ 63) (record : UInt8) :
    ∃ offset, g.byteOffset? track head record = some offset ∧
      offset.toNat = g.exactNumber track head record * g.sectorBytes.toNat ∧
      offset.toNat + g.sectorBytes.toNat < 2 ^ 64 := by
  obtain ⟨-, -, hbytes, hlast⟩ := g.flaw?_eq_none_iff.1 h
  have hpos : 0 < g.sectorBytes.toNat := toNat_pos_of_ne_zero hbytes
  have hends : (g.exactNumber track head record + 1) * g.sectorBytes.toNat < 2 ^ 64 :=
    Nat.lt_of_le_of_lt
      (Nat.mul_le_mul_right _ (Nat.succ_le_succ (g.exactNumber_le htrack hhead record))) hlast
  rw [Nat.add_mul, Nat.one_mul] at hends
  have hfits : g.exactNumber track head record * g.sectorBytes.toNat < 2 ^ 64 := by omega
  refine ⟨_, by rw [g.byteOffset?_eq_of_pos hpos, exactly?, if_pos hfits], ?_⟩
  rw [UInt64.toNat_ofNat_of_lt' hfits]
  exact ⟨rfl, hends⟩

end Geometry

end PeripheralBus.Pack
