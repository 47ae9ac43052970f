import PeripheralBus.Channel.Order
import PeripheralBus.Proofs.Word

/-!
# Orders and their words

Fields of an order's words as numbers, so that what `Order.toWords` puts together and what
`Order.ofWords` takes apart meet in arithmetic.

* `OrderWords.toNat_code`, …: each field of three words as a quotient and a remainder.
* `Order.toNat_firstWord`: the first word as the sum of its fields.
* `ofWords_of_toWords`: **reading the words of an order gives the order back**, its fields cut to
  their widths, whatever word stands behind them; code and flag are the order's own.
-/

namespace PeripheralBus

namespace OrderWords

variable (w : OrderWords)

/-- The words as a list. -/
def toList : List Word := [w.first, w.second, w.third]

theorem toNat_code : w.code.toNat = w.first.toNat / 4096 := by
  have := w.first.toNat_lt
  simp only [code, UInt16.toNat_toUInt8, UInt16.toNat_shiftRight, UInt16.toNat_ofNat,
    Nat.shiftRight_eq_div_pow, Nat.reducePow, Nat.reduceMod]
  omega

theorem flagged_iff : w.flagged = true ↔ w.first.toNat / 2048 % 2 = 1 := by
  simpa [flagged] using and_bit_ne_zero 11 (show flag.toNat = 2 ^ 11 by decide)

theorem toNat_low : w.low.toNat = w.first.toNat % 16 := by
  simp only [low, UInt16.toNat_toUInt8, toNat_and_low 4 (show lowMask.toNat = 2 ^ 4 - 1 by decide)]
  omega

theorem toNat_track : w.track.toNat = w.second.toNat % 1024 :=
  toNat_and_low 10 (show trackMask.toNat = 2 ^ 10 - 1 by decide)

theorem restore_iff : w.restore = true ↔ w.second.toNat / 32768 % 2 = 1 := by
  simpa [restore] using and_bit_ne_zero 15 (show restoreBit.toNat = 2 ^ 15 by decide)

theorem clear_iff : w.clear = true ↔ w.second.toNat / 16384 % 2 = 1 := by
  simpa [clear] using and_bit_ne_zero 14 (show clearBit.toNat = 2 ^ 14 by decide)

theorem toNat_unitField : w.unitField.toNat = w.second.toNat % 16 := by
  simp only [unitField, UInt16.toNat_toUInt8,
    toNat_and_low 4 (show lowMask.toNat = 2 ^ 4 - 1 by decide)]
  omega

theorem toNat_record : w.record.toNat = w.third.toNat / 256 := by
  have := w.third.toNat_lt
  simp only [record, UInt16.toNat_toUInt8, UInt16.toNat_shiftRight, UInt16.toNat_ofNat,
    Nat.shiftRight_eq_div_pow, Nat.reducePow, Nat.reduceMod]
  omega

theorem toNat_head : w.head.toNat = w.third.toNat % 64 := by
  simp only [head, UInt16.toNat_toUInt8,
    toNat_and_low 6 (show headMask.toNat = 2 ^ 6 - 1 by decide)]
  omega

end OrderWords

/-! ## Fields of the right width -/

/-- The operands with every field cut to its width. -/
def Sector.narrowed (s : Sector) : Sector :=
  ⟨s.recordSize % 16, s.track % 1024, s.head % 64, s.record⟩

/-- Every field has room in its place. -/
def Sector.Fits (s : Sector) : Prop := s.recordSize < 16 ∧ s.track < 1024 ∧ s.head < 64

namespace Order

/-- The order with every field cut to its width. -/
def narrowed : Order → Order
  | .format s => .format s.narrowed
  | .read s => .read s.narrowed
  | .write s => .write s.narrowed
  | .seek track restore clear => .seek (track % 1024) restore clear
  | .selectUnit field => .selectUnit (field % 16)
  | .selectDma channels channel => .selectDma (channels % 16) channel
  | o => o

/-- Every field has room in its place. -/
def Fits : Order → Prop
  | .format s | .read s | .write s => s.Fits
  | .seek track .. => track < 1024
  | .selectUnit field => field < 16
  | .selectDma channels _ => channels < 16
  | _ => True

theorem narrowed_of_fits {o : Order} (h : o.Fits) : o.narrowed = o := by
  cases o with
  | format s | read s | write s =>
    obtain ⟨h1, h2, h3⟩ := h
    simp only [narrowed, Sector.narrowed, UInt8.mod_eq_of_lt h1, UInt16.mod_eq_of_lt h2,
      UInt8.mod_eq_of_lt h3]
  | seek track restore clear => simp only [narrowed, UInt16.mod_eq_of_lt h]
  | selectUnit field => simp only [narrowed, UInt8.mod_eq_of_lt h]
  | selectDma channels channel => simp only [narrowed, UInt8.mod_eq_of_lt h]
  | _ => rfl

/-! ## The words of an order -/

theorem code_lt (o : Order) : o.code.toNat < 16 := by cases o <;> simp [code]

theorem toNat_firstWord (o : Order) (executeIf : Bool) :
    (o.firstWord executeIf).toNat =
      o.code.toNat * 4096 + (if executeIf then 2048 else 0) + o.lowField.toNat % 16 := by
  have hcode := o.code_lt
  have hlow : (o.lowField.toUInt16 &&& OrderWords.lowMask).toNat = o.lowField.toNat % 16 :=
    toNat_and_low 4 (by decide)
  have hshift : (o.code.toUInt16 <<< 12).toNat = 2 ^ 12 * o.code.toNat :=
    toNat_shiftLeft_byte 12 rfl (by omega) (by omega)
  -- the flag lies between the code and the small number, so it joins the latter first
  have hflag : o.lowField.toNat % 16 |||
      (if executeIf then OrderWords.flag else 0 : Word).toNat =
        o.lowField.toNat % 16 + if executeIf then 2048 else 0 := by
    cases executeIf with
    | false => simp
    | true => exact or_high 11 1 (by omega) rfl
  rw [firstWord, UInt16.toNat_or, UInt16.toNat_or, hshift, hlow, Nat.or_assoc, hflag,
    ← Nat.two_pow_add_eq_or_of_lt (by split <;> omega)]
  omega

theorem toNat_seekWord (track : Word) (restore clear : Bool) :
    ((track &&& OrderWords.trackMask) ||| (if restore then OrderWords.restoreBit else 0) |||
        (if clear then OrderWords.clearBit else 0)).toNat =
      track.toNat % 1024 + (if restore then 32768 else 0) + (if clear then 16384 else 0) := by
  have htrack : (track &&& OrderWords.trackMask).toNat = track.toNat % 1024 :=
    toNat_and_low 10 (by decide)
  simp only [UInt16.toNat_or, htrack]
  cases restore <;> cases clear <;> simp [OrderWords.restoreBit, OrderWords.clearBit]
  · exact or_high 14 1 (by omega) (by decide)
  · exact or_high 15 1 (by omega) (by decide)
  · rw [Nat.or_assoc, or_high 14 3 (by omega) (by decide), Nat.add_assoc]
    rfl

theorem toNat_sectorWord (record head : UInt8) :
    ((record.toUInt16 <<< 8) ||| (head.toUInt16 &&& OrderWords.headMask)).toNat =
      record.toNat * 256 + head.toNat % 64 := by
  have hhead : (head.toUInt16 &&& OrderWords.headMask).toNat = head.toNat % 64 :=
    toNat_and_low 6 (by decide)
  have hrecord := record.toNat_lt
  have hshift : (record.toUInt16 <<< 8).toNat = 2 ^ 8 * record.toNat :=
    toNat_shiftLeft_byte 8 rfl (by omega) (by omega)
  rw [UInt16.toNat_or, hhead, hshift, ← Nat.two_pow_add_eq_or_of_lt (by omega)]
  omega

/-- An order has as many words as its code says. -/
theorem length_toWords (o : Order) (executeIf : Bool) :
    (o.toWords executeIf).length = o.size.toNat := by
  cases o <;> rfl

/-- **Code and flag of the words of an order** are the order's. -/
theorem code_of_toWords {o : Order} {executeIf : Bool} {w : OrderWords}
    (h : o.toWords executeIf <+: w.toList) : w.code = o.code ∧ w.flagged = executeIf := by
  have hfirst : w.first = o.firstWord executeIf := by
    simp only [toWords, OrderWords.toList, List.cons_prefix_cons] at h
    exact h.1.symm
  have hword := o.toNat_firstWord executeIf
  have hcode := o.code_lt
  constructor
  · rw [← UInt8.toNat_inj, OrderWords.toNat_code, hfirst, hword]
    cases executeIf <;> simp <;> omega
  · rw [Bool.eq_iff_iff, OrderWords.flagged_iff, hfirst, hword]
    cases executeIf <;> simp <;> omega

/-- The small number of the first word of an order, cut to its width. -/
theorem low_of_toWords {o : Order} {executeIf : Bool} {w : OrderWords}
    (h : o.toWords executeIf <+: w.toList) : w.low = o.lowField % 16 := by
  have hfirst : w.first = o.firstWord executeIf := by
    simp only [toWords, OrderWords.toList, List.cons_prefix_cons] at h
    exact h.1.symm
  rw [← UInt8.toNat_inj, OrderWords.toNat_low, hfirst, toNat_firstWord, UInt8.toNat_mod]
  cases executeIf <;> simp <;> omega

/-- The operands in the words of an order that moves data, cut to their widths. -/
theorem sector_of_toWords {o : Order} {executeIf : Bool} {w : OrderWords} {s : Sector}
    (h : o.toWords executeIf <+: w.toList) (hlow : o.lowField = s.recordSize)
    (hoperands : o.operandWords = s.operandWords) : Sector.ofWords w = s.narrowed := by
  have hl := low_of_toWords h
  simp only [toWords, OrderWords.toList, hoperands, Sector.operandWords,
    List.cons_prefix_cons] at h
  obtain ⟨-, hsecond, hthird, -⟩ := h
  have htrack : w.track = s.track % 1024 := by
    rw [← UInt16.toNat_inj, OrderWords.toNat_track, ← hsecond,
      toNat_and_low 10 (by decide), UInt16.toNat_mod]
    simp
  have hhead : w.head = s.head % 64 := by
    rw [← UInt8.toNat_inj, OrderWords.toNat_head, ← hthird, toNat_sectorWord, UInt8.toNat_mod]
    simp
    omega
  have hrecord : w.record = s.record := by
    rw [← UInt8.toNat_inj, OrderWords.toNat_record, ← hthird, toNat_sectorWord]
    omega
  rw [Sector.ofWords, Sector.narrowed, hl, hlow, htrack, hhead, hrecord]

/-- **Reading the words of an order gives the order back**, its fields cut to their widths. -/
theorem ofWords_of_toWords {o : Order} {executeIf : Bool} {w : OrderWords}
    (h : o.toWords executeIf <+: w.toList) : ofWords w = .ok o.narrowed := by
  have hcode := (code_of_toWords h).1
  have hwords := h
  simp only [toWords, OrderWords.toList, List.cons_prefix_cons] at hwords
  obtain ⟨-, hoperands⟩ := hwords
  unfold ofWords
  rw [hcode]
  cases o with
  | halt | stall => rfl
  | format s | read s | write s => simp [code, narrowed, sector_of_toWords h rfl rfl]
  | seek track restore clear =>
    simp only [operandWords, List.cons_prefix_cons] at hoperands
    have hword : w.second.toNat = _ :=
      (congrArg UInt16.toNat hoperands.1.symm).trans (toNat_seekWord track restore clear)
    have htrack : w.track = track % 1024 := by
      rw [← UInt16.toNat_inj, OrderWords.toNat_track, hword, UInt16.toNat_mod]
      cases restore <;> cases clear <;> simp <;> omega
    have hrestore : w.restore = restore := by
      rw [Bool.eq_iff_iff, OrderWords.restore_iff, hword]
      cases restore <;> cases clear <;> simp <;> omega
    have hclear : w.clear = clear := by
      rw [Bool.eq_iff_iff, OrderWords.clear_iff, hword]
      cases restore <;> cases clear <;> simp <;> omega
    simp [code, narrowed, htrack, hrestore, hclear]
  | selectUnit field =>
    simp only [operandWords, List.cons_prefix_cons] at hoperands
    have hfield : w.unitField = field % 16 := by
      rw [← UInt8.toNat_inj, OrderWords.toNat_unitField, ← hoperands.1,
        toNat_and_low 4 (by decide), UInt8.toNat_mod]
      simp
    simp [code, narrowed, hfield]
  | selectDma channels channel =>
    simp only [operandWords, List.cons_prefix_cons] at hoperands
    simp [code, narrowed, low_of_toWords h, lowField, hoperands.1]
  | storeStatus address | storeAddress address | interrupt address | jump address =>
    simp only [operandWords, List.cons_prefix_cons] at hoperands
    simp [code, narrowed, hoperands.1]

/-! ## What three words are read as -/

/-- An order that was read has the code of its words. -/
theorem code_of_ofWords {w : OrderWords} {o : Order} (h : ofWords w = .ok o) : w.code = o.code := by
  rw [← UInt8.toNat_inj]
  unfold ofWords at h
  split at h <;> simp only [Except.ok.injEq, reduceCtorEq] at h
  all_goals
    rename_i hcode
    rw [hcode, ← h]
    rfl

/-- The words that are read as no order have one of four codes. -/
theorem code_of_ofWords_error {w : OrderWords} {code : UInt8} (h : ofWords w = .error code) :
    w.code = code ∧ (code = 1 ∨ code = 8 ∨ code = 10 ∨ code = 12) := by
  have hlt : w.code.toNat < 16 := by
    have := w.first.toNat_lt
    rw [OrderWords.toNat_code]
    omega
  unfold ofWords at h
  split at h <;> simp only [Except.error.injEq, reduceCtorEq] at h
  subst h
  refine ⟨rfl, ?_⟩
  simp only [← UInt8.toNat_inj, UInt8.reduceToNat]
  grind

/-- An interrupt order that was read has its vector from the second word. -/
theorem vector_of_ofWords {w : OrderWords} {vector : Word}
    (h : ofWords w = .ok (.interrupt vector)) : w.second = vector := by
  unfold ofWords at h
  split at h <;> simp_all

end Order

end PeripheralBus
