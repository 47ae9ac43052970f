import PeripheralBus.Proofs.Channel.Codec

/-!
# Writing words back

Three words are read as an order, and the order is written as words again. What comes back are the
words that were read, with the bits cleared that the order has no field for. Together with
`Order.ofWords_of_toWords` this makes orders and their words two forms of one thing.

* `bits`, `toNat_and_bits`: the bits of a range, as a mask and as arithmetic.
* `Order.layout`: **the fields of an order** as masks, one for each of its words.
* `fits_of_ofWords`: an order that was read has every field in range.
* `toWords_of_ofWords`: writing an order that was read clears the bits outside its fields.
* `codec_roundTrip`: both directions.
-/

namespace PeripheralBus

/-- The bits from `high` down to `low`. -/
def bits (high low : ℕ) : Word := UInt16.ofNat ((2 ^ (high + 1 - low) - 1) * 2 ^ low)

/-- A mask of a range takes a quotient and a remainder, and leaves them where they are. -/
theorem toNat_and_bits (w : Word) {high low : ℕ} (hlow : low ≤ high) (hhigh : high < 16) :
    (w &&& bits high low).toNat = w.toNat / 2 ^ low % 2 ^ (high + 1 - low) * 2 ^ low := by
  have hfits : (2 ^ (high + 1 - low) - 1) * 2 ^ low < 65536 := by
    calc (2 ^ (high + 1 - low) - 1) * 2 ^ low
        < 2 ^ (high + 1 - low) * 2 ^ low :=
          Nat.mul_lt_mul_of_pos_right (Nat.sub_lt (Nat.two_pow_pos _) Nat.one_pos)
            (Nat.two_pow_pos _)
      _ = 2 ^ (high + 1) := by rw [← Nat.pow_add, Nat.sub_add_cancel (by omega)]
      _ ≤ 2 ^ 16 := Nat.pow_le_pow_right (by decide) (by omega)
  rw [bits, UInt16.toNat_and, UInt16.toNat_ofNat_of_lt' hfits]
  -- bit by bit; below the range both sides have none
  apply Nat.eq_of_testBit_eq
  intro i
  simp only [Nat.testBit_and, Nat.testBit_mul_two_pow, Nat.testBit_two_pow_sub_one,
    Nat.testBit_mod_two_pow, Nat.testBit_div_two_pow]
  by_cases hi : low ≤ i
  · simp [hi, Bool.and_comm, Nat.sub_add_cancel hi]
  · simp [hi]

/-- A mask of a range and bits below it takes the two parts. -/
theorem toNat_and_bits_or (w : Word) {high low : ℕ} {below : Word} (hlow : low ≤ high)
    (hhigh : high < 16) (hbelow : below.toNat < 2 ^ low) :
    (w &&& (bits high low ||| below)).toNat =
      w.toNat / 2 ^ low % 2 ^ (high + 1 - low) * 2 ^ low + (w &&& below).toNat := by
  have hpart : (w &&& below).toNat < 2 ^ low := by
    rw [UInt16.toNat_and]
    exact Nat.lt_of_le_of_lt Nat.and_le_right hbelow
  have hrange := toNat_and_bits w hlow hhigh
  rw [UInt16.toNat_and, UInt16.toNat_or, Nat.and_or_distrib_left, ← UInt16.toNat_and,
    ← UInt16.toNat_and, hrange, Nat.or_comm,
    or_high low _ hpart (Nat.mul_comm _ _), Nat.add_comm]

/-- What a single bit adds to a word. -/
theorem ite_eq_bit {b : Bool} {n k : ℕ} (value : ℕ) (h : b = true ↔ n / k % 2 = 1) :
    (if b then value else 0) = n / k % 2 * value := by
  by_cases hb : b = true
  · rw [if_pos hb, h.1 hb, Nat.one_mul]
  · have hzero : n / k % 2 = 0 := by have := mt h.2 hb; omega
    rw [if_neg hb, hzero, Nat.zero_mul]

namespace OrderWords

variable (w : OrderWords)

/-! ## Fields back in their places -/

/-- Code and flag are back in the five high bits of the first word. -/
theorem firstWord_eq {o : Order} (hcode : w.code = o.code) (hlow : o.lowField = 0) :
    o.firstWord w.flagged = w.first &&& bits 15 11 := by
  have hfirst := w.first.toNat_lt
  rw [← UInt16.toNat_inj, Order.toNat_firstWord, ← hcode, hlow, toNat_code,
    ite_eq_bit 2048 w.flagged_iff, toNat_and_bits _ (by decide) (by decide)]
  simp
  omega

/-- With a small number, that one is back in the four low bits. -/
theorem firstWord_eq_of_low {o : Order} (hcode : w.code = o.code) (hlow : o.lowField = w.low) :
    o.firstWord w.flagged = w.first &&& (bits 15 11 ||| bits 3 0) := by
  have hfirst := w.first.toNat_lt
  rw [← UInt16.toNat_inj, Order.toNat_firstWord, ← hcode, hlow, toNat_code, toNat_low,
    ite_eq_bit 2048 w.flagged_iff, toNat_and_bits_or _ (by decide) (by decide) (by decide),
    toNat_and_bits _ (by decide) (by decide)]
  simp
  omega

theorem track_eq : w.track &&& trackMask = w.second &&& bits 9 0 := by
  rw [← UInt16.toNat_inj, toNat_and_low 10 (by decide), toNat_track,
    toNat_and_bits _ (by decide) (by decide)]
  simp

theorem seekWord_eq :
    (w.track &&& trackMask) ||| (if w.restore then restoreBit else 0) |||
        (if w.clear then clearBit else 0) =
      w.second &&& (bits 15 14 ||| bits 9 0) := by
  have hsecond := w.second.toNat_lt
  rw [← UInt16.toNat_inj, Order.toNat_seekWord, toNat_track, ite_eq_bit 32768 w.restore_iff,
    ite_eq_bit 16384 w.clear_iff, toNat_and_bits_or _ (by decide) (by decide) (by decide),
    toNat_and_bits _ (by decide) (by decide)]
  simp
  omega

theorem unitField_eq : w.unitField.toUInt16 &&& lowMask = w.second &&& bits 3 0 := by
  rw [← UInt16.toNat_inj, toNat_and_low 4 (by decide), UInt8.toNat_toUInt16, toNat_unitField,
    toNat_and_bits _ (by decide) (by decide)]
  simp

theorem operandWords_sector :
    (Sector.ofWords w).operandWords =
      [w.second &&& bits 9 0, w.third &&& (bits 15 8 ||| bits 5 0)] := by
  have hthird : (w.record.toUInt16 <<< 8) ||| (w.head.toUInt16 &&& headMask) =
      w.third &&& (bits 15 8 ||| bits 5 0) := by
    have hlt := w.third.toNat_lt
    rw [← UInt16.toNat_inj, Order.toNat_sectorWord, toNat_record, toNat_head,
      toNat_and_bits_or _ (by decide) (by decide) (by decide),
      toNat_and_bits _ (by decide) (by decide)]
    simp
    omega
  rw [Sector.ofWords, Sector.operandWords, track_eq, hthird]

theorem whole_eq : w.second = w.second &&& bits 15 0 := by
  have hsecond := w.second.toNat_lt
  rw [← UInt16.toNat_inj, toNat_and_bits _ (by decide) (by decide)]
  simp

end OrderWords

namespace Order

/-- **The fields of an order**, as the bits of each of its words that mean something. Code and flag
are in bits 15 to 11 of the first word. -/
def layout : Order → List Word
  | .halt | .stall => [bits 15 11, 0]
  | .format _ | .read _ | .write _ =>
    [bits 15 11 ||| bits 3 0, bits 9 0, bits 15 8 ||| bits 5 0]
  | .seek .. => [bits 15 11, bits 15 14 ||| bits 9 0]
  | .selectUnit _ => [bits 15 11, bits 3 0]
  | .storeStatus _ | .storeAddress _ | .interrupt _ | .jump _ => [bits 15 11, bits 15 0]
  | .selectDma .. => [bits 15 11 ||| bits 3 0, bits 15 0]

/-! ## What was read -/

theorem sector_fits (w : OrderWords) : (Sector.ofWords w).Fits := by
  refine ⟨UInt8.lt_iff_toNat_lt.2 ?_, UInt16.lt_iff_toNat_lt.2 ?_, UInt8.lt_iff_toNat_lt.2 ?_⟩
  · rw [Sector.ofWords, OrderWords.toNat_low]
    exact Nat.mod_lt _ (by decide)
  · rw [Sector.ofWords, OrderWords.toNat_track]
    exact Nat.mod_lt _ (by decide)
  · rw [Sector.ofWords, OrderWords.toNat_head]
    exact Nat.mod_lt _ (by decide)

theorem unitField_lt (w : OrderWords) : w.unitField < 16 := by
  rw [UInt8.lt_iff_toNat_lt, OrderWords.toNat_unitField]
  exact Nat.mod_lt _ (by decide)

/-- **An order that was read has every field in range.** -/
theorem fits_of_ofWords {w : OrderWords} {o : Order} (h : ofWords w = .ok o) : o.Fits := by
  have hcode := code_of_ofWords h
  have hsector := sector_fits w
  cases o with
  | format s | read s | write s =>
    obtain rfl : Sector.ofWords w = s := by simpa [ofWords, hcode, code] using h
    exact hsector
  | seek track restore clear =>
    obtain ⟨rfl, -⟩ : w.track = track ∧ _ := by simpa [ofWords, hcode, code] using h
    exact hsector.2.1
  | selectUnit field =>
    obtain rfl : w.unitField = field := by simpa [ofWords, hcode, code] using h
    exact unitField_lt w
  | selectDma channels channel =>
    obtain ⟨rfl, -⟩ : w.low = channels ∧ _ := by simpa [ofWords, hcode, code] using h
    exact hsector.1
  | _ => trivial

/-- **Writing an order that was read** gives the words back, without the bits outside its fields. -/
theorem toWords_of_ofWords {w : OrderWords} {o : Order} (h : ofWords w = .ok o) :
    o.toWords w.flagged = List.zipWith (· &&& ·) w.toList o.layout := by
  have hcode := code_of_ofWords h
  cases o with
  | format s | read s | write s =>
    obtain rfl : Sector.ofWords w = s := by simpa [ofWords, hcode, code] using h
    simp [toWords, w.firstWord_eq_of_low hcode rfl, operandWords, w.operandWords_sector, layout,
      OrderWords.toList]
  | seek track restore clear =>
    obtain ⟨rfl, rfl, rfl⟩ : w.track = track ∧ w.restore = restore ∧ w.clear = clear := by
      simpa [ofWords, hcode, code] using h
    simp [toWords, w.firstWord_eq hcode rfl, operandWords, w.seekWord_eq, layout,
      OrderWords.toList]
  | selectUnit field =>
    obtain rfl : w.unitField = field := by simpa [ofWords, hcode, code] using h
    simp [toWords, w.firstWord_eq hcode rfl, operandWords, w.unitField_eq, layout,
      OrderWords.toList]
  | selectDma channels channel =>
    obtain ⟨rfl, rfl⟩ : w.low = channels ∧ w.second = channel := by
      simpa [ofWords, hcode, code] using h
    simp [toWords, w.firstWord_eq_of_low hcode rfl, operandWords, ← w.whole_eq, layout,
      OrderWords.toList]
  | storeStatus operand | storeAddress operand | interrupt operand | jump operand =>
    obtain rfl : w.second = operand := by simpa [ofWords, hcode, code] using h
    simp [toWords, w.firstWord_eq hcode rfl, operandWords, ← w.whole_eq, layout,
      OrderWords.toList]
  | halt | stall =>
    simp [toWords, w.firstWord_eq hcode rfl, operandWords, layout, OrderWords.toList]

/-- **Which words are read as no order**: those with one of four codes. -/
theorem ofWords_eq_error_iff {w : OrderWords} {code : UInt8} :
    ofWords w = .error code ↔
      w.code = code ∧ (code = 1 ∨ code = 8 ∨ code = 10 ∨ code = 12) := by
  refine ⟨code_of_ofWords_error, ?_⟩
  rintro ⟨rfl, h | h | h | h⟩ <;> rw [ofWords, h] <;> rfl

/-- **Orders and words are two forms of one thing.** An order is written as many words as its code
asks for, with its code and the flag in the first of them. Three words that start with these are
read as the order, its fields cut to their widths, which is the order itself if they have room.
Three words are read as no order exactly when they have one of four codes. The order that others are
read as has every field in range, and written again it gives the words back, with exactly the bits
cleared that lie outside its fields. -/
theorem codec_roundTrip :
    (∀ (o : Order) (executeIf : Bool),
      (o.toWords executeIf).length = o.size.toNat ∧
      ∀ w : OrderWords, o.toWords executeIf <+: w.toList →
        w.code = o.code ∧ w.flagged = executeIf ∧ ofWords w = .ok o.narrowed ∧
          (o.Fits → ofWords w = .ok o)) ∧
    (∀ w : OrderWords,
      (∀ code, ofWords w = .error code ↔
        w.code = code ∧ (code = 1 ∨ code = 8 ∨ code = 10 ∨ code = 12)) ∧
      ∀ o, ofWords w = .ok o →
        o.Fits ∧ o.toWords w.flagged = List.zipWith (· &&& ·) w.toList o.layout) := by
  refine ⟨?_, ?_⟩
  · intro o executeIf
    refine ⟨length_toWords o executeIf, ?_⟩
    intro w hwords
    obtain ⟨hcode, hflag⟩ := code_of_toWords hwords
    have hread := ofWords_of_toWords hwords
    refine ⟨hcode, hflag, hread, ?_⟩
    intro hfits
    rw [hread, narrowed_of_fits hfits]
  · intro w
    refine ⟨fun code => ofWords_eq_error_iff, ?_⟩
    intro o ho
    exact ⟨fits_of_ofWords ho, toWords_of_ofWords ho⟩

/-- A read order with every bit set, flagged or not. -/
theorem codec_roundTrip_allBits :
    ofWords ⟨0o057777, 0o177777, 0o177777⟩ = .ok (.read ⟨15, 1023, 63, 255⟩) ∧
      Order.toWords (.read ⟨15, 1023, 63, 255⟩) true = [0o054017, 0o1777, 0o177477] ∧
      ofWords ⟨0o054017, 0o1777, 0o177477⟩ = .ok (Order.read ⟨255, 65535, 255, 255⟩).narrowed := by
  have hread : ofWords ⟨0o057777, 0o177777, 0o177777⟩ = .ok (.read ⟨15, 1023, 63, 255⟩) := by
    decide
  have hback := ((codec_roundTrip.2 _).2 _ hread).2
  have hwords : Order.toWords (.read ⟨255, 65535, 255, 255⟩) true <+:
      OrderWords.toList ⟨0o054017, 0o1777, 0o177477⟩ := by
    decide
  exact ⟨hread, hback, ((codec_roundTrip.1 _ true).2 _ hwords).2.2.1⟩

end Order

end PeripheralBus
