import Mathlib.Algebra.Group.Nat.Defs
import PeripheralBus.Text.Numeral
import PeripheralBus.Text.Octal

/-!
# Numerals

A numeral is read digit by digit, and given up as soon as its value is too large. More digits make
no value smaller, so this is one look at the whole value. Numbers of as many digits are ordered by
their digits, the first one counting most, which is the order of texts.

* `digits_lt_iff`: numbers of two digits.
* `ofDigitChars_lt_iff`: **as many digits are ordered as their values are**.
* `readDigits_eq_ok_iff`, `read_eq_ok_iff`: digits are read when the value of all of them fits.
* `readOctal_eq_ok_iff`: **the octal numerals and their values**.
* `spells_toDigits`, `spells_padded`: a number that was printed spells itself, whatever zeros are in
  front of it.
-/

namespace PeripheralBus.Numeral

/-- **Numbers of two digits are ordered by their digits.** -/
theorem digits_lt_iff {base high high' low low' : ℕ} (hlow : low < base) (hlow' : low' < base) :
    high * base + low < high' * base + low' ↔ high < high' ∨ high = high' ∧ low < low' := by
  rcases Nat.lt_trichotomy high high' with hlt | rfl | hgt
  · -- a greater high digit is worth a whole base, which no low digit reaches
    have hstep : (high + 1) * base ≤ high' * base := Nat.mul_le_mul_right base hlt
    rw [Nat.add_mul, Nat.one_mul] at hstep
    exact iff_of_true (by omega) (.inl hlt)
  · simp
  · have hstep : (high' + 1) * base ≤ high * base := Nat.mul_le_mul_right base hgt
    rw [Nat.add_mul, Nat.one_mul] at hstep
    exact iff_of_false (by omega) (by omega)

/-! ## Digits -/

/-- The character is a digit of a base of at most ten. -/
def IsDigit (base : ℕ) (c : Char) : Prop := '0'.toNat ≤ c.toNat ∧ c.toNat < '0'.toNat + base

instance (base : ℕ) (c : Char) : Decidable (IsDigit base c) :=
  inferInstanceAs (Decidable (_ ∧ _))

variable {base bound : ℕ} {c : Char} {digits digits' : List Char}

theorem digitValue?_of_isDigit (h : IsDigit base c) :
    digitValue? base c = some (c.toNat - '0'.toNat) := if_pos h

theorem digitValue?_of_not_isDigit (h : ¬ IsDigit base c) : digitValue? base c = none := if_neg h

theorem IsDigit.value_lt (h : IsDigit base c) : c.toNat - '0'.toNat < base := by
  have hlow := h.1
  have hhigh := h.2
  omega

/-- A digit of a base of at most ten is one of the ten. -/
theorem IsDigit.isDigit (hbase : base ≤ 10) (h : IsDigit base c) : c.isDigit = true := by
  have hlow := h.1
  have hhigh := h.2
  have hnine : '9'.toNat = '0'.toNat + 9 := rfl
  rw [Char.isDigit_iff_toNat]
  omega

/-- Digits are ordered as characters are. -/
theorem IsDigit.lt_iff {c' : Char} (h : IsDigit base c) (h' : IsDigit base c') :
    c.toNat - '0'.toNat < c'.toNat - '0'.toNat ↔ c < c' := by
  have hlow := h.1
  have hlow' := h'.1
  have hchar : c < c' ↔ c.toNat < c'.toNat := Iff.rfl
  rw [hchar]
  omega

theorem IsDigit.eq_iff {c' : Char} (h : IsDigit base c) (h' : IsDigit base c') :
    c.toNat - '0'.toNat = c'.toNat - '0'.toNat ↔ c = c' := by
  have hlow := h.1
  have hlow' := h'.1
  rw [← Char.toNat_inj]
  omega

/-- A value before digits is moved up by as many places. -/
theorem ofDigitChars_eq (base : ℕ) (digits : List Char) (value : ℕ) :
    Nat.ofDigitChars base digits value =
      value * base ^ digits.length + Nat.ofDigitChars base digits 0 := by
  induction digits generalizing value with
  | nil => simp [Nat.ofDigitChars]
  | cons c digits ih =>
    rw [Nat.ofDigitChars_cons, ih, Nat.ofDigitChars_cons, ih (base * 0 + _), List.length_cons,
      Nat.pow_succ]
    simp only [Nat.add_mul, Nat.mul_zero, Nat.zero_add, Nat.add_assoc]
    rw [Nat.mul_comm base value, Nat.mul_assoc, Nat.mul_comm base]

/-- The first of some digits counts most. -/
theorem ofDigitChars_cons_eq (base : ℕ) (c : Char) (digits : List Char) :
    Nat.ofDigitChars base (c :: digits) 0 =
      (c.toNat - '0'.toNat) * base ^ digits.length + Nat.ofDigitChars base digits 0 := by
  rw [Nat.ofDigitChars_cons, Nat.mul_zero, Nat.zero_add, ofDigitChars_eq]

/-- More digits make no number smaller. -/
theorem le_ofDigitChars (hbase : 0 < base) (digits : List Char) (value : ℕ) :
    value ≤ Nat.ofDigitChars base digits value := by
  have hpower : 0 < base ^ digits.length := Nat.pow_pos hbase
  rw [ofDigitChars_eq]
  exact Nat.le_trans (Nat.le_mul_of_pos_right value hpower) (Nat.le_add_right _ _)

/-- Digits are worth less than a one before them. -/
theorem ofDigitChars_lt_pow (h : ∀ c ∈ digits, IsDigit base c) :
    Nat.ofDigitChars base digits 0 < base ^ digits.length := by
  induction digits with
  | nil => simp [Nat.ofDigitChars]
  | cons c digits ih =>
    obtain ⟨hc, hdigits⟩ := List.forall_mem_cons.1 h
    have hrest := ih hdigits
    have hfirst : (c.toNat - '0'.toNat + 1) * base ^ digits.length ≤
        base * base ^ digits.length := Nat.mul_le_mul_right _ hc.value_lt
    rw [Nat.add_mul, Nat.one_mul] at hfirst
    rw [ofDigitChars_cons_eq, List.length_cons, Nat.pow_succ, Nat.mul_comm (base ^ _)]
    omega

/-- **As many digits are ordered as their values are.** -/
theorem ofDigitChars_lt_iff (hlength : digits.length = digits'.length)
    (h : ∀ c ∈ digits, IsDigit base c) (h' : ∀ c ∈ digits', IsDigit base c) :
    Nat.ofDigitChars base digits 0 < Nat.ofDigitChars base digits' 0 ↔ digits < digits' := by
  induction digits generalizing digits' with
  | nil =>
    obtain rfl := List.length_eq_zero_iff.1 hlength.symm
    simp
  | cons c digits ih =>
    cases digits' with
    | nil => simp at hlength
    | cons c' digits' =>
      obtain ⟨hc, hdigits⟩ := List.forall_mem_cons.1 h
      obtain ⟨hc', hdigits'⟩ := List.forall_mem_cons.1 h'
      have hlength : digits.length = digits'.length := Nat.succ.inj hlength
      rw [ofDigitChars_cons_eq, ofDigitChars_cons_eq, ← hlength, List.cons_lt_cons_iff,
        digits_lt_iff (ofDigitChars_lt_pow hdigits)
          (by rw [hlength]; exact ofDigitChars_lt_pow hdigits'),
        hc.lt_iff hc', hc.eq_iff hc', ih hlength hdigits hdigits']

/-! ## Reading -/

/-- **Digits are read** when the value of all of them is below the bound. -/
theorem readDigits_eq_ok_iff (hbase : 0 < base) {value n : ℕ} (hvalue : value < bound) :
    readDigits base bound value digits = .ok n ↔
      (∀ c ∈ digits, IsDigit base c) ∧ Nat.ofDigitChars base digits value = n ∧ n < bound := by
  induction digits generalizing value with
  | nil =>
    simp only [readDigits, Except.ok.injEq, Nat.ofDigitChars_nil]
    constructor
    · rintro rfl
      exact ⟨by simp, rfl, hvalue⟩
    · exact fun h => h.2.1
  | cons c digits ih =>
    rw [readDigits, List.forall_mem_cons, Nat.ofDigitChars_cons]
    by_cases hc : IsDigit base c
    · simp only [digitValue?_of_isDigit hc, hc, true_and]
      by_cases hstep : base * value + (c.toNat - '0'.toNat) < bound
      · rw [if_pos hstep, ih hstep]
      · -- the value so far is too large, and so is that of all digits
        have hgrows := le_ofDigitChars hbase digits (base * value + (c.toNat - '0'.toNat))
        rw [if_neg hstep]
        refine iff_of_false (by simp) ?_
        rintro ⟨-, rfl, hn⟩
        omega
    · simp [digitValue?_of_not_isDigit hc, hc]

/-- These are digits, one or more, of this value. -/
structure Spells (base : ℕ) (digits : List Char) (n : ℕ) : Prop where
  ne_nil : digits ≠ []
  isDigit : ∀ c ∈ digits, IsDigit base c
  value : Nat.ofDigitChars base digits 0 = n

/-- What begins with digits begins with no sign. -/
theorem Spells.head_ne {n : ℕ} (h : Spells base (c :: digits) n) {mark : Char}
    (hmark : mark.toNat < '0'.toNat) : c ≠ mark := by
  rintro rfl
  have hdigit := (h.isDigit c List.mem_cons_self).1
  omega

theorem readDigits_eq_ok_iff_spells (hbase : 0 < base) (hbound : 0 < bound) {n : ℕ}
    (hdigits : digits ≠ []) :
    readDigits base bound 0 digits = .ok n ↔ Spells base digits n ∧ n < bound := by
  rw [readDigits_eq_ok_iff hbase hbound]
  constructor
  · rintro ⟨hall, hvalue, hn⟩
    exact ⟨⟨hdigits, hall, hvalue⟩, hn⟩
  · rintro ⟨h, hn⟩
    exact ⟨h.isDigit, h.value, hn⟩

/-- What can stand before the digits of a numeral: a plus sign or nothing. -/
def signs : List (List Char) := [[], ['+']]

/-- **A numeral is read** when it is a sign and digits, and their value fits. -/
theorem read_eq_ok_iff (hbase : 0 < base) (hbound : 0 < bound) {text : List Char} {n : ℕ} :
    read base bound text = .ok n ↔
      ∃ sign ∈ signs, ∃ digits, text = sign ++ digits ∧ Spells base digits n ∧ n < bound := by
  simp only [signs, List.mem_cons, List.not_mem_nil, or_false, exists_eq_or_imp, exists_eq_left,
    List.nil_append, List.singleton_append, exists_eq_left']
  unfold read
  split
  · refine iff_of_false (by simp) ?_
    rintro (⟨h, -⟩ | ⟨digits, h, -⟩)
    · exact h.ne_nil rfl
    · cases h
  · refine iff_of_false (by simp) ?_
    rintro (⟨h, -⟩ | ⟨digits, h, hdigits, -⟩)
    · exact h.head_ne (by decide) rfl
    · obtain rfl := (List.cons.inj h).2
      exact hdigits.ne_nil rfl
  · rename_i digits hne
    have hdigits : digits ≠ [] := fun h => hne (by rw [h])
    rw [readDigits_eq_ok_iff_spells hbase hbound hdigits]
    constructor
    · exact fun h => .inr ⟨digits, rfl, h⟩
    · rintro (⟨h, -⟩ | ⟨digits', h, hspells⟩)
      · exact absurd rfl (h.head_ne (by decide))
      · rwa [(List.cons.inj h).2]
  · rename_i hnil _ hplus
    rw [readDigits_eq_ok_iff_spells hbase hbound hnil]
    constructor
    · exact .inl
    · rintro (h | ⟨digits, rfl, -⟩)
      · exact h
      · exact absurd rfl (hplus digits)

/-- What can stand before the digits of an octal numeral: a sign, behind an apostrophe or not. -/
def fronts : List (List Char) := signs ++ signs.map ('\x27' :: ·)

theorem mem_fronts {front : List Char} :
    front ∈ fronts ↔ front ∈ signs ∨ ∃ sign ∈ signs, front = '\x27' :: sign := by
  simp only [fronts, List.mem_append, List.mem_map, eq_comm]

/-- A sign and digits do not begin with an apostrophe. -/
theorem Spells.ne_apostrophe {sign rest : List Char} {n : ℕ} (hsign : sign ∈ signs)
    (h : Spells base digits n) : sign ++ digits ≠ '\x27' :: rest := by
  simp only [signs, List.mem_cons, List.not_mem_nil, or_false] at hsign
  rcases hsign with rfl | rfl
  · rintro rfl
    exact h.head_ne (by decide) rfl
  · simp

/-- **The octal numerals**: digits behind one of the fronts, of a value that fits. -/
theorem readOctal_eq_ok_iff (hbound : 0 < bound) {text : List Char} {n : ℕ} :
    readOctal bound text = .ok n ↔
      ∃ front ∈ fronts, ∃ digits, text = front ++ digits ∧ Spells 8 digits n ∧ n < bound := by
  unfold readOctal
  split
  · rename_i rest
    rw [read_eq_ok_iff (by decide) hbound]
    constructor
    · rintro ⟨sign, hsign, digits, rfl, h⟩
      exact ⟨_, mem_fronts.2 (.inr ⟨sign, hsign, rfl⟩), digits, rfl, h⟩
    · rintro ⟨front, hfront, digits, h, hspells, hn⟩
      rcases mem_fronts.1 hfront with hsign | ⟨sign, hsign, rfl⟩
      · exact absurd h.symm (hspells.ne_apostrophe hsign)
      · exact ⟨sign, hsign, digits, (List.cons.inj h).2, hspells, hn⟩
  · rename_i hne
    rw [read_eq_ok_iff (by decide) hbound]
    constructor
    · rintro ⟨sign, hsign, h⟩
      exact ⟨sign, mem_fronts.2 (.inl hsign), h⟩
    · rintro ⟨front, hfront, digits, rfl, h⟩
      rcases mem_fronts.1 hfront with hsign | ⟨sign, hsign, rfl⟩
      · exact ⟨front, hsign, digits, rfl, h⟩
      · exact (hne _ rfl).elim

/-! ## Printing -/

/-- A number is printed with digits of the base. -/
theorem isDigit_of_mem_toDigits {n : ℕ} (hbase : 1 < base) (hten : base ≤ 10)
    (h : c ∈ Nat.toDigits base n) : IsDigit base c := by
  have hdigit : ∀ d < base, IsDigit base (Nat.digitChar d) := by
    intro d hd
    have hchar := Nat.toNat_digitChar_of_lt_ten (show d < 10 by omega)
    have hzero : '0'.toNat = 48 := rfl
    unfold IsDigit
    omega
  induction n using Nat.strongRecOn with
  | ind n ih =>
    rcases Nat.lt_or_ge n base with hn | hn
    · rw [Nat.toDigits_of_lt_base hn, List.mem_singleton] at h
      rw [h]
      exact hdigit n hn
    · rw [Nat.toDigits_of_base_le hbase hn, List.mem_append, List.mem_singleton] at h
      rcases h with hrest | rfl
      · exact ih (n / base) (Nat.div_lt_self (by omega) hbase) hrest
      · exact hdigit _ (Nat.mod_lt n (by omega))

/-- **A printed number spells itself**, whatever zeros are in front of it. -/
theorem spells_toDigits {n : ℕ} (hbase : 1 < base) (hten : base ≤ 10) (zeros : ℕ) :
    Spells base (List.replicate zeros '0' ++ Nat.toDigits base n) n where
  ne_nil := by
    intro h
    exact Nat.toDigits_ne_nil (List.append_eq_nil_iff.1 h).2
  isDigit := by
    intro c hc
    rcases List.mem_append.1 hc with hzero | hdigit
    · obtain rfl := List.eq_of_mem_replicate hzero
      exact ⟨Nat.le_refl _, by omega⟩
    · exact isDigit_of_mem_toDigits hbase hten hdigit
  value := by
    rw [Nat.ofDigitChars_append, Nat.ofDigitChars_replicate_zero, Nat.mul_zero,
      Nat.ofDigitChars_toDigits hbase hten]

theorem spells_padded (width n : ℕ) : Spells 8 (Octal.padded width n).toList n := by
  rw [Octal.padded, String.toList_ofList]
  exact spells_toDigits (by decide) (by decide) _

end PeripheralBus.Numeral
