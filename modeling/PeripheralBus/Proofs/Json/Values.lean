import PeripheralBus.Json.Read
import PeripheralBus.Proofs.Json.Strings
import PeripheralBus.Proofs.Text.Numeral

/-!
# Printed values are read back

A reader is given all bytes that remain, so it finds a printed value in front of others. Strings and
objects end by themselves. A number ends where no more digits come, and a printed value is followed
by a comma or a closing brace, if by anything.

* `Follows`: what comes behind a printed value.
* `ReadsBack`: **a reader reads a text back** as a value.
* `readsBack_unsigned`, `readsBack_string`: numbers and strings.
* `Takes`, `TakesAll`: what the members of an object make of a state.
* `readMembers_members`: the members of a printed object are read one after the other.
* `complete_bytes`: a value that makes up a whole text.
-/

namespace PeripheralBus.Json

/-- What comes behind a printed value. -/
inductive Follows : Bytes → Prop where
  | nothing : Follows []
  | comma (s : Bytes) : Follows (byte ',' :: s)
  | brace (s : Bytes) : Follows (byte '\x7d' :: s)

/-- **A reader reads a text back** as a value, and leaves what comes behind it. -/
def ReadsBack {α : Type} (reader : Bytes → Except Failure (α × Bytes)) (text : String) (value : α) :
    Prop :=
  ∀ rest, Follows rest → reader (bytes text ++ rest) = .ok (value, rest)

/-- Nothing printed begins with a blank. -/
theorem skipBlanks_cons {b : UInt8} (h : isBlank b = false) (s : Bytes) :
    skipBlanks (b :: s) = b :: s := by
  rw [skipBlanks, List.dropWhile_cons_of_neg (by simp [h])]

/-! ## Numbers -/

/-- What comes behind a number is no part of it. -/
theorem Follows.scanDigits {rest : Bytes} (h : Follows rest) (value count : ℕ) :
    scanDigits value count rest = (value, count, rest) := by
  have hcomma : isDigit (byte ',') = false := rfl
  have hbrace : isDigit (byte '\x7d') = false := rfl
  cases h <;> simp [Json.scanDigits, hcomma, hbrace]

theorem Follows.skipDigits {rest : Bytes} (h : Follows rest) : skipDigits rest = (0, rest) := by
  cases h <;> rfl

theorem Follows.scanAfterInteger {rest : Bytes} (h : Follows rest) (n : ℕ) :
    scanAfterInteger false n rest = .ok (.unsigned n, rest) := by
  cases h <;> rfl

/-- The first digit of a positive number is not zero. -/
theorem head?_toDigits_ne {n : ℕ} (h : 0 < n) : (Nat.toDigits 10 n).head? ≠ some '0' := by
  induction n using Nat.strongRecOn with
  | ind n ih =>
    by_cases hn : n < 10
    · have hall : ∀ d < 10, 0 < d → [Nat.digitChar d].head? ≠ some '0' := by decide
      rw [Nat.toDigits_of_lt_base hn]
      exact hall n hn h
    · rw [Nat.toDigits_of_base_le (by decide) (Nat.le_of_not_lt hn),
        List.head?_append_of_ne_nil _ Nat.toDigits_ne_nil]
      exact ih (n / 10) (by omega) (by omega)

theorem lt_of_isDigit {c : Char} (h : c.isDigit) : c.toNat < 0x80 :=
  Nat.lt_of_le_of_lt (Char.isDigit_iff_toNat.1 h).2 (by decide)

/-- A digit is one byte, which is read as that digit. -/
theorem encode_digit {c : Char} (h : c.isDigit) :
    String.utf8EncodeChar c = [byte c] ∧ isDigit (byte c) = true ∧
      (byte c).toNat - 48 = c.toNat - '0'.toNat := by
  have hascii : c.toNat < 0x80 := lt_of_isDigit h
  refine ⟨encode_of_lt hascii, ?_, ?_⟩
  · rw [isDigit, Bool.and_eq_true, decide_eq_true_iff, decide_eq_true_iff, UInt8.le_iff_toNat_le,
      UInt8.le_iff_toNat_le, toNat_byte hascii]
    exact Char.isDigit_iff_toNat.1 h
  · rw [toNat_byte hascii]
    rfl

/-- **Digits are taken** one after the other while the number fits. -/
theorem scanDigits_encoded {l : List Char} {value : ℕ} (count : ℕ) {rest : Bytes}
    (hl : ∀ c ∈ l, c.isDigit) (hrest : Follows rest) (hfits : Nat.ofDigitChars 10 l value ≤ largest) :
    scanDigits value count (encoded l ++ rest) =
      (Nat.ofDigitChars 10 l value, count + l.length, rest) := by
  -- the number so far only grows, so every digit fits because the last one does
  induction l generalizing value count with
  | nil => exact hrest.scanDigits value count
  | cons c l ih =>
    obtain ⟨hc, hl⟩ := List.forall_mem_cons.1 hl
    obtain ⟨hencode, hdigit, hbyte⟩ := encode_digit hc
    rw [Nat.ofDigitChars_cons, Nat.mul_comm] at hfits ⊢
    have hstep : value * 10 + (c.toNat - '0'.toNat) ≤ largest :=
      Nat.le_trans (Numeral.le_ofDigitChars (by decide) l _) hfits
    rw [encoded_cons, hencode, List.append_assoc, List.singleton_append, scanDigits, hbyte,
      if_pos ⟨hdigit, hstep⟩, ih (count + 1) hl hfits, List.length_cons]
    simp only [Nat.add_assoc, Nat.add_comm 1]

/-- A number is printed as digits, one at least. -/
theorem exists_digits (n : ℕ) :
    ∃ c l, Nat.toDigits 10 n = c :: l ∧ c.isDigit ∧ ∀ d ∈ l, d.isDigit := by
  obtain ⟨c, l, hdigits⟩ := List.exists_cons_of_ne_nil (Nat.toDigits_ne_nil (n := n) (b := 10))
  have hall : ∀ d ∈ c :: l, d.isDigit := by
    intro d hd
    rw [← hdigits] at hd
    exact Nat.isDigit_of_mem_toDigits (by decide) (by decide) hd
  exact ⟨c, l, hdigits, List.forall_mem_cons.1 hall⟩

/-- **A printed number is scanned back.** -/
theorem scanNumber_toDigits {n : ℕ} {rest : Bytes} (hn : n ≤ largest) (hrest : Follows rest) :
    scanNumber false (encoded (Nat.toDigits 10 n) ++ rest) = .ok (.unsigned n, rest) := by
  by_cases hzero : n = 0
  · subst hzero
    cases hrest <;> rfl
  · obtain ⟨c, l, hdigits, hc, hl⟩ := exists_digits n
    obtain ⟨hencode, hdigit, hbyte⟩ := encode_digit hc
    -- a leading zero would be refused
    have hne : byte c ≠ byte '0' := by
      apply byte_ne (lt_of_isDigit hc) (by decide)
      rintro rfl
      exact head?_toDigits_ne (Nat.pos_of_ne_zero hzero) (by rw [hdigits]; rfl)
    have hvalue : Nat.ofDigitChars 10 l (c.toNat - '0'.toNat) = n := by
      have h := Nat.ofDigitChars_ten_toDigits (n := n)
      rw [hdigits, Nat.ofDigitChars_cons, Nat.mul_zero, Nat.zero_add] at h
      exact h
    have hscan := scanDigits_encoded 1 hl hrest (Nat.le_trans (Nat.le_of_eq hvalue) hn)
    rw [hdigits, encoded_cons, hencode, List.append_assoc, List.singleton_append]
    unfold scanNumber
    simp only [if_neg hne, if_pos hdigit, hbyte, hscan, hvalue, hrest.skipDigits,
      hrest.scanAfterInteger]

theorem ne_of_isDigit {b : UInt8} (hb : isDigit b = true) {a : UInt8} (ha : isDigit a = false) :
    b ≠ a := by
  rintro rfl
  rw [hb] at ha
  cases ha

theorem isBlank_of_isDigit {b : UInt8} (h : isDigit b = true) : isBlank b = false := by
  have hspace : b ≠ 32 := ne_of_isDigit h rfl
  have hline : b ≠ 10 := ne_of_isDigit h rfl
  have htab : b ≠ 9 := ne_of_isDigit h rfl
  have hreturn : b ≠ 13 := ne_of_isDigit h rfl
  simp [isBlank, hspace, hline, htab, hreturn]

/-- **A printed number is read back**, if it is within the bound. -/
theorem readsBack_unsigned {bound n : ℕ} (expected : String) (hn : n < bound)
    (hbound : bound ≤ UInt64.size) : ReadsBack (readUnsigned bound expected) (toString n) n := by
  intro rest hrest
  have hlargest : n ≤ largest := by
    rw [largest]
    omega
  have hscan := scanNumber_toDigits hlargest hrest
  obtain ⟨c, l, hdigits, hc, -⟩ := exists_digits n
  obtain ⟨hencode, hdigit, -⟩ := encode_digit hc
  have hminus : byte c ≠ byte '-' := ne_of_isDigit hdigit rfl
  rw [hdigits, encoded_cons, hencode, List.append_assoc, List.singleton_append] at hscan
  rw [Nat.toString_eq_ofList_toDigits, bytes_ofList, hdigits, encoded_cons, hencode,
    List.append_assoc, List.singleton_append, readUnsigned,
    skipBlanks_cons (isBlank_of_isDigit hdigit)]
  simp only [if_neg hminus, hdigit, if_true, hscan, unsignedOf, if_pos hn]

/-! ## Strings -/

/-- **A printed string is read back.** -/
theorem readsBack_string (expected text : String) :
    ReadsBack (readText expected) (string text) text := by
  intro rest _
  rw [bytes_string, List.cons_append, List.append_assoc, List.singleton_append, readText,
    skipBlanks_cons rfl]
  simp only [if_true, scanString_quoted]

/-! ## Objects -/

/-- One member of a printed object. -/
def memberBytes (m : String × String) : Bytes :=
  byte '"' :: (quoted m.1 ++ byte '"' :: byte ':' :: bytes m.2)

/-- The members of a printed object after the first. -/
def othersBytes (members : List (String × String)) : Bytes :=
  members.flatMap fun m => byte ',' :: memberBytes m

/-- The members of a printed object. -/
def membersBytes : List (String × String) → Bytes
  | [] => []
  | m :: rest => memberBytes m ++ othersBytes rest

theorem bytes_member (m : String × String) : bytes (string m.1 ++ ":" ++ m.2) = memberBytes m := by
  have hcolon : bytes ":" = [byte ':'] := rfl
  rw [bytes_append, bytes_append, bytes_string, hcolon, memberBytes]
  simp

theorem bytes_intercalate (members : List (String × String)) :
    bytes (",".intercalate (members.map fun m => string m.1 ++ ":" ++ m.2)) =
      membersBytes members := by
  have hcomma : bytes "," = [byte ','] := rfl
  induction members with
  | nil => rfl
  | cons m rest ih =>
    cases rest with
    | nil =>
      rw [List.map_singleton, String.intercalate_singleton, bytes_member]
      simp [membersBytes, othersBytes]
    | cons next rest =>
      rw [List.map_cons] at ih ⊢
      rw [List.map_cons, String.intercalate_cons_cons, bytes_append, bytes_append, bytes_member,
        hcomma, ih]
      simp [membersBytes, othersBytes]

theorem bytes_object (members : List (String × String)) :
    bytes (object members) = byte '\x7b' :: (membersBytes members ++ [byte '\x7d']) := by
  have hopen : bytes "\x7b" = [byte '\x7b'] := rfl
  have hclose : bytes "\x7d" = [byte '\x7d'] := rfl
  rw [object, bytes_append, bytes_append, bytes_intercalate, hopen, hclose]
  rfl

section

variable {α : Type} {member : α → String → Bytes → Except Failure (α × Bytes)}

/-- **What a printed member makes of a state.** -/
def Takes (member : α → String → Bytes → Except Failure (α × Bytes)) (state : α)
    (key text : String) (next : α) : Prop :=
  ∀ rest, Follows rest → member state key (byte ':' :: (bytes text ++ rest)) = .ok (next, rest)

/-- What printed members make of a state, one after the other. -/
inductive TakesAll (member : α → String → Bytes → Except Failure (α × Bytes)) :
    α → List (String × String) → α → Prop where
  | nil (state : α) : TakesAll member state [] state
  | cons {state last : α} {key text : String} {rest : List (String × String)} (next : α)
      (first : Takes member state key text next) (others : TakesAll member next rest last) :
      TakesAll member state ((key, text) :: rest) last

/-- The key of a printed member is read. -/
theorem readKey_member (m : String × String) (rest : Bytes) :
    readKey (memberBytes m ++ rest) = .ok (m.1, byte ':' :: (bytes m.2 ++ rest)) := by
  rw [memberBytes, List.cons_append, List.append_assoc, readKey, if_pos rfl, List.cons_append,
    List.cons_append, scanString_quoted]

/-- The first member of an object is read. -/
theorem readMembersWithin_first {state next : α} {key text : String}
    (h : Takes member state key text next) {rest : Bytes} (hrest : Follows rest) (fuel : ℕ) :
    readMembersWithin member (fuel + 1) true state (memberBytes (key, text) ++ rest) =
      readMembersWithin member fuel false next rest := by
  have hkey := readKey_member (key, text) rest
  have hhead : memberBytes (key, text) ++ rest =
      byte '"' :: (quoted key ++ byte '"' :: byte ':' :: bytes text ++ rest) := rfl
  rw [hhead] at hkey ⊢
  rw [readMembersWithin, skipBlanks_cons rfl]
  simp only [if_neg (show byte '"' ≠ byte '\x7d' by decide), if_true, hkey, h rest hrest]

/-- Any other member is read behind a comma. -/
theorem readMembersWithin_next {state next : α} {key text : String}
    (h : Takes member state key text next) {rest : Bytes} (hrest : Follows rest) (fuel : ℕ) :
    readMembersWithin member (fuel + 1) false state
        (byte ',' :: (memberBytes (key, text) ++ rest)) =
      readMembersWithin member fuel false next rest := by
  have hblanks : skipBlanks (memberBytes (key, text) ++ rest) = memberBytes (key, text) ++ rest :=
    skipBlanks_cons rfl _
  rw [readMembersWithin, skipBlanks_cons rfl]
  simp only [if_neg (show byte ',' ≠ byte '\x7d' by decide), Bool.false_eq_true, if_false, if_true,
    hblanks, readKey_member, h rest hrest]

/-- Behind a member stands the comma of the next one, or the closing brace. -/
theorem follows_others (members : List (String × String)) (rest : Bytes) :
    Follows (othersBytes members ++ byte '\x7d' :: rest) := by
  cases members with
  | nil => exact .brace rest
  | cons => exact .comma _

theorem length_le_others (members : List (String × String)) :
    members.length ≤ (othersBytes members).length := by
  induction members with
  | nil => exact Nat.le_refl _
  | cons m members ih =>
    rw [othersBytes, List.flatMap_cons, ← othersBytes, List.length_append, List.length_cons,
      List.length_cons]
    omega

/-- The members of an object after the first are read, up to the closing brace. -/
theorem readMembersWithin_others {state last : α} {members : List (String × String)}
    (h : TakesAll member state members last) (rest : Bytes) {fuel : ℕ}
    (hfuel : members.length < fuel) :
    readMembersWithin member fuel false state (othersBytes members ++ byte '\x7d' :: rest) =
      .ok (last, rest) := by
  induction h generalizing fuel with
  | nil state =>
    obtain ⟨fuel, rfl⟩ := Nat.exists_eq_add_one_of_ne_zero (Nat.ne_of_gt hfuel)
    rfl
  | @cons state last key text others next first _ ih =>
    obtain ⟨fuel, rfl⟩ := Nat.exists_eq_add_one_of_ne_zero (Nat.ne_of_gt (Nat.zero_lt_of_lt hfuel))
    rw [othersBytes, List.flatMap_cons, List.append_assoc, List.cons_append, ← othersBytes,
      readMembersWithin_next first (follows_others others rest), ih (by simpa using hfuel)]

/-- **The members of a printed object are read**, one after the other. -/
theorem readMembers_members {state last : α} {members : List (String × String)}
    (h : TakesAll member state members last) (rest : Bytes) :
    readMembers member state (membersBytes members ++ byte '\x7d' :: rest) = .ok (last, rest) := by
  cases h with
  | nil => rfl
  | @cons _ _ key text others next first hothers =>
    rw [membersBytes, List.append_assoc, readMembers,
      readMembersWithin_first first (follows_others others rest)]
    apply readMembersWithin_others hothers
    -- the fuel is the length of the text, and each member has a byte of its own
    have hlength := length_le_others others
    simp only [List.length_append, List.length_cons]
    omega

end

/-- The value of a printed member is read behind its colon. -/
theorem readValue_bytes {α : Type} {reader : Bytes → Except Failure (α × Bytes)} {text : String}
    {value : α} (h : ReadsBack reader text value) {rest : Bytes} (hrest : Follows rest) :
    readValue reader (byte ':' :: (bytes text ++ rest)) = .ok (value, rest) := by
  have hcolon : readColon (byte ':' :: (bytes text ++ rest)) = .ok (bytes text ++ rest) := rfl
  rw [readValue, hcolon]
  exact h rest hrest

/-- **A printed record is read back** by the members of its object. -/
theorem readsBack_record {α : Type} {expected : String}
    {list object : Bytes → Except Failure (α × Bytes)} {members : List (String × String)}
    {value : α}
    (h : ∀ rest, object (membersBytes members ++ byte '\x7d' :: rest) = .ok (value, rest)) :
    ReadsBack (readRecord expected list object) (Json.object members) value := by
  intro rest _
  rw [bytes_object, List.cons_append, List.append_assoc, List.singleton_append, readRecord,
    skipBlanks_cons rfl]
  simp only [if_neg (show byte '\x7b' ≠ byte '[' by decide), if_true, h]

/-- A value that was printed as the whole text. -/
theorem complete_bytes {α : Type} {reader : Bytes → Except Failure (α × Bytes)} {text : String}
    {value : α} (h : ReadsBack reader text value) : complete reader (bytes text) = .ok value := by
  have hread := h [] .nothing
  rw [List.append_nil] at hread
  rw [complete, hread]
  rfl

end PeripheralBus.Json
