import Mathlib.Data.List.Basic
import PeripheralBus.Configuration.Print
import PeripheralBus.Json.Scan

/-!
# Printed strings are scanned back

A printed string is read byte by byte, after its characters were escaped and encoded. No byte of an
encoded character is taken for a quote or a backslash, except that of the quote and the backslash,
which are escaped; so the scanner comes to the closing quote with the bytes of the string.

* `bytes`: the bytes of a text; `encoded`: those of some characters.
* `plain_of_mem_encode`: the bytes of an unescaped character stand for themselves.
* `scanEscape_escape`: what an escape stands for.
* `scanStringBytes_escape`: one character of a string.
* `scanString_quoted`: **a printed string is scanned back.**
-/

namespace PeripheralBus.Json

/-- The UTF-8 form of some characters. -/
def encoded (characters : List Char) : Bytes := characters.flatMap String.utf8EncodeChar

@[simp] theorem encoded_nil : encoded [] = [] := rfl

@[simp] theorem encoded_cons (c : Char) (characters : List Char) :
    encoded (c :: characters) = String.utf8EncodeChar c ++ encoded characters := rfl

@[simp] theorem encoded_append (characters more : List Char) :
    encoded (characters ++ more) = encoded characters ++ encoded more := List.flatMap_append

/-- The bytes of a text. -/
def bytes (text : String) : Bytes := text.toUTF8.data.toList

theorem bytes_eq_encoded (text : String) : bytes text = encoded text.toList := by
  have htext : text.toByteArray = text.toList.utf8Encode := by
    rw [← String.toByteArray_ofList, String.ofList_toList]
  rw [bytes, String.toUTF8_eq_toByteArray, htext, List.utf8Encode, List.toList_data_toByteArray]
  rfl

@[simp] theorem bytes_append (text more : String) :
    bytes (text ++ more) = bytes text ++ bytes more := by
  simp [bytes_eq_encoded]

@[simp] theorem bytes_ofList (characters : List Char) :
    bytes (String.ofList characters) = encoded characters := by
  rw [bytes_eq_encoded, String.toList_ofList]

/-- The bytes of a text are those of no other. -/
theorem fromUTF8?_bytes (text : String) : String.fromUTF8? ⟨(bytes text).toArray⟩ = some text := by
  have hbytes : (⟨(bytes text).toArray⟩ : ByteArray) = text.toByteArray := by simp [bytes]
  rw [hbytes, String.fromUTF8?, dif_pos text.isValidUTF8]
  rfl

/-! ## Bytes that stand for themselves -/

/-- A byte that stands for itself in a string. -/
def Plain (b : UInt8) : Prop := b ≠ byte '"' ∧ b ≠ byte '\\' ∧ ¬ b < 32

theorem plain_of_le {b : UInt8} (h : 0x80 ≤ b.toNat) : Plain b := by
  refine ⟨?_, ?_, ?_⟩
  · rintro rfl
    exact absurd h (by decide)
  · rintro rfl
    exact absurd h (by decide)
  · intro hlt
    have hb : b.toNat < 32 := UInt8.lt_iff_toNat_lt.1 hlt
    omega

/-- A character of one byte is that byte. -/
theorem encode_of_lt {c : Char} (h : c.toNat < 0x80) : String.utf8EncodeChar c = [byte c] := by
  have hv : c.val.toNat ≤ 0x7f := Nat.le_of_lt_succ h
  rw [String.utf8EncodeChar, if_pos hv, UInt8.ofNat_uInt32ToNat]
  rfl

theorem toNat_byte {c : Char} (h : c.toNat < 0x80) : (byte c).toNat = c.toNat := by
  have hv : c.val.toNat < 256 := Nat.lt_trans h (by decide)
  rw [byte, Char.toUInt8, UInt32.toNat_toUInt8, Nat.mod_eq_of_lt hv]
  rfl

/-- Different characters of one byte are different bytes. -/
theorem byte_ne {c d : Char} (hc : c.toNat < 0x80) (hd : d.toNat < 0x80) (h : c ≠ d) :
    byte c ≠ byte d := by
  intro hbyte
  have hn : c.toNat = d.toNat := by rw [← toNat_byte hc, hbyte, toNat_byte hd]
  exact h (Char.toNat_inj.1 hn)

/-- All bytes of a longer character are outside ASCII. -/
theorem le_of_mem_encode {c : Char} (h : 0x80 ≤ c.toNat) {b : UInt8}
    (hb : b ∈ String.utf8EncodeChar c) : 0x80 ≤ b.toNat := by
  have hv : ¬ c.val.toNat ≤ 0x7f := Nat.not_le_of_lt h
  simp only [String.utf8EncodeChar, if_neg hv] at hb
  -- two, three or four bytes, each a remainder with its high bit added
  split at hb
  · simp only [List.mem_cons, List.not_mem_nil, or_false] at hb
    rcases hb with rfl | rfl <;> rw [UInt8.toNat_ofNat'] <;> omega
  · split at hb
    · simp only [List.mem_cons, List.not_mem_nil, or_false] at hb
      rcases hb with rfl | rfl | rfl <;> rw [UInt8.toNat_ofNat'] <;> omega
    · simp only [List.mem_cons, List.not_mem_nil, or_false] at hb
      rcases hb with rfl | rfl | rfl | rfl <;> rw [UInt8.toNat_ofNat'] <;> omega

/-- **The bytes of an unescaped character stand for themselves.** -/
theorem plain_of_mem_encode {c : Char} (hquote : c ≠ '"') (hbackslash : c ≠ '\\')
    (hcontrol : ¬ c.toNat < 32) {b : UInt8} (hb : b ∈ String.utf8EncodeChar c) : Plain b := by
  by_cases hascii : c.toNat < 0x80
  · -- the byte is the character itself, so what the character is not the byte is not
    rw [encode_of_lt hascii, List.mem_singleton] at hb
    subst hb
    refine ⟨byte_ne hascii (by decide) hquote, byte_ne hascii (by decide) hbackslash, ?_⟩
    intro hlt
    have hn : (byte c).toNat < 32 := UInt8.lt_iff_toNat_lt.1 hlt
    rw [toNat_byte hascii] at hn
    exact hcontrol hn
  · exact plain_of_le (le_of_mem_encode (Nat.le_of_not_lt hascii) hb)

theorem scanStringBytes_plain {b : UInt8} (h : Plain b) (s : Bytes) :
    scanStringBytes (b :: s) = (scanStringBytes s).map fun p => (b :: p.1, p.2) := by
  obtain ⟨hquote, hbackslash, hcontrol⟩ := h
  rw [scanStringBytes, if_neg hquote, if_neg hbackslash, if_neg hcontrol]
  cases scanStringBytes s <;> rfl

theorem scanStringBytes_plains {l : Bytes} (h : ∀ b ∈ l, Plain b) (s : Bytes) :
    scanStringBytes (l ++ s) = (scanStringBytes s).map fun p => (l ++ p.1, p.2) := by
  induction l with
  | nil =>
    rw [List.nil_append]
    cases scanStringBytes s <;> rfl
  | cons b l ih =>
    obtain ⟨hb, hl⟩ := List.forall_mem_cons.1 h
    rw [List.cons_append, scanStringBytes_plain hb, ih hl]
    cases scanStringBytes s <;> rfl

/-! ## Escapes -/

theorem scanStringBytes_backslash {s rest out : Bytes} (h : scanEscape s = .ok (out, rest)) :
    scanStringBytes (byte '\\' :: s) =
      (scanStringBytes rest).map fun p => (out ++ p.1, p.2) := by
  rw [scanStringBytes, if_neg (by decide), if_pos rfl]
  split
  · rename_i f hf
    rw [h] at hf
    cases hf
  · rename_i out' rest' hok
    rw [h] at hok
    cases hok
    cases scanStringBytes rest <;> rfl

theorem hexValue?_digitChar : ∀ d < 16, hexValue? (byte (Nat.digitChar d)) = some d := by decide

theorem hexDigits_eq : ∀ n < 32,
    hexDigits n = ['0', '0', Nat.digitChar (n / 16), Nat.digitChar (n % 16)] := by decide

theorem encode_digitChar : ∀ d < 16,
    String.utf8EncodeChar (Nat.digitChar d) = [byte (Nat.digitChar d)] := by decide

/-- The digits of a control character are read as its number. -/
theorem scanHex_hexDigits {n : ℕ} (h : n < 32) (s : Bytes) :
    scanHex (encoded (hexDigits n) ++ s) = .ok (n, s) := by
  have hhigh : n / 16 < 16 := by omega
  have hlow : n % 16 < 16 := by omega
  have hzero : String.utf8EncodeChar '0' = [byte (Nat.digitChar 0)] := rfl
  have hn : n / 16 * 16 + n % 16 = n := by omega
  rw [hexDigits_eq n h]
  simp [hzero, encode_digitChar, hhigh, hlow, scanHex, hexValue?_digitChar, hn]

theorem utf8_toNat (c : Char) : utf8 c.toNat = String.utf8EncodeChar c := by
  rw [utf8, Char.ofNat_toNat]

/-- The characters that have an escape of one letter. -/
def lettered : List Char := ['"', '\\', '\x08', '\x0c', '\n', '\r', '\t']

theorem escape_of_not_mem {c : Char} (h : c ∉ lettered) :
    escape c = if c.toNat < 32 then '\\' :: 'u' :: hexDigits c.toNat else [c] := by
  simp only [lettered, List.mem_cons, List.not_mem_nil, or_false, not_or] at h
  simp [escape, h]

/-- The escape of a control character is read as that character. -/
theorem scanEscape_control {c : Char} (h : c.toNat < 32) (s : Bytes) :
    scanEscape (encoded ('u' :: hexDigits c.toNat) ++ s) = .ok (String.utf8EncodeChar c, s) := by
  have hu : String.utf8EncodeChar 'u' = [byte 'u'] := rfl
  have hsimple : simpleEscape? (byte 'u') = none := rfl
  -- a control character is no half of a surrogate pair, so no second escape is asked for
  have hlow : ¬ (0xDC00 ≤ c.toNat ∧ c.toNat ≤ 0xDFFF) := by omega
  have hhigh : ¬ (0xD800 ≤ c.toNat ∧ c.toNat ≤ 0xDBFF) := by omega
  rw [encoded_cons, hu, List.append_assoc, List.singleton_append, scanEscape]
  simp only [hsimple, scanHex_hexDigits h, if_neg hlow, if_neg hhigh, utf8_toNat, ne_eq, not_true,
    if_false]

/-- **What an escape stands for.** A character is escaped, and the escape is read as the character,
or all its bytes stand for themselves. -/
theorem scanEscape_escape (c : Char) :
    (∃ l, escape c = '\\' :: l ∧
      ∀ s, scanEscape (encoded l ++ s) = .ok (String.utf8EncodeChar c, s)) ∨
    escape c = [c] ∧ ∀ b ∈ String.utf8EncodeChar c, Plain b := by
  by_cases hlettered : c ∈ lettered
  · left
    simp only [lettered, List.mem_cons, List.not_mem_nil, or_false] at hlettered
    rcases hlettered with rfl | rfl | rfl | rfl | rfl | rfl | rfl <;>
      exact ⟨_, rfl, fun s => rfl⟩
  · rw [escape_of_not_mem hlettered]
    by_cases hcontrol : c.toNat < 32
    · exact .inl ⟨_, if_pos hcontrol, scanEscape_control hcontrol⟩
    · right
      refine ⟨if_neg hcontrol, ?_⟩
      intro b hb
      -- quote and backslash have escapes of one letter, so this is neither
      have hquote : c ≠ '"' := by
        rintro rfl
        exact hlettered (by decide)
      have hbackslash : c ≠ '\\' := by
        rintro rfl
        exact hlettered (by decide)
      exact plain_of_mem_encode hquote hbackslash hcontrol hb

/-- **One character of a string**, escaped or not, is read as itself. -/
theorem scanStringBytes_escape (c : Char) (s : Bytes) :
    scanStringBytes (encoded (escape c) ++ s) =
      (scanStringBytes s).map fun p => (String.utf8EncodeChar c ++ p.1, p.2) := by
  rcases scanEscape_escape c with ⟨l, hl, hscan⟩ | ⟨hc, hplain⟩
  · have hbackslash : String.utf8EncodeChar '\\' = [byte '\\'] := rfl
    rw [hl, encoded_cons, hbackslash, List.append_assoc, List.singleton_append,
      scanStringBytes_backslash (hscan s)]
  · rw [hc, encoded_cons, encoded_nil, List.append_nil, scanStringBytes_plains hplain]

theorem scanStringBytes_escapes (characters : List Char) (rest : Bytes) :
    scanStringBytes (encoded (characters.flatMap escape) ++ byte '"' :: rest) =
      .ok (encoded characters, rest) := by
  induction characters with
  | nil =>
    rw [List.flatMap_nil, encoded_nil, List.nil_append, scanStringBytes, if_pos rfl]
  | cons c characters ih =>
    rw [List.flatMap_cons, encoded_append, List.append_assoc, scanStringBytes_escape, ih]
    rfl

/-- What stands between the quotes of a printed string. -/
def quoted (text : String) : Bytes := encoded (text.toList.flatMap escape)

theorem bytes_string (text : String) :
    bytes (string text) = byte '"' :: (quoted text ++ [byte '"']) := by
  have hquote : String.utf8EncodeChar '"' = [byte '"'] := rfl
  rw [string, bytes_ofList, encoded_append, encoded_append, encoded_cons, hquote]
  rfl

/-- **A printed string is scanned back**, whatever its characters and whatever comes behind it. -/
theorem scanString_quoted (text : String) (rest : Bytes) :
    scanString (quoted text ++ byte '"' :: rest) = .ok (text, rest) := by
  rw [scanString, quoted, scanStringBytes_escapes]
  -- the bytes between the quotes are those of the text, which are UTF-8
  simp only [← bytes_eq_encoded, fromUTF8?_bytes]

end PeripheralBus.Json
