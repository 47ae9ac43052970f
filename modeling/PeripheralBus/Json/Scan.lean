import PeripheralBus.Json.Error
import PeripheralBus.Text.Binary64

/-!
# Scanning JSON texts

The pieces of which JSON texts are made, read from the front of the remaining bytes. Every scanner
returns what it read and the bytes after it, or a failure. A failure knows which bytes remained
when it was noticed, which is its place in the text.

* `scanString`: a string after its opening quote, as the bytes of its UTF-8 form.
* `scanNumber`: an integer of at most 64 bits, or else a number with a fraction.
* `skipValue`: any value, unread.
-/

namespace PeripheralBus.Json

/-- Bytes that remain to be read. -/
abbrev Bytes := List UInt8

/-- A fault before its place is turned into line and column: it was noticed with `rest` remaining,
and with `ahead` the next byte belongs to the place. -/
structure Failure where
  cause : Cause
  rest : Bytes
  ahead : Bool
  deriving DecidableEq, Repr

namespace Failure

/-- A malformation noticed after its last byte was read. -/
def after (how : Malformation) (rest : Bytes) : Failure := ⟨.malformed how, rest, false⟩

/-- A malformation noticed at the next byte. -/
def atNext (how : Malformation) (rest : Bytes) : Failure := ⟨.malformed how, rest, true⟩

/-- The text ends too early. -/
def ends (inside : Part) : Failure := ⟨.ends inside, [], false⟩

/-- A mismatch noticed before `rest`. -/
def mismatch (what : Mismatch) (rest : Bytes) : Failure := ⟨.mismatch what, rest, false⟩

/-- Line and column of a fault in the whole text. -/
def locate (text : Bytes) (f : Failure) : Error :=
  let read := text.take (text.length - f.rest.length + (if f.ahead then 1 else 0))
  ⟨f.cause, 1 + read.count 10, (read.reverse.takeWhile (· ≠ 10)).length⟩

end Failure

/-- The four blank bytes of JSON. -/
def isBlank (b : UInt8) : Bool := b = 32 || b = 10 || b = 9 || b = 13

/-- Drops blanks. -/
def skipBlanks (s : Bytes) : Bytes := s.dropWhile isBlank

/-- The byte of an ASCII character. -/
def byte (c : Char) : UInt8 := c.toUInt8

/-- The rest of a literal name, of which the first letter has been read. -/
def scanName : Bytes → Bytes → Except Failure Bytes
  | [], s => .ok s
  | _ :: _, [] => .error (.ends .value)
  | e :: es, b :: s => if b = e then scanName es s else .error (.after .expectedIdentifier s)

/-- The rest of the literal name `word`, of which the first letter has been read. -/
def scanWord (word : String) (s : Bytes) : Except Failure Bytes :=
  scanName (word.toList.tail.map byte) s

/-! ## Strings -/

/-- The value of a digit in base sixteen. -/
def hexValue? (b : UInt8) : Option Nat :=
  if 48 ≤ b ∧ b ≤ 57 then some (b.toNat - 48)
  else if 97 ≤ b ∧ b ≤ 102 then some (b.toNat - 87)
  else if 65 ≤ b ∧ b ≤ 70 then some (b.toNat - 55)
  else none

/-- Four digits of base sixteen. -/
def scanHex : Bytes → Except Failure (Nat × Bytes)
  | a :: b :: c :: d :: s =>
    match hexValue? a, hexValue? b, hexValue? c, hexValue? d with
    | some a, some b, some c, some d => .ok (((a * 16 + b) * 16 + c) * 16 + d, s)
    | _, _, _, _ => .error (.after .invalidEscape s)
  | _ => .error (.ends .string)

/-- The UTF-8 form of a code point. -/
def utf8 (n : Nat) : Bytes := String.utf8EncodeChar (Char.ofNat n)

/-- The second half of a surrogate pair whose first half is `high`. -/
def scanLowSurrogate (high : Nat) : Bytes → Except Failure (Bytes × Bytes)
  | [] => .error (.ends .string)
  | b :: s =>
    if b ≠ byte '\\' then .error (.after .endOfHexEscape s)
    else
      match s with
      | [] => .error (.ends .string)
      | u :: s =>
        if u ≠ byte 'u' then .error (.after .endOfHexEscape s)
        else
          match scanHex s with
          | .error f => .error f
          | .ok (low, s) =>
            if 0xDC00 ≤ low ∧ low ≤ 0xDFFF then
              .ok (utf8 ((high - 0xD800) * 1024 + (low - 0xDC00) + 0x10000), s)
            else .error (.after .loneSurrogate s)

/-- The character that a backslash and one more byte stand for. -/
def simpleEscape? (b : UInt8) : Option UInt8 :=
  if b = byte '"' ∨ b = byte '\\' ∨ b = byte '/' then some b
  else if b = byte 'b' then some 8
  else if b = byte 'f' then some 12
  else if b = byte 'n' then some 10
  else if b = byte 'r' then some 13
  else if b = byte 't' then some 9
  else none

/-- What an escape stands for; its backslash has been read. -/
def scanEscape : Bytes → Except Failure (Bytes × Bytes)
  | [] => .error (.ends .string)
  | b :: s =>
    match simpleEscape? b with
    | some c => .ok ([c], s)
    | none =>
      if b ≠ byte 'u' then .error (.after .invalidEscape s)
      else
        match scanHex s with
        | .error f => .error f
        | .ok (n, s) =>
          if 0xDC00 ≤ n ∧ n ≤ 0xDFFF then .error (.after .loneSurrogate s)
          else if 0xD800 ≤ n ∧ n ≤ 0xDBFF then scanLowSurrogate n s
          else .ok (utf8 n, s)

theorem length_of_scanHex {s r : Bytes} {n : Nat} (h : scanHex s = .ok (n, r)) :
    r.length < s.length := by
  unfold scanHex at h
  split at h
  · split at h
    · cases h; simp only [List.length_cons]; omega
    · cases h
  · cases h

theorem length_of_scanLowSurrogate {high : Nat} {s r out : Bytes}
    (h : scanLowSurrogate high s = .ok (out, r)) : r.length < s.length := by
  unfold scanLowSurrogate at h
  split at h
  · cases h
  · split at h
    · cases h
    · split at h
      · cases h
      · split at h
        · cases h
        · split at h
          · cases h
          · rename_i hx
            have := length_of_scanHex hx
            split at h
            · simp only [Except.ok.injEq, Prod.mk.injEq] at h
              obtain ⟨_, rfl⟩ := h
              simp only [List.length_cons]; omega
            · cases h

theorem length_of_scanEscape {s r out : Bytes} (h : scanEscape s = .ok (out, r)) :
    r.length < s.length := by
  unfold scanEscape at h
  split at h
  · cases h
  · split at h
    · cases h; simp
    · split at h
      · cases h
      · split at h
        · cases h
        · rename_i hx
          have := length_of_scanHex hx
          split at h
          · cases h
          · split at h
            · have := length_of_scanLowSurrogate h
              simp only [List.length_cons]; omega
            · cases h; simp only [List.length_cons]; omega

/-- The bytes of a string up to its closing quote, escapes resolved. -/
def scanStringBytes (s : Bytes) : Except Failure (Bytes × Bytes) :=
  match s with
  | [] => .error (.ends .string)
  | b :: s =>
    if b = byte '"' then .ok ([], s)
    else if b = byte '\\' then
      match _h : scanEscape s with
      | .error f => .error f
      | .ok (out, rest) =>
        match scanStringBytes rest with
        | .error f => .error f
        | .ok (more, rest) => .ok (out ++ more, rest)
    else if b < 32 then .error (.after .controlCharacter s)
    else
      match scanStringBytes s with
      | .error f => .error f
      | .ok (more, rest) => .ok (b :: more, rest)
termination_by s.length
decreasing_by
  · have := length_of_scanEscape ‹_›
    simp only [List.length_cons]; omega
  · simp

/-- A string after its opening quote. -/
def scanString (s : Bytes) : Except Failure (String × Bytes) :=
  match scanStringBytes s with
  | .error f => .error f
  | .ok (bytes, rest) =>
    match String.fromUTF8? ⟨bytes.toArray⟩ with
    | some text => .ok (text, rest)
    | none => .error (.after .invalidCodePoint rest)

/-! ## Numbers -/

/-- Whether a byte is a decimal digit. -/
def isDigit (b : UInt8) : Bool := 48 ≤ b && b ≤ 57

/-- A number as it is read. -/
inductive Number where
  | unsigned (n : Nat)
  /-- The integer `-n`; `n` is positive. -/
  | negative (n : Nat)
  | fraction (x : Float)

/-- A number as a found value. -/
def Number.found : Number → Found
  | .unsigned n => .unsigned n
  | .negative n => .negative n
  | .fraction x => .fraction (Binary64.text x)

/-- The largest integer of 64 bits. -/
def largest : Nat := UInt64.size - 1

/-- Continues an integer with more digits as long as it fits 64 bits. The count says how many
digits were taken. -/
def scanDigits : Nat → Nat → Bytes → Nat × Nat × Bytes
  | value, count, [] => (value, count, [])
  | value, count, b :: s =>
    if isDigit b ∧ value * 10 + (b.toNat - 48) ≤ largest then
      scanDigits (value * 10 + (b.toNat - 48)) (count + 1) s
    else (value, count, b :: s)

/-- Drops digits, and says how many there were. -/
def skipDigits (s : Bytes) : Nat × Bytes := ((s.takeWhile isDigit).length, s.dropWhile isDigit)

/-- Ten to a power of at most 308. -/
def powerOfTen (n : Nat) : Float := Float.ofScientific 1 false n

/-- Scales a number by a power of ten, in steps of 308 when it is that small. A number that gets
too large has no result. -/
def scaleByTen : Nat → Float → Int → Option Float
  | 0, x, _ => some x
  | steps + 1, x, exponent =>
    if exponent.natAbs ≤ 308 then
      if 0 ≤ exponent then
        let y := x * powerOfTen exponent.natAbs
        if y.isInf then none else some y
      else some (x / powerOfTen exponent.natAbs)
    else if x == 0.0 then some x
    else if 0 ≤ exponent then none
    else scaleByTen steps (x / powerOfTen 308) (exponent + 308)

/-- The fraction with these digits, scale and sign. -/
def fractionOf (negative : Bool) (digits : Nat) (exponent : Int) (s : Bytes) :
    Except Failure (Number × Bytes) :=
  match scaleByTen 5 digits.toUInt64.toFloat exponent with
  | none => .error (.after .numberOutOfRange s)
  | some x => .ok (.fraction (if negative then -x else x), s)

/-- The largest exponent that is counted exactly. -/
def largestExponent : Nat := 0x7fffffff

/-- The digits of an exponent, up to the first one that makes it too large. -/
def scanExponentDigits : Nat → Bytes → Nat × Bytes
  | value, [] => (value, [])
  | value, b :: s =>
    if isDigit b ∧ value ≤ largestExponent then
      scanExponentDigits (value * 10 + (b.toNat - 48)) s
    else (value, b :: s)

/-- The exponent of a number; its letter has been read. -/
def scanExponent (negative : Bool) (digits : Nat) (exponent : Int) (s : Bytes) :
    Except Failure (Number × Bytes) :=
  let (down, s) := match s with
    | b :: rest => if b = byte '+' then (false, rest) else if b = byte '-' then (true, rest)
      else (false, s)
    | [] => (false, s)
  match s with
  | [] => .error (.ends .value)
  | b :: s =>
    if isDigit b then
      let (value, s) := scanExponentDigits (b.toNat - 48) s
      if value ≤ largestExponent then
        fractionOf negative digits (if down then exponent - value else exponent + value) s
      else if digits ≠ 0 ∧ ¬ down then .error (.after .numberOutOfRange s)
      else .ok (.fraction (if negative then -0.0 else 0.0), (skipDigits s).2)
    else .error (.after .invalidNumber s)

/-- The end of a number: an exponent or nothing. -/
def scanAfterDigits (negative : Bool) (digits : Nat) (exponent : Int) (s : Bytes) :
    Except Failure (Number × Bytes) :=
  match s with
  | b :: rest =>
    if b = byte 'e' ∨ b = byte 'E' then scanExponent negative digits exponent rest
    else fractionOf negative digits exponent s
  | [] => fractionOf negative digits exponent s

/-- The digits after a point, which has been read. Digits that do not fit are dropped. -/
def scanFraction (negative : Bool) (digits : Nat) (exponent : Int) (s : Bytes) :
    Except Failure (Number × Bytes) :=
  let (digits, count, rest) := scanDigits digits 0 s
  let (dropped, rest) := skipDigits rest
  if count + dropped = 0 then
    match rest with
    | [] => .error (.ends .value)
    | _ :: _ => .error (.atNext .invalidNumber rest)
  else scanAfterDigits negative digits (exponent - count) rest

/-- A number whose integer part has been read. -/
def scanAfterInteger (negative : Bool) (digits : Nat) (s : Bytes) :
    Except Failure (Number × Bytes) :=
  let whole : Number :=
    if ¬ negative then .unsigned digits
    else if digits = 0 ∨ 0x8000000000000000 < digits then .fraction (-(digits.toUInt64.toFloat))
    else .negative digits
  match s with
  | b :: rest =>
    if b = byte '.' then scanFraction negative digits 0 rest
    else if b = byte 'e' ∨ b = byte 'E' then scanExponent negative digits 0 rest
    else .ok (whole, s)
  | [] => .ok (whole, s)

/-- A number whose integer part does not fit 64 bits: so many of its digits were dropped. -/
def scanAfterLongInteger (negative : Bool) (digits dropped : Nat) (s : Bytes) :
    Except Failure (Number × Bytes) :=
  match s with
  | b :: rest =>
    if b = byte '.' then scanFraction negative digits dropped rest
    else scanAfterDigits negative digits dropped s
  | [] => scanAfterDigits negative digits dropped s

/-- A number after its sign. -/
def scanNumber (negative : Bool) : Bytes → Except Failure (Number × Bytes)
  | [] => .error (.ends .value)
  | b :: s =>
    if b = byte '0' then
      match s with
      | d :: _ => if isDigit d then .error (.atNext .invalidNumber s)
        else scanAfterInteger negative 0 s
      | [] => scanAfterInteger negative 0 s
    else if isDigit b then
      let (value, _, rest) := scanDigits (b.toNat - 48) 1 s
      match skipDigits rest with
      | (0, _) => scanAfterInteger negative value rest
      | (dropped + 1, rest) => scanAfterLongInteger negative value (dropped + 1) rest
    else .error (.after .invalidNumber s)

/-! ## Values that nobody reads -/

/-- A string after its opening quote. Its bytes need not be UTF-8, and surrogates may be alone. -/
def skipString (s : Bytes) : Except Failure Bytes :=
  match s with
  | [] => .error (.ends .string)
  | b :: s =>
    if b = byte '"' then .ok s
    else if b = byte '\\' then
      match s with
      | [] => .error (.ends .string)
      | e :: s =>
        if (simpleEscape? e).isSome then skipString s
        else if e = byte 'u' then
          match _h : scanHex s with
          | .error f => .error f
          | .ok (_, rest) => skipString rest
        else .error (.after .invalidEscape s)
    else if b < 32 then .error (.after .controlCharacter (b :: s))
    else skipString s
termination_by s.length
decreasing_by
  · simp only [List.length_cons]; omega
  · have := length_of_scanHex ‹_›
    simp only [List.length_cons]; omega
  · simp

/-- The exponent of a skipped number; its letter has been read. -/
def skipExponent (s : Bytes) : Except Failure Bytes :=
  let s := match s with
    | b :: rest => if b = byte '+' ∨ b = byte '-' then rest else s
    | [] => s
  match s with
  | [] => .error (.after .invalidNumber [])
  | b :: s => if isDigit b then .ok (skipDigits s).2 else .error (.after .invalidNumber s)

/-- A skipped number after its sign. -/
def skipNumber (s : Bytes) : Except Failure Bytes :=
  let afterInteger : Bytes → Except Failure Bytes := fun s =>
    match s with
    | b :: rest =>
      if b = byte '.' then
        match skipDigits rest with
        | (0, rest) => .error (.atNext .invalidNumber rest)
        | (_ + 1, e :: rest) =>
          if e = byte 'e' ∨ e = byte 'E' then skipExponent rest else .ok (e :: rest)
        | (_ + 1, []) => .ok []
      else if b = byte 'e' ∨ b = byte 'E' then skipExponent rest
      else .ok s
    | [] => .ok []
  match s with
  | [] => .error (.after .invalidNumber [])
  | b :: s =>
    if b = byte '0' then
      match s with
      | d :: _ => if isDigit d then .error (.atNext .invalidNumber s) else afterInteger s
      | [] => afterInteger s
    else if isDigit b then afterInteger (skipDigits s).2
    else .error (.after .invalidNumber s)

/-- An open list or object around a skipped value. -/
inductive Frame where
  | list
  | object
  deriving DecidableEq, Repr

namespace Frame

/-- The closing bracket. -/
def close : Frame → UInt8
  | .list => byte ']'
  | .object => byte '\x7d'

/-- The part that a missing end leaves open. -/
def part : Frame → Part
  | .list => .list
  | .object => .object

/-- What is missing after an element when neither a comma nor the end comes. -/
def separator : Frame → Malformation
  | .list => .expectedListCommaOrEnd
  | .object => .expectedObjectCommaOrEnd

end Frame

/-- What follows a skipped value: closing brackets up to a comma. With no frame left the outermost
value is complete. -/
def closeFrames : List Frame → Bytes → Except Failure (List Frame × Bytes)
  | [], s => .ok ([], s)
  | f :: outer, s =>
    match skipBlanks s with
    | [] => .error (.ends f.part)
    | b :: rest =>
      if b = byte ',' then .ok (f :: outer, rest)
      else if b = f.close then closeFrames outer rest
      else .error (.atNext f.separator (b :: rest))

/-- The key and the colon before a skipped value in an object. -/
def skipKey : Frame → Bytes → Except Failure Bytes
  | .list, s => .ok s
  | .object, s =>
    match skipBlanks s with
    | [] => .error (.ends .object)
    | b :: rest =>
      if b ≠ byte '"' then .error (.atNext .keyNotString (b :: rest))
      else
        match skipString rest with
        | .error f => .error f
        | .ok s =>
          match skipBlanks s with
          | [] => .error (.ends .object)
          | b :: rest =>
            if b = byte ':' then .ok rest else .error (.atNext .expectedColon (b :: rest))

/-- A skipped value without elements whose first byte is `b`. -/
def skipScalar (b : UInt8) (s : Bytes) : Except Failure Bytes :=
  if b = byte 'n' then scanWord "null" s
  else if b = byte 't' then scanWord "true" s
  else if b = byte 'f' then scanWord "false" s
  else if b = byte '"' then skipString s
  else if b = byte '-' then skipNumber s
  else if isDigit b then skipNumber (b :: s)
  else .error (.atNext .expectedValue (b :: s))

/-- The frame that a byte opens. -/
def frameOf? (b : UInt8) : Option Frame :=
  if b = byte '[' then some .list else if b = byte '\x7b' then some .object else none

/-- The frames after a value has begun with byte `b` inside `frames`: none when the outermost value
is complete, and otherwise what follows is the next element. -/
def skipStart (frames : List Frame) (b : UInt8) (s : Bytes) :
    Except Failure (List Frame × Bytes) :=
  match frameOf? b with
  | some f =>
    match skipBlanks s with
    | [] => .error (.ends f.part)
    | c :: rest => if c = f.close then closeFrames frames rest else .ok (f :: frames, c :: rest)
  | none =>
    match skipScalar b s with
    | .error f => .error f
    | .ok rest => closeFrames frames rest

/-- Skips values until the outermost one is complete; `fuel` bounds the number of values. -/
def skipValues : Nat → List Frame → Bytes → Except Failure Bytes
  | 0, _, _ => .error (.ends .value)
  | fuel + 1, frames, s =>
    match skipBlanks s with
    | [] => .error (.ends .value)
    | b :: rest =>
      match skipStart frames b rest with
      | .error f => .error f
      | .ok ([], rest) => .ok rest
      | .ok (f :: outer, rest) =>
        match skipKey f rest with
        | .error f => .error f
        | .ok rest => skipValues fuel (f :: outer) rest

/-- Skips one value of any depth. Each value has a byte of its own, so the length is enough fuel. -/
def skipValue (s : Bytes) : Except Failure Bytes := skipValues (s.length + 1) [] s

end PeripheralBus.Json
