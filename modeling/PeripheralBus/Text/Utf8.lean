/-!
# Text from bytes

`Utf8.lossy` turns any bytes into text: a well-formed sequence gives its character, and each
longest part that could have begun a character but does not go on as one gives U+FFFD. The reader
is a machine of one byte at a time; between characters nothing is pending.

* `Utf8.step`: one byte.
* `Utf8.lossy`: the whole text.
-/

namespace PeripheralBus.Utf8

/-- Stands for a part that is no character. -/
def replacement : Char := Char.ofNat 0xFFFD

/-- A character that has begun: how many bytes are still owed, the range of the next one, and the
value of the bits so far. -/
structure Pending where
  owed : Nat
  low : UInt8
  high : UInt8
  value : Nat
  deriving DecidableEq, Repr

/-- A byte between characters: what it completes, and what it leaves pending. -/
def first (b : UInt8) : List Char × Option Pending :=
  if b < 0x80 then ([Char.ofNat b.toNat], none)
  else if 0xC2 ≤ b ∧ b ≤ 0xDF then ([], some ⟨1, 0x80, 0xBF, b.toNat - 0xC0⟩)
  else if b = 0xE0 then ([], some ⟨2, 0xA0, 0xBF, 0⟩)
  else if b = 0xED then ([], some ⟨2, 0x80, 0x9F, 0xD⟩)
  else if 0xE1 ≤ b ∧ b ≤ 0xEF then ([], some ⟨2, 0x80, 0xBF, b.toNat - 0xE0⟩)
  else if b = 0xF0 then ([], some ⟨3, 0x90, 0xBF, 0⟩)
  else if 0xF1 ≤ b ∧ b ≤ 0xF3 then ([], some ⟨3, 0x80, 0xBF, b.toNat - 0xF0⟩)
  else if b = 0xF4 then ([], some ⟨3, 0x80, 0x8F, 4⟩)
  else ([replacement], none)

/-- One byte: the characters it completes and what is pending after it. A byte that cannot go on
with the pending character ends it as a replacement and is read afresh. -/
def step : Option Pending → UInt8 → List Char × Option Pending
  | none, b => first b
  | some p, b =>
    if p.low ≤ b ∧ b ≤ p.high then
      let value := p.value * 64 + (b.toNat - 0x80)
      if p.owed ≤ 1 then ([Char.ofNat value], none)
      else ([], some ⟨p.owed - 1, 0x80, 0xBF, value⟩)
    else
      let (out, after) := first b
      (replacement :: out, after)

/-- The characters of the bytes that follow a pending character. -/
def chars : Option Pending → List UInt8 → List Char
  | none, [] => []
  | some _, [] => [replacement]
  | p, b :: rest =>
    let (out, after) := step p b
    out ++ chars after rest

/-- Bytes below 0x80 are characters by themselves. -/
theorem chars_of_ascii {bytes : List UInt8} (h : ∀ b ∈ bytes, b < 0x80) :
    chars none bytes = bytes.map fun b => Char.ofNat b.toNat := by
  induction bytes with
  | nil => rfl
  | cons b rest ih =>
    have hb : b < 0x80 := h b List.mem_cons_self
    have hrest := ih fun x hx => h x (List.mem_cons_of_mem b hx)
    simp [chars, step, first, hb, hrest]

theorem ofNat_ne_replacement : ∀ n < 0x80, Char.ofNat n ≠ replacement := by
  decide

/-- The text of any bytes. -/
def lossy (bytes : List UInt8) : String := String.ofList (chars none bytes)

end PeripheralBus.Utf8
