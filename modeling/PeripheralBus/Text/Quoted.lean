import PeripheralBus.Text.Invisible

/-!
# Quoted text

Texts and characters that a message quotes. The quote mark, the backslash and the usual controls
are written with a backslash, an invisible character by its number, and every other character as
it is.

* `Quoted.text`: between double quotes.
* `Quoted.char`: one character between single quotes.
-/

namespace PeripheralBus.Quoted

/-- A character by its number in base sixteen, between braces. -/
def byNumber (c : Char) : List Char :=
  ['\\', 'u', '\x7b'] ++ Nat.toDigits 16 c.toNat ++ ['\x7d']

/-- A character as it stands between two marks `quote`. -/
def escape (quote c : Char) : List Char :=
  if c = '\x00' then ['\\', '0']
  else if c = '\t' then ['\\', 't']
  else if c = '\n' then ['\\', 'n']
  else if c = '\r' then ['\\', 'r']
  else if c = quote ∨ c = '\\' then ['\\', c]
  else if Text.isInvisible c then byNumber c
  else [c]

/-- A text between double quotes. -/
def text (s : String) : String :=
  String.ofList (['"'] ++ s.toList.flatMap (escape '"') ++ ['"'])

/-- A character between single quotes. -/
def char (c : Char) : String := String.ofList (['\x27'] ++ escape '\x27' c ++ ['\x27'])

end PeripheralBus.Quoted
