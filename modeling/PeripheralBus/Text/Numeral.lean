/-!
# Reading numerals

A numeral is an optional plus sign and one or more digits of a base up to ten, with a value
below a bound. A text that is no numeral has one cause, the first one met from left to right; a
character that is no digit is noticed before the value is looked at.

* `Numeral.read`: the value of a numeral, or the cause.
* `Numeral.readOctal`: the same in base eight, with an apostrophe in front or not.
-/

namespace PeripheralBus.Numeral

/-- Why a text is no numeral. -/
inductive Fault where
  /-- There is no character at all. -/
  | empty
  /-- A character that is no digit of the base, or a sign without digits. -/
  | invalidDigit
  /-- The value reaches the bound. -/
  | tooLarge
  deriving DecidableEq, Repr

/-- The wording of a cause. -/
def Fault.message : Fault → String
  | .empty => "cannot parse integer from empty string"
  | .invalidDigit => "invalid digit found in string"
  | .tooLarge => "number too large to fit in target type"

/-- The value of a digit in a base of at most ten. -/
def digitValue? (base : Nat) (c : Char) : Option Nat :=
  if '0'.toNat ≤ c.toNat ∧ c.toNat < '0'.toNat + base then some (c.toNat - '0'.toNat) else none

/-- Continues the value `acc` with more digits, most significant first. -/
def readDigits (base bound : Nat) : Nat → List Char → Except Fault Nat
  | acc, [] => .ok acc
  | acc, c :: rest =>
    match digitValue? base c with
    | none => .error .invalidDigit
    | some d =>
      if base * acc + d < bound then readDigits base bound (base * acc + d) rest
      else .error .tooLarge

/-- The value of a numeral in `base` that is below `bound`. -/
def read (base bound : Nat) : List Char → Except Fault Nat
  | [] => .error .empty
  | ['+'] => .error .invalidDigit
  | '+' :: digits => readDigits base bound 0 digits
  | digits => readDigits base bound 0 digits

/-- The value of an octal numeral below `bound`, which an apostrophe may precede. -/
def readOctal (bound : Nat) : List Char → Except Fault Nat
  | '\x27' :: digits => read 8 bound digits
  | digits => read 8 bound digits

end PeripheralBus.Numeral
