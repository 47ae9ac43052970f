/-!
# Octal text

Words, addresses and device numbers are written in base eight.

* `Octal.text`: without leading zeros; zero is one digit.
* `Octal.padded`: with zeros in front up to a width.
-/

namespace PeripheralBus.Octal

/-- The digits of `n` in base eight, most significant first; zero is one digit. -/
def digits (n : Nat) : List Char := Nat.toDigits 8 n

/-- The number `n` in octal without leading zeros. -/
def text (n : Nat) : String := String.ofList (digits n)

/-- The number `n` in octal with zeros in front: at least `width` digits. -/
def padded (width n : Nat) : String := String.ofList ((digits n).leftpad width '0')

end PeripheralBus.Octal
