import PeripheralBus.Machine
import PeripheralBus.Text.Numeral
import PeripheralBus.Text.Quoted

/-!
# Numbers on the command line

* `parseWord`: an octal word, with an apostrophe in front or not.
* `parseDump`: which words to dump, as an address or an address and a count.
-/

namespace PeripheralBus.CommandLine

/-- A text that is no number of the kind wanted, and why. -/
inductive TextFault where
  | word (text : String) (cause : Numeral.Fault)
  | count (text : String) (cause : Numeral.Fault)
  deriving DecidableEq, Repr

/-- The wording of a fault. -/
def TextFault.message : TextFault → String
  | .word text cause => s!"invalid octal word {Quoted.text text}: {cause.message}"
  | .count text cause => s!"invalid dump count {Quoted.text text}: {cause.message}"

/-- Reads an octal word. -/
def parseWord (text : String) : Except TextFault Word :=
  match Numeral.readOctal 65536 text.toList with
  | .ok n => .ok (UInt16.ofNat n)
  | .error cause => .error (.word text cause)

/-- Reads a decimal count of at most 64 bits. -/
def parseCount (text : String) : Except TextFault Nat :=
  match Numeral.read 10 UInt64.size text.toList with
  | .ok n => .ok n
  | .error cause => .error (.count text cause)

/-- How many words are dumped when no count is given. -/
def usualCount : Nat := 8

/-- Reads an address, or an address and a count with a colon between. Of two faults the count's
comes first. -/
def parseDump (text : String) : Except TextFault (Word × Nat) :=
  match text.toList.span (· ≠ ':') with
  | (address, _ :: count) => do
    let count ← parseCount (String.ofList count)
    .ok (← parseWord (String.ofList address), count)
  | (_, []) => do .ok (← parseWord text, usualCount)

end PeripheralBus.CommandLine
