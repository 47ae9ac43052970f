import PeripheralBus.Machine
import PeripheralBus.Text.Octal

/-!
# I/O instructions

An I/O instruction names one of four kinds, a function code and a device address. In a word the
kind is in bits 15 to 14, then comes the fixed pattern `1100`, the function in bits 9 to 6 and the
device in bits 5 to 0.

* `Instruction.ofWord?`: the instruction of a word that has the pattern.
* `Instruction.toWord`: the word of an instruction; fields too wide for it lose their high bits.
-/

namespace PeripheralBus

/-- The four kinds of I/O instruction. -/
inductive Kind where
  /-- A control pulse: resets and mode settings. -/
  | control
  /-- Skip if a device condition holds. -/
  | sense
  /-- From the device to the accumulator. -/
  | input
  /-- From the accumulator to the device. -/
  | output
  deriving DecidableEq, Repr

namespace Kind

/-- The number in the instruction word. -/
def number : Kind → UInt8
  | .control => 0
  | .sense => 1
  | .input => 2
  | .output => 3

/-- The kind with a number, if there is one. -/
def ofNumber? (n : UInt8) : Option Kind :=
  match n.toNat with
  | 0 => some .control
  | 1 => some .sense
  | 2 => some .input
  | 3 => some .output
  | _ => none

/-- The assembler's name. -/
def mnemonic : Kind → String
  | .control => "OCP"
  | .sense => "SKS"
  | .input => "INA"
  | .output => "OTA"

end Kind

/-- An I/O instruction. -/
structure Instruction where
  kind : Kind
  function : UInt8
  device : UInt8
  deriving DecidableEq, Repr

namespace Instruction

/-- The bits that hold the fixed pattern. -/
def patternMask : Word := 0o36000

/-- The fixed pattern. -/
def pattern : Word := 0o30000

/-- The instruction of a word, if the word is an I/O instruction. -/
def ofWord? (word : Word) : Option Instruction :=
  if word &&& patternMask = pattern then
    (Kind.ofNumber? (word >>> 14).toUInt8).map fun kind =>
      ⟨kind, ((word >>> 6) &&& 0o17).toUInt8, (word &&& 0o77).toUInt8⟩
  else none

/-- The word of an instruction, with the function modulo 16 and the device modulo 64. -/
def toWord (i : Instruction) : Word :=
  (i.kind.number.toUInt16 <<< 14) ||| pattern ||| ((i.function &&& 0o17).toUInt16 <<< 6) |||
    (i.device &&& 0o77).toUInt16

/-- An instruction as the assembler writes it: the kind, then function and device in octal. -/
def text (i : Instruction) : String :=
  s!"{i.kind.mnemonic} '{Octal.padded 2 i.function.toNat}{Octal.padded 2 i.device.toNat}"

end Instruction

end PeripheralBus
