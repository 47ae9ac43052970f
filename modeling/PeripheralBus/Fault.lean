import PeripheralBus.Host.Error
import PeripheralBus.Instruction
import PeripheralBus.Json.Error
import PeripheralBus.Pack.Geometry
import PeripheralBus.Text.Quoted

/-!
# Faults

Everything that ends a run. A unit image that cannot be opened is no fault: the controller reports
it in its status word.

* `Fault.message`: the wording of a fault.
-/

namespace PeripheralBus

/-- A configuration that cannot be used, or a record outside the configured geometry. -/
inductive ConfigurationFault where
  /-- No device can be attached at this address. -/
  | addressOutOfRange (device : UInt8)
  /-- A key of the device table that is no device address. -/
  | invalidAddress (key : String)
  | geometry (geometry : Pack.Geometry) (flaw : Pack.Geometry.Flaw)
  /-- A record whose offset does not fit 64 bits. -/
  | outsideGeometry (track : Word) (head record : UInt8) (geometry : Pack.Geometry)
  | secondConsole (device : UInt8)
  deriving DecidableEq, Repr

/-- The wording of a configuration fault. -/
def ConfigurationFault.message : ConfigurationFault → String
  | .addressOutOfRange device => s!"device address '{Octal.text device.toNat} out of range"
  | .invalidAddress key =>
    s!"invalid device address {Quoted.text key}, expected octal 0-77"
  | .geometry g .zeroField => s!"disk geometry fields must be non-zero: {g.text}"
  | .geometry g .tooLarge => s!"disk geometry too large: {g.text}"
  | .outsideGeometry track head record g =>
    s!"track {track.toNat} head {head.toNat} record {record.toNat} is outside {g.text}"
  | .secondConsole device => s!"second console at '{Octal.padded 2 device.toNat}"

/-- What ends a run. -/
inductive Fault where
  /-- A device does not know the function of an instruction. -/
  | unsupported (instruction : Instruction)
  | notAnInstruction (word : Word)
  /-- A channel order with a code that no order has. -/
  | unrecognizedOrder (code : UInt8) (address : Word)
  | interruptOrder (vector address : Word)
  /-- The program would wait for ever for a device that never answers. -/
  | deviceHang (device : UInt8)
  /-- A DMA count register that asks for fewer than no words. -/
  | invalidCount (channel register : Word)
  | shortRead (file : String) (expected got : Nat)
  | configuration (fault : ConfigurationFault)
  | host (error : Host.Error)
  | json (error : Json.Error)
  deriving DecidableEq, Repr

/-- The wording of a fault. -/
def Fault.message : Fault → String
  | .unsupported i =>
    s!"unimplemented {i.kind.mnemonic} device '{Octal.padded 2 i.device.toNat} " ++
      s!"function '{Octal.padded 2 i.function.toNat}"
  | .notAnInstruction word => s!"word '{Octal.padded 6 word.toNat} is not an I/O instruction"
  | .unrecognizedOrder code address =>
    s!"unrecognized channel order {code.toNat} at '{Octal.text address.toNat}"
  | .interruptOrder vector address =>
    s!"channel program interrupt through '{Octal.text vector.toNat} " ++
      s!"at '{Octal.text address.toNat} is not supported"
  | .deviceHang device =>
    s!"device '{Octal.padded 2 device.toNat} not supported, so I/O hangs"
  | .invalidCount channel register =>
    s!"DMA channel '{Octal.text channel.toNat} count register " ++
      s!"'{Octal.padded 6 register.toNat} is not a negative word count"
  | .shortRead file expected got =>
    s!"short read from {file}: expected {expected} bytes, got {got}"
  | .configuration fault => s!"configuration error: {fault.message}"
  | .host error => s!"I/O error: {error.message}"
  | .json error => s!"JSON error: {error.message}"

end PeripheralBus
