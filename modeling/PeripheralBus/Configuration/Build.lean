import PeripheralBus.Bus
import PeripheralBus.Configuration.Basic

/-!
# Building the bus

* `Configuration.build`: the bus of a configuration. The terminal goes to the console, of which
  there can be only one.
-/

namespace PeripheralBus

open Line Pack

namespace Configuration

variable {T S : Type} [Terminal T] [Cabinet S]

/-- The device of an entry, and the terminal if it is still free afterwards. -/
def deviceOf (c : Configuration) (cabinet : S) (address : UInt8) (kind : DeviceKind)
    (terminal : Option T) : Except Fault (Device T S × Option T) :=
  match kind with
  | .console =>
    match terminal with
    | some t => .ok (.console ⟨t⟩, none)
    | none => .error (.configuration (.secondConsole address))
  | .tape => .ok (.tape, terminal)
  | .panel => .ok (.panel { switches := c.senseSwitches }, terminal)
  | .disk => .ok (.disk { cabinet, geometry := c.geometry }, terminal)
  | .null => .ok (.null, terminal)

/-- Attaches the devices of entries, one after the other. -/
def attachAll (c : Configuration) (cabinet : S) :
    List (UInt8 × DeviceKind) → Option T → Bus T S → List Event × Except Fault (Bus T S)
  | [], _, bus => ([], .ok bus)
  | (address, kind) :: rest, terminal, bus =>
    let noted := Event.debug .configuration
      s!"attach {kind.label} at '{Octal.padded 2 address.toNat}"
    match c.deviceOf cabinet address kind terminal with
    | .error f => ([noted], .error f)
    | .ok (device, terminal) =>
      match bus.attach address device with
      | .error f => ([noted], .error f)
      | .ok (dropped, bus) =>
        let (events, result) := c.attachAll cabinet rest terminal bus
        (noted :: dropped ++ events, result)

/-- The bus of a configuration, with the terminal at its console and the cabinet behind every disk
controller. -/
def build (c : Configuration) (terminal : T) (cabinet : S) : List Event × Except Fault (Bus T S) :=
  match c.checkGeometry with
  | .error f => ([], .error f)
  | .ok () =>
    match c.deviceMap with
    | .error f => ([], .error f)
    | .ok map => c.attachAll cabinet map (some terminal) {}

end Configuration

end PeripheralBus
