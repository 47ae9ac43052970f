import PeripheralBus.Event
import PeripheralBus.Fault

/-!
# Replies

What an instruction leads to when a device carries it out.

* `Reply`: the device and the machine afterwards, with the events on the way.
* `Reply.succeed`, `Reply.refuse`: the two usual replies.
-/

namespace PeripheralBus

/-- The outcome of an instruction. A fault leaves behind whatever was changed before it. -/
structure Reply (D : Type) where
  result : Except Fault Unit
  device : D
  machine : Machine
  events : List Event := []

namespace Reply

variable {D : Type}

/-- Nothing happens. -/
def idle (device : D) (machine : Machine) : Reply D := { result := .ok (), device, machine }

/-- The instruction succeeds and says so. -/
def succeed (device : D) (machine : Machine) (events : List Event := []) : Reply D :=
  { result := .ok (), device, machine := machine.signalSuccess, events }

/-- The device does not know the function. -/
def refuse (instruction : Instruction) (device : D) (machine : Machine) : Reply D :=
  { result := .error (.unsupported instruction), device, machine }

/-- The same reply of a device inside another one. -/
def map {E : Type} (f : D → E) (r : Reply D) : Reply E :=
  { result := r.result, device := f r.device, machine := r.machine, events := r.events }

end Reply

end PeripheralBus
