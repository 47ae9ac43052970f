import PeripheralBus.Device.Reply

/-!
# The null device

It answers at every address where nothing is attached: always ready, with no data to give. It knows
function 0 only, and function 1 of output.
-/

namespace PeripheralBus.NullDevice

/-- Carries out an instruction. -/
def perform (i : Instruction) (m : Machine) : Reply Unit :=
  match i.kind, i.function.toNat with
  | .control, 0 => .idle () m
  | .sense, 0 => .succeed () m
  | .input, 0 => .idle () m
  | .output, 0 => .succeed () m
  | .output, 1 => .succeed () m
  | _, _ => .refuse i () m

end PeripheralBus.NullDevice
