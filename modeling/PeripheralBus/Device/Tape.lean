import PeripheralBus.Device.Reply

/-!
# The tape controller

No drive is attached. A transfer never succeeds, so a program that waits for one would hang.
-/

namespace PeripheralBus.Tape

/-- Input or output: ignored with a warning, unless the program would try for ever. -/
def transfer (i : Instruction) (willRetry : Bool) (m : Machine) : Reply Unit :=
  if willRetry then { result := .error (.deviceHang i.device), device := (), machine := m }
  else
    { Reply.idle () m with
      events := [.warn .tape (s!"tape: transfer on '{Octal.padded 2 i.device.toNat} " ++
        "ignored, no drive attached")] }

/-- Carries out an instruction. -/
def perform (i : Instruction) (willRetry : Bool) (m : Machine) : Reply Unit :=
  match i.kind with
  | .control | .sense => .idle () m
  | .input | .output => transfer i willRetry m

end PeripheralBus.Tape
