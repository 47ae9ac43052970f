import PeripheralBus.Channel.Program
import PeripheralBus.Device.Reply

/-!
# The disk controller as a device

Output function 17 runs the channel program at the address in A. Input gives the controller's
address or its status; control pulses only leave a note in the log.

* `Controller.perform`: carries out an instruction, if its channel program ends within a limit.
-/

namespace PeripheralBus.Controller

open Pack

variable {S : Type} [Cabinet S]

/-- The notes that control pulses leave. -/
def controlEvents (i : Instruction) : List Event :=
  match i.function.toNat with
  | 0o16 => [.debug .disk s!"disk '{Octal.padded 2 i.device.toNat}: reset interrupt"]
  | 0o17 => [.debug .disk s!"disk '{Octal.padded 2 i.device.toNat}: reset controller"]
  | _ => []

/-- The input instruction: the address by itself or on top of A, or the status. -/
def input (c : Controller S) (i : Instruction) (m : Machine) : Reply (Controller S) :=
  match i.function.toNat with
  | 0o01 => .succeed c { m with a := i.device.toUInt16 }
  | 0o11 => .succeed c { m with a := m.a ||| i.device.toUInt16 }
  | 0o17 => .succeed c { m with a := statusReady }
  | _ => .refuse i c m

/-- The reply to the instruction that started a channel program, once the program has ended. -/
def programReply (device : UInt8) (events : List Event) (last : Ended S) : Reply (Controller S) :=
  match last.result with
  | .error fault =>
    { result := .error fault, device := last.controller, machine := last.machine, events }
  | .ok done =>
    .succeed last.controller last.machine
      (events ++ [.debug .disk (s!"disk '{Octal.padded 2 device.toNat}: channel program done, " ++
        s!"{done.executed} orders, status='{Octal.text done.status.toNat}")])

/-- The output instruction. -/
def output (c : Controller S) (limit : Nat) (i : Instruction) (m : Machine) :
    Option (Reply (Controller S)) :=
  if i.function = 0o17 then
    (c.run limit m i.device m.a).map fun r => programReply i.device r.1 r.2
  else some (.refuse i c m)

/-- Carries out an instruction. There is no reply when a channel program has not ended after
`limit` orders. -/
def perform (c : Controller S) (limit : Nat) (i : Instruction) (m : Machine) :
    Option (Reply (Controller S)) :=
  match i.kind with
  | .control => some { Reply.idle c m with events := controlEvents i }
  | .sense => some (.idle c m)
  | .input => some (c.input i m)
  | .output => c.output limit i m

end PeripheralBus.Controller
