import PeripheralBus.Device.Console
import PeripheralBus.Device.Disk
import PeripheralBus.Device.Null
import PeripheralBus.Device.Panel
import PeripheralBus.Device.Tape

/-!
# The bus

A bus has 64 addresses with a device at each; where nothing was attached, and at every higher
address, the null device answers.

* `Bus.attach`: puts a device at an address.
* `Bus.dispatch`: carries out an instruction.
* `Bus.execute`: carries out the instruction in a word.
-/

namespace PeripheralBus

open Line Pack

/-- A device on a bus whose terminals are of type `T` and whose cabinets are of type `S`. -/
inductive Device (T S : Type) [Terminal T] [Cabinet S] where
  | console (console : Console T)
  | tape
  | panel (panel : Panel)
  | disk (controller : Controller S)
  | null

namespace Device

variable {T S : Type} [Terminal T] [Cabinet S]

/-- The name of a device in the log. -/
def name : Device T S → String
  | .console _ => "console"
  | .tape => "tape"
  | .panel _ => "control panel"
  | .disk _ => "disk"
  | .null => "null"

/-- Carries out an instruction. -/
def perform (d : Device T S) (limit : Nat) (i : Instruction) (willRetry : Bool) (m : Machine) :
    Option (Reply (Device T S)) :=
  match d with
  | .console c => some ((c.perform i willRetry m).map .console)
  | .tape => some ((Tape.perform i willRetry m).map fun _ => .tape)
  | .panel p => some ((p.perform i m).map .panel)
  | .disk c => (c.perform limit i m).map fun r => r.map .disk
  | .null => some ((NullDevice.perform i m).map fun _ => .null)

/-- What dropping a device does. -/
def dropEvents : Device T S → List Event
  | .disk c => c.mount.dropEvents
  | _ => []

end Device

/-- A bus: its devices, and how it tells whether a program tries a failed instruction for ever. -/
structure Bus (T S : Type) [Terminal T] [Cabinet S] where
  devices : Vector (Device T S) 64 := Vector.replicate 64 .null
  willRetry : Machine → Bool := Machine.spinsOnFailure

namespace Bus

variable {T S : Type} [Terminal T] [Cabinet S]

/-- The device that answers at an address. -/
def device (b : Bus T S) (address : UInt8) : Device T S :=
  if h : address.toNat < 64 then b.devices[address.toNat] else .null

theorem device_empty (address : UInt8) : ({} : Bus T S).device address = .null := by
  unfold device
  split
  · simp
  · rfl

/-- The bus with another device at an address; addresses without a place change nothing. -/
def set (b : Bus T S) (address : UInt8) (d : Device T S) : Bus T S :=
  if h : address.toNat < 64 then { b with devices := b.devices.set address.toNat d h } else b

theorem device_set (b : Bus T S) (address place : UInt8) (d : Device T S)
    (h : address.toNat < 64) :
    (b.set address d).device place = if place = address then d else b.device place := by
  simp only [device, set, h, dite_true]
  split
  · simp only [Vector.getElem_set, UInt8.toNat_inj, eq_comm]
  · rename_i hp
    rw [if_neg]
    rintro rfl
    exact hp h

/-- What holds of every device holds of every device when one more with it was put there. -/
theorem forall_device_set {b : Bus T S} {Q : Device T S → Prop}
    (hb : ∀ place, Q (b.device place)) (address : UInt8) {d : Device T S} (hd : Q d) :
    ∀ place, Q ((b.set address d).device place) := by
  intro place
  by_cases h : address.toNat < 64
  · rw [device_set b address place d h]
    split
    · exact hd
    · exact hb place
  · rw [set, dif_neg h]
    exact hb place

/-- Attaches a device. The one that was there before is dropped. -/
def attach (b : Bus T S) (address : UInt8) (d : Device T S) :
    Except Fault (List Event × Bus T S) :=
  if address.toNat < 64 then .ok ((b.device address).dropEvents, b.set address d)
  else .error (.configuration (.addressOutOfRange address))

/-- Carries out an instruction. There is no reply when a channel program has not ended after
`limit` orders. -/
def dispatch (b : Bus T S) (limit : Nat) (i : Instruction) (m : Machine) :
    Option (Reply (Bus T S)) :=
  let d := b.device i.device
  let routed := Event.debug .dispatch s!"{i.text} ({d.name})"
  (d.perform limit i (b.willRetry m) m).map fun r =>
    { result := r.result
      device := b.set i.device r.device
      machine := r.machine
      events := routed :: r.events }

/-- Carries out the instruction in a word. -/
def execute (b : Bus T S) (limit : Nat) (word : Word) (m : Machine) : Option (Reply (Bus T S)) :=
  match Instruction.ofWord? word with
  | some i => b.dispatch limit i m
  | none => some { result := .error (.notAnInstruction word), device := b, machine := m }

/-- What dropping the bus does, in address order. -/
def dropEvents (b : Bus T S) : List Event := b.devices.toList.flatMap Device.dropEvents

end Bus

end PeripheralBus
