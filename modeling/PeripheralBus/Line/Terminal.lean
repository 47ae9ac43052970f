import PeripheralBus.Host.Error
import PeripheralBus.Text.Utf8

/-!
# Terminals

The host's side of a console: characters go out, and input can be waited for and read.

* `Terminal`: what every terminal offers.
* `QueueTerminal`: input queued beforehand, output kept.
-/

namespace PeripheralBus.Line

/-- A terminal. -/
class Terminal (T : Type) where
  /-- Writes a character. -/
  write : T → UInt8 → Except Host.Error Unit × T
  /-- Waits for input, so many milliseconds at most; whether there is some. -/
  poll : T → Nat → Bool × T
  /-- Reads a character; whether to wait for one if there is none. -/
  read : T → Bool → Except Host.Error (Option UInt8) × T

/-- A terminal without a host: its input is queued beforehand and its output kept. Nothing more
ever arrives, so nothing is waited for. -/
structure QueueTerminal where
  input : List UInt8 := []
  output : Array UInt8 := #[]
  deriving DecidableEq, Repr

namespace QueueTerminal

/-- Adds input at the end. -/
def queue (t : QueueTerminal) (bytes : List UInt8) : QueueTerminal :=
  { t with input := t.input ++ bytes }

@[simp] theorem input_queue (t : QueueTerminal) (bytes : List UInt8) :
    (t.queue bytes).input = t.input ++ bytes := rfl

/-- Keeps a character. -/
def put (t : QueueTerminal) (character : UInt8) : QueueTerminal :=
  { t with output := t.output.push character }

/-- Whether there is input. -/
def hasInput (t : QueueTerminal) : Bool := !t.input.isEmpty

/-- Takes the next character of the input. -/
def take (t : QueueTerminal) : Option UInt8 × QueueTerminal :=
  match t.input with
  | [] => (none, t)
  | b :: rest => (some b, { t with input := rest })

theorem take_eq (t : QueueTerminal) :
    t.take.1 = t.input.head? ∧ t.take.2.input = t.input.tail := by
  unfold take
  cases h : t.input <;> simp_all

/-- The output as text. -/
def text (t : QueueTerminal) : String := Utf8.lossy t.output.toList

instance : Terminal QueueTerminal where
  write t character := (.ok (), t.put character)
  poll t _ := (t.hasInput, t)
  read t _ := let (b, t) := t.take; (.ok b, t)

end QueueTerminal

end PeripheralBus.Line
