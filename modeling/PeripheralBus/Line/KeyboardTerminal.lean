import PeripheralBus.Line.Terminal

/-!
# The keyboard terminal

A terminal whose input comes from a keyboard through a channel, and whose output goes to a screen
in raw mode. Waiting for input takes the next key out of the channel and keeps it until it is read.

* `KeyboardTerminal.send`, `KeyboardTerminal.hangUp`: the keyboard's side.
* `KeyboardTerminal.waiting`: the keys that are still to be read, of which a poll loses none.
* `keyByte?`: the character code of a key.
-/

namespace PeripheralBus.Line

/-- The channel from the keyboard, the key kept by the last poll, and what has reached the screen.
A read that would wait for a key of an open channel is left to the host: here it finds none. -/
structure KeyboardTerminal where
  pending : Option UInt8 := none
  channel : List UInt8 := []
  /-- Whether no more keys will come. -/
  hungUp : Bool := false
  screen : Array UInt8 := #[]
  deriving DecidableEq, Repr

namespace KeyboardTerminal

/-- The keys that are still to be read: the one kept, then those in the channel. -/
def waiting (t : KeyboardTerminal) : List UInt8 := t.pending.toList ++ t.channel

/-- Keys are typed, which does nothing once the keyboard is gone. -/
def send (t : KeyboardTerminal) (keys : List UInt8) : KeyboardTerminal :=
  if t.hungUp then t else { t with channel := t.channel ++ keys }

theorem waiting_send (t : KeyboardTerminal) (keys : List UInt8) :
    (t.send keys).waiting = if t.hungUp then t.waiting else t.waiting ++ keys := by
  unfold send waiting
  split <;> simp

/-- The keyboard goes away; keys in the channel stay. -/
def hangUp (t : KeyboardTerminal) : KeyboardTerminal := { t with hungUp := true }

/-- Takes the next key out of the channel. -/
def receive (t : KeyboardTerminal) : Option UInt8 × KeyboardTerminal :=
  match t.channel with
  | [] => (none, t)
  | k :: rest => (some k, { t with channel := rest })

/-- Waits for a key unless one is kept already. -/
def poll (t : KeyboardTerminal) : Bool × KeyboardTerminal :=
  match t.pending with
  | some _ => (true, t)
  | none =>
    let (key, t) := t.receive
    (key.isSome, { t with pending := key })

/-- Waiting for a key loses none. -/
theorem waiting_poll (t : KeyboardTerminal) : t.poll.2.waiting = t.waiting := by
  unfold poll waiting receive
  cases h : t.pending <;> cases h' : t.channel <;> simp_all

/-- The key kept, or else the next one of the channel. -/
def take (t : KeyboardTerminal) : Option UInt8 × KeyboardTerminal :=
  match t.pending with
  | some k => (some k, { t with pending := none })
  | none => t.receive

theorem take_eq (t : KeyboardTerminal) :
    t.take.1 = t.waiting.head? ∧ t.take.2.waiting = t.waiting.tail := by
  unfold take waiting receive
  cases h : t.pending <;> cases h' : t.channel <;> simp_all

/-- What a character puts on the screen: a line feed also returns the carriage, and a carriage
return alone does nothing. -/
def shown (character : UInt8) : List UInt8 :=
  if character = 0x0A then [0x0D, 0x0A] else if character = 0x0D then [] else [character]

/-- Shows a character. -/
def put (t : KeyboardTerminal) (character : UInt8) : KeyboardTerminal :=
  { t with screen := t.screen ++ shown character }

instance : Terminal KeyboardTerminal where
  write t character := (.ok (), t.put character)
  poll t _ := t.poll
  read t _ := let (k, t) := t.take; (.ok k, t)

end KeyboardTerminal

/-- The keys of a keyboard that matter, and the others. -/
inductive Key where
  | character (c : Char)
  | enter
  | backspace
  | tab
  | escape
  /-- Any key without a character code: arrows, function keys and so on. -/
  | other
  deriving DecidableEq, Repr

/-- The letter of a key pressed with Control, as a number from one. -/
def controlByte? (c : Char) : Option UInt8 :=
  if 'a' ≤ c ∧ c ≤ 'z' then some (c.toUInt8 - 96)
  else if 'A' ≤ c ∧ c ≤ 'Z' then some (c.toUInt8 - 64)
  else none

/-- The character code of a key by itself. -/
def plainByte? : Key → Option UInt8
  | .character c => if c.toNat < 128 then some c.toUInt8 else none
  | .enter => some 13
  | .backspace => some 8
  | .tab => some 9
  | .escape => some 27
  | .other => none

/-- The character code of a key, pressed with Control or without. -/
def keyByte? (key : Key) (control : Bool) : Option UInt8 :=
  match key with
  | .character c => if control then (controlByte? c).or (plainByte? key) else plainByte? key
  | _ => plainByte? key

end PeripheralBus.Line
