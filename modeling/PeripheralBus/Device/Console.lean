import PeripheralBus.Device.Reply
import PeripheralBus.Line.Terminal

/-!
# The system console

Characters to and from a terminal, the test for a character, and two fixed words. Control pulses
are accepted and ignored. Characters read have bit 7 set; characters written lose it, and a
character zero is not written at all.

* `Console.perform`: carries out an instruction.
-/

namespace PeripheralBus

open Line

/-- A console over a terminal. -/
structure Console (T : Type) where
  terminal : T

namespace Console

variable {T : Type} [Terminal T]

/-- The answer to input function 11: which device this is. -/
def deviceWord : Word := 0o4

/-- The answer to input function 12: the control word. -/
def controlWord : Word := 0o4110

/-- How long sense function 7 waits for a character, in milliseconds. -/
def patience : Nat := 100

/-- The sense instruction: function 7 asks for a character, lower ones always skip. -/
def sense (c : Console T) (i : Instruction) (m : Machine) : Reply (Console T) :=
  if i.function < 7 then .succeed c m
  else if i.function = 7 then
    let (ready, terminal) := Terminal.poll c.terminal patience
    let events := [.line (.polled patience)]
    if ready then .succeed ⟨terminal⟩ m events else { Reply.idle ⟨terminal⟩ m with events }
  else .idle c m

/-- The low seven bits of A as a character. -/
def character (a : Word) : UInt8 := (a &&& 0x7f).toUInt8

/-- Reads a character into A, on top of what is there or after clearing it. With no character
nothing happens, whether the terminal waited for one or not. -/
def readCharacter (c : Console T) (clear blocking : Bool) (m : Machine) : Reply (Console T) :=
  let (result, terminal) := Terminal.read c.terminal blocking
  let asked : Event := .line (.asked blocking)
  match result with
  | .error e =>
    { result := .error (.host e), device := ⟨terminal⟩, machine := m, events := [asked] }
  | .ok none =>
    { Reply.idle ⟨terminal⟩ m with
      events := [asked,
        .trace .console s!"console: no character ready (blocking={blocking})"] }
  | .ok (some b) =>
    let a := (if clear then 0 else m.a) ||| b.toUInt16 ||| 0x80
    .succeed ⟨terminal⟩ { m with a }
      [asked, .debug .console (s!"console: character read='{Octal.text a.toNat}: " ++
        Quoted.char (Char.ofNat (character a).toNat))]

/-- The input instruction. -/
def input (c : Console T) (i : Instruction) (willRetry : Bool) (m : Machine) :
    Reply (Console T) :=
  match i.function.toNat with
  | 0o0 => c.readCharacter false willRetry m
  | 0o10 => c.readCharacter true willRetry m
  | 0o11 => .succeed c { m with a := deviceWord }
  | 0o12 => .succeed c { m with a := controlWord }
  | _ => .refuse i c m

/-- Writes the character in A, unless it is zero. -/
def writeCharacter (c : Console T) (m : Machine) : Reply (Console T) :=
  let b := character m.a
  let said := .debug .console (s!"console: char to write='{Octal.text m.a.toNat}: " ++
    Quoted.char (Char.ofNat b.toNat))
  if b = 0 then .succeed c m [said]
  else
    match Terminal.write c.terminal b with
    | (.ok (), terminal) => .succeed ⟨terminal⟩ m [said, .line (.written b)]
    | (.error e, terminal) =>
      { result := .error (.host e), device := ⟨terminal⟩, machine := m, events := [said] }

/-- The output instruction: function 0 writes a character, function 1 a mode word that is
ignored. -/
def output (c : Console T) (i : Instruction) (m : Machine) : Reply (Console T) :=
  match i.function.toNat with
  | 0 => c.writeCharacter m
  | 1 => .succeed c m
  | _ => .refuse i c m

/-- Carries out an instruction. `willRetry` says whether the program will try again until the
instruction succeeds. -/
def perform (c : Console T) (i : Instruction) (willRetry : Bool) (m : Machine) :
    Reply (Console T) :=
  match i.kind with
  | .control => .idle c m
  | .sense => c.sense i m
  | .input => c.input i willRetry m
  | .output => c.output i m

end Console

end PeripheralBus
