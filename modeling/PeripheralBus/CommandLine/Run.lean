import PeripheralBus.CommandLine.Arguments
import PeripheralBus.Configuration.Build
import PeripheralBus.Configuration.Read
import PeripheralBus.Line.KeyboardTerminal
import PeripheralBus.Pack.DirectoryCabinet

/-!
# Running instructions

The instruction words of the command line are stored at every other word from the origin on, and
each is carried out as soon as it is stored, with the instruction pointer at the word after it. A
word that is no I/O instruction, or a fault, ends the run.

* `executeAll`: the instruction words one after the other.
* `run`: the bus, the image, the registers, the instructions.
-/

namespace PeripheralBus.CommandLine

open Line Pack

/-- The address of the first instruction, unless the command line says otherwise. -/
def usualOrigin : Word := 0o100

/-- The configuration: the one in the file that the command line names, with its disk directory. -/
def configurationFor (a : Arguments) (files : Host.Files) : Except Fault Configuration := do
  let c ← match a.configuration with
    | some path => Configuration.load files path
    | none => .ok {}
  .ok { c with diskDirectory := a.diskDirectory.getD c.diskDirectory }

section

variable {T S : Type} [Terminal T] [Cabinet S]

/-- Stores an instruction word and points behind it. -/
def place (m : Machine) (address word : Word) : Machine :=
  { m.write address word with rp := address + 1 }

/-- The log's line about an instruction that was carried out. -/
def instructionMessage (address : Word) (i : Instruction) (m : Machine) : Event :=
  .debug .runner (s!"'{Octal.text address.toNat} {i.text}: A='{Octal.padded 6 m.a.toNat} " ++
    s!"skip={decide (m.rp ≠ address + 1)}")

/-- Stores and carries out instruction words, the first at `address`. There is no reply when a
channel program has not ended after `limit` orders. -/
def executeAll (limit : Nat) : List Word → Word → Bus T S → Machine → Option (Reply (Bus T S))
  | [], _, bus, m => some (.idle bus m)
  | word :: rest, address, bus, m =>
    match Instruction.ofWord? word with
    | none => some { result := .error (.notAnInstruction word), device := bus, machine := m }
    | some i =>
      match bus.dispatch limit i (place m address word) with
      | none => none
      | some reply =>
        match reply.result with
        | .error _ => some reply
        | .ok () =>
          (executeAll limit rest (address + 2) reply.device reply.machine).map fun last =>
            { last with
              events := reply.events ++ instructionMessage address i reply.machine :: last.events }

/-- The machine before the first instruction: with the image, if there is one, and the initial
registers. -/
def prepare (a : Arguments) (files : Host.Files) : Except Fault (List Event × Machine) := do
  let (events, memory) ← match a.image with
    | none => .ok ([], Memory.zero)
    | some path =>
      match files.content path with
      | .error e => .error (Fault.host e)
      | .ok content =>
        let address := a.loadAddress.getD 0
        .ok ([.message ⟨.info, .runner, s!"loaded {path} ({content.wordCount} words) " ++
            s!"at '{Octal.text address.toNat}"⟩],
          Memory.zero.storeContent address content)
  .ok (events, { memory, a := a.accumulator.getD 0, keys := a.keys.getD 0 })

/-- Carries out a command line with a terminal at the console. The bus is there once it could be
built. -/
def run (limit : Nat) (a : Arguments) (c : Configuration) (files : Host.Files) (terminal : T)
    (cabinet : S) : Option (Reply (Option (Bus T S))) :=
  match c.build terminal cabinet with
  | (events, .error f) => some { result := .error f, device := none, machine := {}, events }
  | (built, .ok bus) =>
    match prepare a files with
    | .error f => some { result := .error f, device := some bus, machine := {}, events := built }
    | .ok (loaded, m) =>
      (executeAll limit a.instructions (a.origin.getD usualOrigin) bus m).map fun reply =>
        { reply.map some with events := built ++ loaded ++ reply.events }

end

/-- What has reached the screen of a terminal on the bus. -/
def shownBy (bus : Option (Bus KeyboardTerminal DirectoryCabinet)) : List UInt8 :=
  match bus with
  | none => []
  | some b =>
    b.devices.toList.flatMap fun
      | .console c => c.terminal.screen.toList
      | _ => []

/-- Carries out a command line with a keyboard and the directory of unit images. -/
def runAtKeyboard (limit : Nat) (a : Arguments) (c : Configuration) (files : Host.Files)
    (keyboard : KeyboardTerminal) :
    Option (Reply (Option (Bus KeyboardTerminal DirectoryCabinet))) :=
  run limit a c files keyboard (⟨c.diskDirectory, files⟩ : DirectoryCabinet)

end PeripheralBus.CommandLine
