import PeripheralBus.CommandLine.Run

/-!
# The program's output

* `reportLines`: the registers after a run, and the words to dump.
* `logEntry`: a message as the log shows it.
* `Outcome.ofArguments`: everything that the program does with a command line.
-/

namespace PeripheralBus.CommandLine

open Line Pack

/-- The registers after a run. -/
def registerLine (m : Machine) : String :=
  s!"A='{Octal.padded 6 m.a.toNat} keys='{Octal.padded 6 m.keys.toNat} " ++
    s!"rp='{Octal.padded 6 m.rp.toNat}"

/-- How many words a row of a dump has. -/
def rowLength : Nat := 8

/-- One row of a dump. -/
def dumpRow (address : Word) (words : List Word) : String :=
  s!"'{Octal.padded 6 address.toNat}: " ++
    " ".intercalate (words.map fun w => Octal.padded 6 w.toNat)

/-- The rows of a dump of words from an address on. -/
def rowsOf (address : Word) (words : List Word) : List String :=
  (List.range ((words.length + (rowLength - 1)) / rowLength)).map fun row =>
    dumpRow (address + UInt16.ofNat row * UInt16.ofNat rowLength)
      ((words.drop (row * rowLength)).take rowLength)

/-- A dump: at most so many words from an address on, up to the end of memory. -/
def dumpRows (m : Memory) (address : Word) (count : Nat) : List String :=
  rowsOf address (m.words address count)

/-- The report after a run. -/
def reportLines (m : Machine) (dump : Option (Word × Nat)) : List String :=
  registerLine m ::
    match dump with
    | some (address, count) => dumpRows m.memory address count
    | none => []

/-- A level in the log, five characters wide. -/
def levelText : Level → String
  | .error => "ERROR"
  | .warn => "WARN "
  | .info => "INFO "
  | .debug => "DEBUG"
  | .trace => "TRACE"

/-- Whether the log shows a level. Warnings and errors always show; tracing adds all but the
finest. -/
def shows (tracing : Bool) : Level → Bool
  | .error | .warn => true
  | .info | .debug => tracing
  | .trace => false

/-- A message as the log shows it, without control sequences. Further lines of its text are
indented. A command or string that the text leaves open takes the line break at the end with it. -/
def logEntry (m : Message) : String :=
  let text := m.text.toList.flatMap fun c => if c = '\n' then '\n' :: "    ".toList else [c]
  Text.streamed (s!"[{levelText m.level} {m.source.name}] " ++ String.ofList text ++ "\n")

/-- The log of some events. -/
def logText (tracing : Bool) (events : List Event) : String :=
  String.join (((Event.messages events).filter fun m => shows tracing m.level).map logEntry)

/-- What the program leaves behind. -/
structure Outcome where
  /-- The exit code: 0 after a run or with help, 1 after a fault, 2 for a command line that is
  refused. -/
  code : UInt8
  /-- Standard output. -/
  screen : List UInt8 := []
  /-- Standard error; of a refusal the complaint alone. -/
  diagnostics : String := ""

/-- The outcome of a run. -/
def Outcome.ofReply (tracing : Bool) (dump : Option (Word × Nat))
    (r : Reply (Option (Bus KeyboardTerminal DirectoryCabinet))) : Outcome :=
  let log := logText tracing r.events
  match r.result with
  | .ok () =>
    { code := 0
      screen := shownBy r.device
      diagnostics := log ++ Text.unlines (reportLines r.machine dump) }
  | .error f =>
    { code := 1
      screen := shownBy r.device
      diagnostics :=
        log ++ logEntry ⟨.error, .runner, f.message⟩ ++ Text.unlines ["", s!"Error: {f.message}"] }

/-- What to dump, if the command line says. -/
def dumpFor (a : Arguments) : Except TextFault (Option (Word × Nat)) :=
  match a.dump with
  | none => .ok none
  | some text => (parseDump text).map some

/-- What the program does with parsed arguments. There is no outcome when a channel program has not
ended after `limit` orders. -/
def Outcome.ofParsed (limit : Nat) (a : Arguments) (files : Host.Files)
    (keyboard : KeyboardTerminal) : Option Outcome :=
  match dumpFor a with
  | .error e => some { code := 1, diagnostics := Text.unlines [s!"Error: {Quoted.text e.message}"] }
  | .ok dump =>
    match configurationFor a files with
    | .error f => some { code := 1, diagnostics := Text.unlines [s!"Error: {f.message}"] }
    | .ok c => (runAtKeyboard limit a c files keyboard).map (Outcome.ofReply a.trace dump)

/-- What the program does with a command line. -/
def Outcome.ofArguments (limit : Nat) (arguments : List String) (files : Host.Files)
    (keyboard : KeyboardTerminal) : Option Outcome :=
  match Arguments.parse arguments with
  | .error .helpWanted =>
    some
      { code := 0
        screen := (Text.unlines [Complaint.message .helpWanted]).toUTF8.toList }
  | .error complaint =>
    some { code := 2, diagnostics := Text.streamed (Text.unlines [complaint.wording]) }
  | .ok a => Outcome.ofParsed limit a files keyboard

end PeripheralBus.CommandLine
