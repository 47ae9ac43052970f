import PeripheralBus.CommandLine.Words
import PeripheralBus.Text.ControlSequence
import PeripheralBus.Text.Lines

/-!
# Arguments

The command line is a sequence of settings and instruction words. A setting has a long name, most
have a letter as well; its value is the next argument or is attached to the name. After `--`
everything is an instruction word.

Values are looked at late: the value of a setting, or a run of instruction words, is read when the
next setting or the next kind of argument begins, or at the end. So an unknown setting further on
is reported before a bad value. A wish for help (`-h`, `--help`) counts as a setting here and ends
the reading.

* `Arguments.parse`: the arguments as settings, or the complaint.
* `Complaint.firstLine`: its wording.
-/

namespace PeripheralBus.CommandLine

/-- What can be set. -/
inductive Setting where
  | configuration
  | diskDirectory
  | image
  | loadAddress
  | origin
  | accumulator
  | keys
  | dump
  | trace
  deriving DecidableEq, Repr

namespace Setting

/-- All settings. -/
def all : List Setting :=
  [.configuration, .diskDirectory, .image, .loadAddress, .origin, .accumulator, .keys, .dump,
    .trace]

/-- The long name. -/
def long : Setting → String
  | .configuration => "config"
  | .diskDirectory => "disk-dir"
  | .image => "image"
  | .loadAddress => "at"
  | .origin => "origin"
  | .accumulator => "a-reg"
  | .keys => "keys"
  | .dump => "dump"
  | .trace => "trace"

/-- The letter. -/
def letter? : Setting → Option Char
  | .configuration => some 'c'
  | .diskDirectory => some 'd'
  | .image => some 'i'
  | .accumulator => some 'A'
  | .keys => some 'k'
  | .trace => some 't'
  | .loadAddress | .origin | .dump => none

/-- A setting as complaints name it: with what its value stands for, if it takes one. -/
def shown : Setting → String
  | .configuration => "--config <CONFIG>"
  | .diskDirectory => "--disk-dir <DISK_DIR>"
  | .image => "--image <IMAGE>"
  | .loadAddress => "--at <AT>"
  | .origin => "--origin <ORIGIN>"
  | .accumulator => "--a-reg <A>"
  | .keys => "--keys <KEYS>"
  | .dump => "--dump <DUMP>"
  | .trace => "--trace"

/-- Whether a setting takes a value. -/
def takesValue (s : Setting) : Bool := s ≠ .trace

/-- The setting of a long name. -/
def ofLong? (name : List Char) : Option Setting := all.find? fun s => s.long.toList = name

/-- The setting of a letter. -/
def ofLetter? (letter : Char) : Option Setting := all.find? fun s => s.letter? = some letter

end Setting

/-- The instruction words as complaints name them. -/
def instructionsShown : String := "<INSTRUCTIONS>..."

/-- Why a command line is not carried out. -/
inductive Complaint where
  /-- Nothing is wrong, but help is wanted instead. -/
  | helpWanted
  | unexpectedArgument (argument : String)
  | invalidValue (value argument : String) (cause : TextFault)
  | missingValue (argument : String)
  | repeatedArgument (argument : String)
  | surplusValue (value argument : String)
  | missingInstructions
  deriving DecidableEq, Repr

/-- A part of the command line as complaints quote it. -/
def cited (s : String) : String := "\x27" ++ Text.emphasized s ++ "\x27"

/-- The wording of a complaint for a terminal. -/
def Complaint.wording : Complaint → String
  | .helpWanted =>
    "Execute I/O instructions and disk channel programs\n\n" ++
      s!"Usage: pio [OPTIONS] {instructionsShown}"
  | .unexpectedArgument argument => s!"error: unexpected argument {cited argument} found"
  | .invalidValue value argument cause =>
    s!"error: invalid value {cited value} for {cited argument}: {cause.message}"
  | .missingValue argument =>
    s!"error: a value is required for {cited argument} but none was supplied"
  | .repeatedArgument argument =>
    s!"error: the argument {cited argument} cannot be used multiple times"
  | .surplusValue value argument =>
    s!"error: unexpected value {cited value} for {cited argument} found; no more were expected"
  | .missingInstructions => "error: the following required arguments were not provided:"

/-- The wording for whoever is not a terminal. -/
def Complaint.message (c : Complaint) : String := Text.plain c.wording

/-- The first line of the wording. -/
def Complaint.firstLine (c : Complaint) : String := Text.firstLine c.message

/-- A parsed command line. What was not given is absent. -/
structure Arguments where
  configuration : Option String := none
  diskDirectory : Option String := none
  image : Option String := none
  loadAddress : Option Word := none
  origin : Option Word := none
  accumulator : Option Word := none
  keys : Option Word := none
  dump : Option String := none
  trace : Bool := false
  instructions : List Word := []
  deriving DecidableEq, Repr

namespace Arguments

/-- Whether a setting was given. -/
def has (a : Arguments) : Setting → Bool
  | .configuration => a.configuration.isSome
  | .diskDirectory => a.diskDirectory.isSome
  | .image => a.image.isSome
  | .loadAddress => a.loadAddress.isSome
  | .origin => a.origin.isSome
  | .accumulator => a.accumulator.isSome
  | .keys => a.keys.isSome
  | .dump => a.dump.isSome
  | .trace => a.trace

/-- A path, which must not be empty. -/
def pathValue (s : Setting) (value : String) : Except Complaint String :=
  if value.isEmpty then .error (.missingValue s.shown) else .ok value

/-- A word, as a value of the argument that is shown so. -/
def wordValue (shown value : String) : Except Complaint Word :=
  match parseWord value with
  | .ok w => .ok w
  | .error cause => .error (.invalidValue value shown cause)

/-- Gives a setting its value. -/
def set (a : Arguments) (s : Setting) (value : String) : Except Complaint Arguments :=
  match s with
  | .configuration => do .ok { a with configuration := some (← pathValue s value) }
  | .diskDirectory => do .ok { a with diskDirectory := some (← pathValue s value) }
  | .image => do .ok { a with image := some (← pathValue s value) }
  | .loadAddress => do .ok { a with loadAddress := some (← wordValue s.shown value) }
  | .origin => do .ok { a with origin := some (← wordValue s.shown value) }
  | .accumulator => do .ok { a with accumulator := some (← wordValue s.shown value) }
  | .keys => do .ok { a with keys := some (← wordValue s.shown value) }
  | .dump => .ok { a with dump := some value }
  | .trace => .ok { a with trace := true }

/-- Gives a setting its value unless it has one. -/
def setOnce (a : Arguments) (s : Setting) (value : String) : Except Complaint Arguments :=
  if a.has s then .error (.repeatedArgument s.shown) else a.set s value

/-- Adds instruction words. -/
def addInstructions (a : Arguments) : List String → Except Complaint Arguments
  | [] => .ok a
  | text :: rest => do
    let w ← wordValue instructionsShown text
    { a with instructions := a.instructions ++ [w] }.addInstructions rest

end Arguments

/-- What has been met but not looked at yet. -/
inductive Pending where
  | nothing
  /-- A setting whose value is still to come. -/
  | awaiting (s : Setting)
  /-- A setting and its value. -/
  | given (s : Setting) (value : String)
  /-- Instruction words, the latest first. -/
  | instructions (latest : List String)
  deriving DecidableEq, Repr

/-- A command line read so far. -/
structure Reading where
  arguments : Arguments := {}
  pending : Pending := .nothing
  /-- Whether everything from here on is an instruction word. -/
  trailing : Bool := false
  deriving DecidableEq, Repr

namespace Reading

/-- Looks at what is pending. -/
def settle (r : Reading) : Except Complaint Reading :=
  match r.pending with
  | .nothing => .ok r
  | .awaiting s => .error (.missingValue s.shown)
  | .given s value => do
    .ok { r with arguments := ← r.arguments.setOnce s value, pending := .nothing }
  | .instructions latest => do
    .ok { r with arguments := ← r.arguments.addInstructions latest.reverse, pending := .nothing }

/-- A setting with its value attached, or without any. -/
def meet (r : Reading) (s : Setting) (value : String) : Except Complaint Reading := do
  let r ← r.settle
  .ok { r with arguments := ← r.arguments.setOnce s value }

/-- A setting whose value is the next argument. -/
def expect (r : Reading) (s : Setting) : Except Complaint Reading := do
  .ok { (← r.settle) with pending := .awaiting s }

/-- An instruction word. -/
def addWord (r : Reading) (text : String) : Except Complaint Reading :=
  match r.pending with
  | .instructions latest => .ok { r with pending := .instructions (text :: latest) }
  | _ => do .ok { (← r.settle) with pending := .instructions [text] }

/-- The wish for help, in place of everything that follows. -/
def askForHelp (r : Reading) : Except Complaint Reading := do
  let _ ← r.settle
  .error .helpWanted

/-- The long name that asks for help, with a value attached or not. -/
def readHelp (r : Reading) : Option (List Char) → Except Complaint Reading
  | some value => .error (.surplusValue (String.ofList value) "--help")
  | none => r.askForHelp

/-- A long name, with a value attached or not. -/
def readLong (r : Reading) (name : List Char) (value : Option (List Char)) :
    Except Complaint Reading :=
  if name = "help".toList then r.readHelp value
  else
    match Setting.ofLong? name with
    | none => .error (.unexpectedArgument ("--" ++ String.ofList name))
    | some s =>
      match s.takesValue, value with
      | true, some v => r.meet s (String.ofList v)
      | true, none => r.expect s
      | false, some v => .error (.surplusValue (String.ofList v) s.shown)
      | false, none => r.meet s ""

/-- Letters behind one dash. A letter that takes a value takes the rest, less an equals sign in
front. -/
def readLetters (r : Reading) : List Char → Except Complaint Reading
  | [] => .ok r
  | 'h' :: _ => r.askForHelp
  | c :: rest =>
    match Setting.ofLetter? c with
    | none => .error (.unexpectedArgument (String.ofList ['-', c]))
    | some s =>
      if s.takesValue then
        match rest with
        | [] => r.expect s
        | '=' :: value => r.meet s (String.ofList value)
        | value => r.meet s (String.ofList value)
      else
        match r.meet s "" with
        | .error e => .error e
        | .ok r => r.readLetters rest

/-- An argument that is neither a setting nor the end of settings: the value that is awaited, or
an instruction word. -/
def readValue (r : Reading) (text : String) : Except Complaint Reading :=
  match r.pending with
  | .awaiting s => .ok { r with pending := .given s text }
  | _ => r.addWord text

/-- One argument. -/
def read (r : Reading) (argument : String) : Except Complaint Reading :=
  if r.trailing then r.addWord argument
  else
    match argument.toList with
    | ['-', '-'] => .ok { r with trailing := true }
    | '-' :: '-' :: long =>
      match long.span (· ≠ '=') with
      | (name, _ :: value) => r.readLong name (some value)
      | (name, []) => r.readLong name none
    | '-' :: c :: letters => r.readLetters (c :: letters)
    | _ => r.readValue argument

/-- The end of the command line. -/
def finish (r : Reading) : Except Complaint Arguments := do
  let a := (← r.settle).arguments
  if a.instructions.isEmpty then .error .missingInstructions else .ok a

end Reading

/-- Parses a command line. -/
def Arguments.parse (arguments : List String) : Except Complaint Arguments := do
  (← arguments.foldlM Reading.read {}).finish

end PeripheralBus.CommandLine
