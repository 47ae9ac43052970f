import PeripheralBus.Configuration.Basic
import PeripheralBus.Host.Files
import PeripheralBus.Json.Read

/-!
# Reading configurations

A configuration is a JSON object with the fields `diskDir`, `geometry`, `senseSwitches` and
`devices`, each of which may be missing; or a list of their values in this order, which may be cut
short. Other fields are skipped. A geometry has the fields `heads`, `sectorsPerTrack` and
`sectorBytes`, all of them needed.

* `Configuration.ofJson`: the configuration of a text.
* `Configuration.load`: the configuration in a file, with its geometry checked.
-/

namespace PeripheralBus

open Json

/-- Sets a field that must not have been set before. -/
def setOnce {α σ : Type} (name : String) (old : Option α)
    (reader : Bytes → Except Failure (α × Bytes)) (update : α → σ) (s : Bytes) :
    Except Failure (σ × Bytes) :=
  if old.isSome then .error (duplicate name s)
  else
    match readValue reader s with
    | .error f => .error f
    | .ok (value, rest) => .ok (update value, rest)

/-- Skips the value of an unknown field. -/
def skipField {σ : Type} (state : σ) (s : Bytes) : Except Failure (σ × Bytes) :=
  match readColon s with
  | .error f => .error f
  | .ok rest =>
    match skipValue rest with
    | .error f => .error f
    | .ok rest => .ok (state, rest)

namespace Pack.Geometry

/-- A number of 32 bits. -/
def readField (s : Bytes) : Except Failure (UInt32 × Bytes) :=
  match readUnsigned UInt32.size "u32" s with
  | .error f => .error f
  | .ok (n, rest) => .ok (UInt32.ofNat n, rest)

/-- The fields of a geometry that have been read. -/
structure Fields where
  heads : Option UInt32 := none
  sectorsPerTrack : Option UInt32 := none
  sectorBytes : Option UInt32 := none

/-- One member of a geometry object. -/
def readMember (g : Fields) (key : String) (s : Bytes) : Except Failure (Fields × Bytes) :=
  if key = "heads" then
    setOnce key g.heads readField (fun n => { g with heads := some n }) s
  else if key = "sectorsPerTrack" then
    setOnce key g.sectorsPerTrack readField (fun n => { g with sectorsPerTrack := some n }) s
  else if key = "sectorBytes" then
    setOnce key g.sectorBytes readField (fun n => { g with sectorBytes := some n }) s
  else skipField g s

/-- A geometry after its opening brace. -/
def readObject (s : Bytes) : Except Failure (Geometry × Bytes) :=
  match readMembers readMember {} s with
  | .error f => .error f
  | .ok (g, rest) =>
    match g.heads, g.sectorsPerTrack, g.sectorBytes with
    | none, _, _ => .error (.mismatch (.missingField "heads") rest)
    | _, none, _ => .error (.mismatch (.missingField "sectorsPerTrack") rest)
    | _, _, none => .error (.mismatch (.missingField "sectorBytes") rest)
    | some heads, some sectorsPerTrack, some sectorBytes =>
      .ok (⟨heads, sectorsPerTrack, sectorBytes⟩, rest)

/-- Element `i` of a geometry list. -/
def readElement (i : Nat) (s : Bytes) : Except Failure (UInt32 × Bytes) :=
  match nextElement? (i = 0) s with
  | .error f => .error f
  | .ok (.inr rest) =>
    .error (.mismatch (.length i "struct DiskGeometry with 3 elements") rest)
  | .ok (.inl s) => readField s

/-- A geometry after its opening bracket. -/
def readList (s : Bytes) : Except Failure (Geometry × Bytes) := do
  let (heads, s) ← readElement 0 s
  let (sectorsPerTrack, s) ← readElement 1 s
  let (sectorBytes, s) ← readElement 2 s
  let s ← closeList s
  .ok (⟨heads, sectorsPerTrack, sectorBytes⟩, s)

/-- A geometry. -/
def readJson (s : Bytes) : Except Failure (Geometry × Bytes) :=
  readRecord "struct DiskGeometry" readList readObject s

end Pack.Geometry

namespace DeviceKind

/-- The kind of a name that ends before `rest`. -/
def ofNameBefore (name : String) (rest : Bytes) : Except Failure (DeviceKind × Bytes) :=
  match ofName? name with
  | some kind => .ok (kind, rest)
  | none => .error (.mismatch (.unknownVariant name (all.map DeviceKind.name)) rest)

/-- A kind by its name as a text. -/
def readName (expected : String) (s : Bytes) : Except Failure (DeviceKind × Bytes) :=
  match readText expected s with
  | .error f => .error f
  | .ok (name, rest) => ofNameBefore name rest

/-- The literal null. -/
def readNull (s : Bytes) : Except Failure Bytes :=
  match skipBlanks s with
  | [] => .error (.ends .value)
  | b :: rest =>
    if b = byte 'n' then scanWord "null" rest else .error (wrongType "unit" (b :: rest))

/-- A kind as the key of an object. The object must not be empty. -/
def readKey (s : Bytes) : Except Failure (DeviceKind × Bytes) :=
  match skipBlanks s with
  | [] => .error (.ends .object)
  | b :: rest =>
    if b = byte '"' then readName "variant identifier" (b :: rest)
    else if b = byte '\x7d' then .error (.atNext .expectedValue (b :: rest))
    else .error (.atNext .keyNotString (b :: rest))

/-- A kind as the key of an object with the value null, after the opening brace. -/
def readTagged (s : Bytes) : Except Failure (DeviceKind × Bytes) := do
  let (kind, s) ← readKey s
  let s ← readColon s
  let s ← readNull s
  match skipBlanks s with
  | [] => .error (.ends .object)
  | b :: rest =>
    if b = byte '\x7d' then .ok (kind, rest) else .error (.after .expectedValue (b :: rest))

/-- A kind, as a text or as an object. -/
def readJson (s : Bytes) : Except Failure (DeviceKind × Bytes) :=
  match skipBlanks s with
  | [] => .error (.ends .value)
  | b :: rest =>
    if b = byte '\x7b' then readTagged rest
    else if b = byte '"' then readName "variant identifier" (b :: rest)
    else .error (.atNext .expectedValue (b :: rest))

end DeviceKind

namespace DeviceTable

/-- One member of a device table. -/
def readMember (t : DeviceTable) (key : String) (s : Bytes) :
    Except Failure (DeviceTable × Bytes) :=
  match readValue DeviceKind.readJson s with
  | .error f => .error f
  | .ok (kind, rest) => .ok (t.insert key kind, rest)

/-- A device table; of two members of one key the later counts. -/
def readJson (s : Bytes) : Except Failure (DeviceTable × Bytes) :=
  match skipBlanks s with
  | [] => .error (.ends .value)
  | b :: rest =>
    if b = byte '\x7b' then readMembers readMember empty rest
    else .error (wrongType "a map" (b :: rest))

end DeviceTable

namespace Configuration

/-- The fields of a configuration that have been read. -/
structure Fields where
  diskDirectory : Option String := none
  geometry : Option Pack.Geometry := none
  senseSwitches : Option Word := none
  devices : Option DeviceTable := none

/-- The configuration with these fields, and with the usual values for the others. -/
def Fields.toConfiguration (f : Fields) : Configuration :=
  let usual : Configuration := {}
  { diskDirectory := f.diskDirectory.getD usual.diskDirectory
    geometry := f.geometry.getD usual.geometry
    senseSwitches := f.senseSwitches.getD usual.senseSwitches
    devices := f.devices.getD usual.devices }

/-- The directory of the unit images. -/
def readDirectory (s : Bytes) : Except Failure (String × Bytes) := readText "path string" s

/-- The setting of the sense switches. -/
def readSwitches (s : Bytes) : Except Failure (Word × Bytes) :=
  match readUnsigned UInt16.size "u16" s with
  | .error f => .error f
  | .ok (n, rest) => .ok (UInt16.ofNat n, rest)

/-- One member of a configuration object. -/
def readMember (f : Fields) (key : String) (s : Bytes) : Except Failure (Fields × Bytes) :=
  if key = "diskDir" then
    setOnce key f.diskDirectory readDirectory (fun d => { f with diskDirectory := some d }) s
  else if key = "geometry" then
    setOnce key f.geometry Pack.Geometry.readJson (fun g => { f with geometry := some g }) s
  else if key = "senseSwitches" then
    setOnce key f.senseSwitches readSwitches (fun n => { f with senseSwitches := some n }) s
  else if key = "devices" then
    setOnce key f.devices DeviceTable.readJson (fun d => { f with devices := some d }) s
  else skipField f s

/-- Reads the elements of a configuration list by these readers, until the list ends. -/
def readElements : List (Fields → Bytes → Except Failure (Fields × Bytes)) → Bool → Fields →
    Bytes → Except Failure (Fields × Bytes)
  | [], _, f, s =>
    match closeList s with
    | .error e => .error e
    | .ok rest => .ok (f, rest)
  | reader :: more, first, f, s =>
    match nextElement? first s with
    | .error e => .error e
    | .ok (.inr rest) => .ok (f, rest)
    | .ok (.inl s) =>
      match reader f s with
      | .error e => .error e
      | .ok (f, rest) => readElements more false f rest

/-- Sets a field from an element. -/
def setFrom {α : Type} (reader : Bytes → Except Failure (α × Bytes))
    (update : Fields → α → Fields) (f : Fields) (s : Bytes) : Except Failure (Fields × Bytes) :=
  match reader s with
  | .error e => .error e
  | .ok (value, rest) => .ok (update f value, rest)

/-- The readers of the elements of a configuration list. -/
def elementReaders : List (Fields → Bytes → Except Failure (Fields × Bytes)) :=
  [setFrom readDirectory fun f d => { f with diskDirectory := some d },
    setFrom Pack.Geometry.readJson fun f g => { f with geometry := some g },
    setFrom readSwitches fun f n => { f with senseSwitches := some n },
    setFrom DeviceTable.readJson fun f d => { f with devices := some d }]

/-- A configuration. -/
def readJson (s : Bytes) : Except Failure (Configuration × Bytes) :=
  match readRecord "struct MachineConfig" (readElements elementReaders true {})
      (readMembers readMember {}) s with
  | .error f => .error f
  | .ok (fields, rest) => .ok (fields.toConfiguration, rest)

/-- The configuration of a whole text, given by its bytes. -/
def ofJson (text : Bytes) : Except Json.Error Configuration := complete readJson text

/-- Loads the configuration in a file. -/
def load (files : Host.Files) (path : String) : Except Fault Configuration :=
  match files.text path with
  | .error e => .error (.host e)
  | .ok text =>
    match ofJson text with
    | .error e => .error (.json e)
    | .ok c =>
      match c.checkGeometry with
      | .error f => .error f
      | .ok () => .ok c

end Configuration

end PeripheralBus
