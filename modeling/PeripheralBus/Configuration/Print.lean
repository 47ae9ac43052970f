import PeripheralBus.Configuration.Basic

/-!
# Printing configurations

A configuration as one line of JSON without blanks, all fields in their order.

* `Configuration.toJson`: the text.
-/

namespace PeripheralBus

namespace Json

/-- Digits of base sixteen for a control character. -/
def hexDigits (n : Nat) : List Char := (Nat.toDigits 16 n).leftpad 4 '0'

/-- A character inside a JSON string: quote, backslash and controls are escaped. -/
def escape (c : Char) : List Char :=
  if c = '"' then ['\\', '"']
  else if c = '\\' then ['\\', '\\']
  else if c = '\x08' then ['\\', 'b']
  else if c = '\x0c' then ['\\', 'f']
  else if c = '\n' then ['\\', 'n']
  else if c = '\r' then ['\\', 'r']
  else if c = '\t' then ['\\', 't']
  else if c.toNat < 32 then '\\' :: 'u' :: hexDigits c.toNat
  else [c]

/-- A JSON string. -/
def string (s : String) : String :=
  String.ofList (['"'] ++ s.toList.flatMap escape ++ ['"'])

/-- A JSON object of members that are JSON texts already. -/
def object (members : List (String × String)) : String :=
  "\x7b" ++ ",".intercalate (members.map fun m => string m.1 ++ ":" ++ m.2) ++ "\x7d"

end Json

/-- A geometry as JSON. -/
def Pack.Geometry.toJson (g : Pack.Geometry) : String :=
  Json.object [("heads", toString g.heads.toNat),
    ("sectorsPerTrack", toString g.sectorsPerTrack.toNat),
    ("sectorBytes", toString g.sectorBytes.toNat)]

/-- A device table as JSON. -/
def DeviceTable.toJson (t : DeviceTable) : String :=
  Json.object (t.entries.map fun e => (e.1, Json.string e.2.name))

/-- A configuration as JSON. -/
def Configuration.toJson (c : Configuration) : String :=
  Json.object [("diskDir", Json.string c.diskDirectory), ("geometry", c.geometry.toJson),
    ("senseSwitches", toString c.senseSwitches.toNat), ("devices", c.devices.toJson)]

end PeripheralBus
