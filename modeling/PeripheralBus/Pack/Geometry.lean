import PeripheralBus.Machine

/-!
# Pack geometry

A record of a pack is named by track, head and record; the geometry turns the triple into a record
number and an offset in the unit image. Numbers are of 64 bits, and a step that would not fit has
no result.

* `Geometry.recordNumber?`, `Geometry.byteOffset?`: number and offset of a record.
* `Geometry.check`: no field is zero and the last record that an order can name ends inside the
  64-bit range.
-/

namespace PeripheralBus.Pack

/-- The product, if it fits 64 bits. -/
def product? (a b : UInt64) : Option UInt64 :=
  if a.toNat * b.toNat < UInt64.size then some (a * b) else none

/-- The sum, if it fits 64 bits. -/
def sum? (a b : UInt64) : Option UInt64 :=
  if a.toNat + b.toNat < UInt64.size then some (a + b) else none

/-- How a drive lays out its records. -/
structure Geometry where
  heads : UInt32 := 40
  sectorsPerTrack : UInt32 := 9
  sectorBytes : UInt32 := 2080
  deriving DecidableEq, Repr

namespace Geometry

/-- A geometry as messages show it. -/
def text (g : Geometry) : String :=
  "DiskGeometry \x7b heads: " ++ toString g.heads.toNat ++
    ", sectors_per_track: " ++ toString g.sectorsPerTrack.toNat ++
    ", sector_bytes: " ++ toString g.sectorBytes.toNat ++ " \x7d"

/-- The number of a record, counted from the start of the pack. -/
def recordNumber? (g : Geometry) (track : Word) (head record : UInt8) : Option UInt64 := do
  let perTrack := g.sectorsPerTrack.toUInt64
  let tracks ← product? track.toUInt64 g.heads.toUInt64
  let before ← product? tracks perTrack
  let within ← product? head.toUInt64 perTrack
  let start ← sum? before within
  sum? start record.toUInt64

/-- Where a record starts in the unit image. -/
def byteOffset? (g : Geometry) (track : Word) (head record : UInt8) : Option UInt64 := do
  let number ← g.recordNumber? track head record
  product? number g.sectorBytes.toUInt64

/-- What is wrong with a geometry. -/
inductive Flaw where
  /-- A field is zero. -/
  | zeroField
  /-- The last record does not end inside the 64-bit range. -/
  | tooLarge
  deriving DecidableEq, Repr

/-- The highest track, head and record that an order can name. -/
def lastRecord : Word × UInt8 × UInt8 := (0o1777, 0o77, 0o377)

/-- Where the last record ends. -/
def lastEnd? (g : Geometry) : Option UInt64 := do
  let offset ← g.byteOffset? lastRecord.1 lastRecord.2.1 lastRecord.2.2
  sum? offset g.sectorBytes.toUInt64

/-- The flaw of a geometry, if it has one. -/
def flaw? (g : Geometry) : Option Flaw :=
  if g.heads = 0 ∨ g.sectorsPerTrack = 0 ∨ g.sectorBytes = 0 then some .zeroField
  else if g.lastEnd?.isSome then none
  else some .tooLarge

end Geometry

end PeripheralBus.Pack
