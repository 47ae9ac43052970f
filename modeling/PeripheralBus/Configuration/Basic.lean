import PeripheralBus.Fault
import PeripheralBus.Host.Path
import PeripheralBus.Text.Numeral

/-!
# Configurations

A configuration says which kind of device sits at which address, where the unit images are, how
drives lay out their records and how the sense switches are set.

* `DeviceTable`: device kinds by address text, ascending; every address text once.
* `Configuration.same`: whether two configurations say the same.
* `Configuration.deviceMap`: the table with its addresses read.
-/

namespace PeripheralBus

/-- The kinds of device that can be configured. -/
inductive DeviceKind where
  | console
  | tape
  | panel
  | disk
  | null
  deriving DecidableEq, Repr

namespace DeviceKind

/-- All kinds, in the order in which messages list them. -/
def all : List DeviceKind := [.console, .tape, .panel, .disk, .null]

/-- The name of a kind in a configuration. -/
def name : DeviceKind → String
  | .console => "console"
  | .tape => "tape"
  | .panel => "panel"
  | .disk => "disk"
  | .null => "null"

/-- The name of a kind in the log. -/
def label : DeviceKind → String
  | .console => "Console"
  | .tape => "Tape"
  | .panel => "Panel"
  | .disk => "Disk"
  | .null => "Null"

/-- The kind of a name. -/
def ofName? (name : String) : Option DeviceKind := all.find? (·.name = name)

end DeviceKind

/-- Inserts an entry by its key, in place of one with the same key. -/
def insertEntry (key : String) (kind : DeviceKind) :
    List (String × DeviceKind) → List (String × DeviceKind)
  | [] => [(key, kind)]
  | e :: rest =>
    if key < e.1 then (key, kind) :: e :: rest
    else if key = e.1 then (key, kind) :: rest
    else e :: insertEntry key kind rest

theorem mem_insertEntry {key : String} {kind : DeviceKind} {x : String × DeviceKind}
    {entries : List (String × DeviceKind)} (h : x ∈ insertEntry key kind entries) :
    x = (key, kind) ∨ x ∈ entries := by
  induction entries with
  | nil => simpa [insertEntry] using h
  | cons e rest ih =>
    rw [insertEntry] at h
    by_cases hlt : key < e.1
    · rw [if_pos hlt] at h
      exact List.mem_cons.1 h
    · rw [if_neg hlt] at h
      by_cases heq : key = e.1
      · rw [if_pos heq] at h
        exact (List.mem_cons.1 h).imp_right (List.mem_cons_of_mem e)
      · rw [if_neg heq] at h
        rcases List.mem_cons.1 h with rfl | h
        · exact Or.inr List.mem_cons_self
        · exact (ih h).imp_right (List.mem_cons_of_mem e)

/-- Inserting keeps the keys ascending. -/
theorem pairwise_insertEntry {key : String} {kind : DeviceKind}
    {entries : List (String × DeviceKind)} (h : entries.Pairwise (·.1 < ·.1)) :
    (insertEntry key kind entries).Pairwise (·.1 < ·.1) := by
  induction entries with
  | nil => simp [insertEntry]
  | cons e rest ih =>
    obtain ⟨hfirst, hrest⟩ := List.pairwise_cons.1 h
    rw [insertEntry]
    by_cases hlt : key < e.1
    · rw [if_pos hlt]
      refine List.pairwise_cons.2 ⟨fun x hx => ?_, h⟩
      rcases List.mem_cons.1 hx with rfl | hx
      · exact hlt
      · exact String.lt_trans hlt (hfirst x hx)
    · rw [if_neg hlt]
      by_cases heq : key = e.1
      · rw [if_pos heq]
        exact List.pairwise_cons.2 ⟨fun x hx => heq ▸ hfirst x hx, hrest⟩
      · rw [if_neg heq]
        refine List.pairwise_cons.2 ⟨fun x hx => ?_, ih hrest⟩
        rcases mem_insertEntry hx with rfl | hx
        · -- The key is neither below nor equal to the first one, so it comes after it.
          rcases Std.lt_trichotomy e.1 key with hgt | hsame | hbelow
          · exact hgt
          · exact absurd hsame.symm heq
          · exact absurd hbelow hlt
        · exact hfirst x hx

/-- Device kinds by address text. -/
structure DeviceTable where
  entries : List (String × DeviceKind)
  ascending : entries.Pairwise (·.1 < ·.1)
  deriving DecidableEq

namespace DeviceTable

/-- No devices. -/
def empty : DeviceTable := ⟨[], .nil⟩

/-- Adds a device, in place of the one under this key. -/
def insert (t : DeviceTable) (key : String) (kind : DeviceKind) : DeviceTable :=
  ⟨insertEntry key kind t.entries, pairwise_insertEntry t.ascending⟩

/-- The table of some entries; the last of one key counts. -/
def ofList (entries : List (String × DeviceKind)) : DeviceTable :=
  entries.foldl (fun t e => t.insert e.1 e.2) empty

/-- The usual places: console at 4, tape at 14, panel at 20, disks at 26 and 27. -/
def standard : DeviceTable :=
  ofList [("04", .console), ("14", .tape), ("20", .panel), ("26", .disk), ("27", .disk)]

end DeviceTable

/-- A configuration. -/
structure Configuration where
  /-- The directory of the unit images. -/
  diskDirectory : String := "."
  geometry : Pack.Geometry := {}
  senseSwitches : Word := 0
  devices : DeviceTable := .standard
  deriving DecidableEq

/-- Reads a device address: octal, at most 77. -/
def parseAddress (key : String) : Except Fault UInt8 :=
  match Numeral.readOctal 256 key.toList with
  | .ok n =>
    if n ≤ 0o77 then .ok (UInt8.ofNat n) else .error (.configuration (.invalidAddress key))
  | .error _ => .error (.configuration (.invalidAddress key))

/-- Reads the addresses of table entries, up to the first one that is no address. -/
def readAddresses : List (String × DeviceKind) → Except Fault (List (UInt8 × DeviceKind))
  | [] => .ok []
  | (key, kind) :: rest =>
    match parseAddress key with
    | .error f => .error f
    | .ok address =>
      match readAddresses rest with
      | .error f => .error f
      | .ok map => .ok ((address, kind) :: map)

namespace Configuration

/-- Whether two configurations say the same; their directories may be spelled differently. -/
def same (c d : Configuration) : Bool :=
  Host.Path.same c.diskDirectory d.diskDirectory && c.geometry = d.geometry &&
    c.senseSwitches = d.senseSwitches && c.devices = d.devices

@[simp] theorem same_self (c : Configuration) : c.same c = true := by simp [same]

/-- The devices by address, in the order of their keys. -/
def deviceMap (c : Configuration) : Except Fault (List (UInt8 × DeviceKind)) :=
  readAddresses c.devices.entries

/-- Refuses a geometry with a flaw. -/
def checkGeometry (c : Configuration) : Except Fault Unit :=
  match c.geometry.flaw? with
  | some flaw => .error (.configuration (.geometry c.geometry flaw))
  | none => .ok ()

end Configuration

end PeripheralBus
