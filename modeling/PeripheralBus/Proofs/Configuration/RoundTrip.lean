import PeripheralBus.Configuration.Read
import PeripheralBus.Proofs.Json.Values

/-!
# Configurations survive being printed and read

A configuration is printed with all its fields in their order, a geometry likewise, and a device
table with its keys ascending. Reading goes by the names of the fields. So every configuration is
read back from its text as it was, whatever stands in its directory and its keys.

* `setOnce_bytes`: a printed field is set.
* `Geometry.readsBack`, `DeviceKind.readsBack`, `DeviceTable.readsBack`: the parts of a
  configuration.
* `Configuration.json_roundTrip`: **a configuration is read back from its text**, and loaded from a
  file of that text exactly when its geometry has no flaw.
-/

namespace PeripheralBus

open Json

/-- A printed field that was not set is set to its value. -/
theorem setOnce_bytes {α σ : Type} (name : String) {text : String}
    {reader : Bytes → Except Failure (α × Bytes)} {value : α} (h : ReadsBack reader text value)
    (update : α → σ) {rest : Bytes} (hrest : Follows rest) :
    setOnce name none reader update (byte ':' :: (bytes text ++ rest)) =
      .ok (update value, rest) := by
  rw [setOnce, if_neg (by simp), readValue_bytes h hrest]

/-! ## Geometries -/

namespace Pack.Geometry

theorem readsBack_field (n : UInt32) : ReadsBack readField (toString n.toNat) n := by
  intro rest hrest
  have hread := readsBack_unsigned "u32" n.toNat_lt (by decide) rest hrest
  rw [readField]
  simp only [UInt32.size, hread, UInt32.ofNat_toNat]

/-- The fields of a printed geometry are set one after the other. -/
theorem takesAll_fields (g : Geometry) :
    TakesAll readMember {}
      [("heads", toString g.heads.toNat), ("sectorsPerTrack", toString g.sectorsPerTrack.toNat),
        ("sectorBytes", toString g.sectorBytes.toNat)]
      ⟨some g.heads, some g.sectorsPerTrack, some g.sectorBytes⟩ := by
  refine .cons ⟨some g.heads, none, none⟩ ?_
    (.cons ⟨some g.heads, some g.sectorsPerTrack, none⟩ ?_ (.cons _ ?_ (.nil _)))
  · intro rest hrest
    rw [readMember, if_pos rfl, setOnce_bytes _ (readsBack_field _) _ hrest]
  · intro rest hrest
    rw [readMember, if_neg (by decide), if_pos rfl, setOnce_bytes _ (readsBack_field _) _ hrest]
  · intro rest hrest
    rw [readMember, if_neg (by decide), if_neg (by decide), if_pos rfl,
      setOnce_bytes _ (readsBack_field _) _ hrest]

/-- **A printed geometry is read back.** -/
theorem readsBack (g : Geometry) : ReadsBack readJson g.toJson g := by
  apply readsBack_record
  intro rest
  rw [readObject, readMembers_members g.takesAll_fields]

end Pack.Geometry

/-! ## Device tables -/

/-- **A printed kind is read back.** -/
theorem DeviceKind.readsBack (kind : DeviceKind) : ReadsBack readJson (string kind.name) kind := by
  intro rest hrest
  have hname : ofName? kind.name = some kind := by cases kind <;> rfl
  have htext := readsBack_string "variant identifier" kind.name rest hrest
  rw [bytes_string, List.cons_append] at htext ⊢
  rw [readJson, skipBlanks_cons rfl]
  simp only [if_neg (show byte '"' ≠ byte '\x7b' by decide), if_true, readName, htext, ofNameBefore,
    hname]

/-- An entry whose key comes behind all others is added at the end. -/
theorem insertEntry_of_lt {key : String} {kind : DeviceKind} {entries : List (String × DeviceKind)}
    (h : ∀ e ∈ entries, e.1 < key) : insertEntry key kind entries = entries ++ [(key, kind)] := by
  induction entries with
  | nil => rfl
  | cons e rest ih =>
    obtain ⟨he, hrest⟩ := List.forall_mem_cons.1 h
    have hne : key ≠ e.1 := by
      rintro rfl
      exact String.lt_irrefl _ he
    rw [insertEntry, if_neg (String.lt_asymm he), if_neg hne, ih hrest, List.cons_append]

namespace DeviceTable

/-- A printed entry is inserted. -/
theorem takes_entry (t : DeviceTable) (e : String × DeviceKind) :
    Takes readMember t e.1 (string e.2.name) (t.insert e.1 e.2) := by
  intro rest hrest
  rw [readMember, readValue_bytes e.2.readsBack hrest]

/-- **Entries are read one behind the other**, since their keys ascend. -/
theorem takesAll_entries {t last : DeviceTable} {entries : List (String × DeviceKind)}
    (h : last.entries = t.entries ++ entries) :
    TakesAll readMember t (entries.map fun e => (e.1, string e.2.name)) last := by
  -- the table so far is the beginning of the last one, whose keys ascend
  induction entries generalizing t with
  | nil =>
    obtain rfl : t = last := by
      cases t; cases last; simpa using h.symm
    exact .nil t
  | cons e entries ih =>
    have hlt : ∀ x ∈ t.entries, x.1 < e.1 := by
      have hascending := last.ascending
      rw [h] at hascending
      intro x hx
      exact (List.pairwise_append.1 hascending).2.2 x hx e List.mem_cons_self
    have hinsert : (t.insert e.1 e.2).entries = t.entries ++ [e] := insertEntry_of_lt hlt
    refine .cons _ (takes_entry t e) (ih ?_)
    rw [h, hinsert, List.append_assoc, List.singleton_append]

/-- **A printed device table is read back.** -/
theorem readsBack (t : DeviceTable) : ReadsBack readJson t.toJson t := by
  intro rest _
  have hmembers : TakesAll readMember empty (t.entries.map fun e => (e.1, string e.2.name)) t :=
    takesAll_entries rfl
  rw [toJson, bytes_object, List.cons_append, List.append_assoc, List.singleton_append, readJson,
    skipBlanks_cons rfl]
  simp only [if_true, readMembers_members hmembers]

end DeviceTable

/-! ## Configurations -/

namespace Configuration

theorem readsBack_switches (w : Word) : ReadsBack readSwitches (toString w.toNat) w := by
  intro rest hrest
  have hread := readsBack_unsigned "u16" w.toNat_lt (by decide) rest hrest
  rw [readSwitches]
  simp only [UInt16.size, hread, UInt16.ofNat_toNat]

/-- The fields of a printed configuration are set one after the other. -/
theorem takesAll_fields (c : Configuration) :
    TakesAll readMember {}
      [("diskDir", string c.diskDirectory), ("geometry", c.geometry.toJson),
        ("senseSwitches", toString c.senseSwitches.toNat), ("devices", c.devices.toJson)]
      ⟨some c.diskDirectory, some c.geometry, some c.senseSwitches, some c.devices⟩ := by
  refine .cons ⟨some c.diskDirectory, none, none, none⟩ ?_
    (.cons ⟨some c.diskDirectory, some c.geometry, none, none⟩ ?_
      (.cons ⟨some c.diskDirectory, some c.geometry, some c.senseSwitches, none⟩ ?_
        (.cons _ ?_ (.nil _))))
  · intro rest hrest
    have hdirectory : ReadsBack readDirectory (string c.diskDirectory) c.diskDirectory :=
      readsBack_string _ _
    rw [readMember, if_pos rfl, setOnce_bytes _ hdirectory _ hrest]
  · intro rest hrest
    rw [readMember, if_neg (by decide), if_pos rfl, setOnce_bytes _ c.geometry.readsBack _ hrest]
  · intro rest hrest
    rw [readMember, if_neg (by decide), if_neg (by decide), if_pos rfl,
      setOnce_bytes _ (readsBack_switches _) _ hrest]
  · intro rest hrest
    rw [readMember, if_neg (by decide), if_neg (by decide), if_neg (by decide), if_pos rfl,
      setOnce_bytes _ c.devices.readsBack _ hrest]

/-- **A printed configuration is read back.** -/
theorem readsBack (c : Configuration) : ReadsBack readJson c.toJson c := by
  intro rest hrest
  -- all fields were printed, so none of the usual values is used
  have hrecord : ReadsBack (readRecord "struct MachineConfig" (readElements elementReaders true {})
      (readMembers readMember {})) c.toJson _ :=
    readsBack_record (readMembers_members c.takesAll_fields)
  rw [readJson, hrecord rest hrest]
  rfl

theorem ofJson_bytes (c : Configuration) : ofJson (bytes c.toJson) = .ok c :=
  complete_bytes c.readsBack

/-- **Configurations survive being printed and read.** Take any configuration: any directory, any
geometry, any switches, any devices under any keys. Reading its text gives it back. So does loading
a file that holds this text, exactly when the geometry has no flaw. -/
theorem json_roundTrip (c : Configuration) :
    ofJson (bytes c.toJson) = .ok c ∧
    ∀ (files : Host.Files) (path : String) (content : Host.Content),
      files.content path = .ok content → content.toList = bytes c.toJson →
      (load files path = .ok c ↔ c.geometry.flaw? = none) := by
  refine ⟨c.ofJson_bytes, ?_⟩
  intro files path content hfile hcontent
  have htext : files.text path = .ok (bytes c.toJson) := by
    have hutf8 : (String.fromUTF8? ⟨(bytes c.toJson).toArray⟩).isSome := by
      rw [fromUTF8?_bytes]
      rfl
    simp [Host.Files.text, hfile, hcontent, hutf8, bind, Except.bind]
  rw [load, htext]
  simp only [ofJson_bytes, checkGeometry]
  cases c.geometry.flaw? <;> simp

end Configuration

/-- A file of some bytes holds just them. -/
theorem Host.Content.toList_ofByteArray (b : ByteArray) :
    (ofByteArray b).toList = b.data.toList := by
  have hlength : (ofByteArray b).toList.length = b.data.toList.length := by
    simp [toList, slice, ofByteArray]
  apply List.ext_getElem hlength
  intro i _ hi
  have hbyte : b.data[i]? = some b.data[i] := Array.getElem?_eq_getElem hi
  simp [toList, slice, ofByteArray, hbyte]

/-- A configuration with a quote, a backslash, a control character and a letter outside ASCII in its
texts. -/
def quotedEverywhere : Configuration where
  diskDirectory := "disks\\\"Ü\""
  devices := ⟨[("\x01\"\\é", .disk)], by decide⟩

/-- The file of its text is loaded as this configuration. -/
theorem json_roundTrip_quoted :
    let content := Host.Content.ofByteArray quotedEverywhere.toJson.toUTF8
    let files := Host.Files.ofList [("pio.json", .ok (.file content))]
    content.toList = bytes quotedEverywhere.toJson ∧
      Configuration.load files "pio.json" = .ok quotedEverywhere := by
  intro content files
  have hcontent : content.toList = bytes quotedEverywhere.toJson :=
    Host.Content.toList_ofByteArray _
  have hload :=
    (Configuration.json_roundTrip quotedEverywhere).2 files "pio.json" content rfl hcontent
  exact ⟨hcontent, hload.2 (by decide)⟩

end PeripheralBus
