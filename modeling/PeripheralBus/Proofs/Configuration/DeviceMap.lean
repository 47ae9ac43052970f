import Mathlib.Data.List.Forall2
import Mathlib.Data.String.Basic
import PeripheralBus.Proofs.Bus.Building
import PeripheralBus.Proofs.Text.Numeral

/-!
# The order of the devices

The table of devices ascends by the texts of its keys, and its addresses are read in that order. The
text of an address has room for an apostrophe, a plus sign and leading zeros. Among keys with the
same characters before their digits and as many digits, the texts ascend as the addresses do. Other
keys can come in any order: `14` comes before `4`.

* `IsAddress`, `parseAddress_eq_ok_iff`: the keys that are addresses, and which.
* `readAddresses_eq_ok_iff`: the addresses of a table.
* `readAddresses_of_first`, `exists_first_of_error`: a table is refused for its first key that is no
  address.
* `WrittenAlike`: the same characters before the digits, and as many characters.
* `lt_iff_of_writtenAlike`: **keys that are written alike ascend as their addresses do**.
* `Configuration.deviceMap_ordered`: what that says of a whole table.
* `deviceMap_disordered`: a table whose addresses do not ascend.
-/

namespace PeripheralBus

open Numeral

/-! ## Addresses -/

/-- The key is the text of a device address. -/
def IsAddress (key : String) : Prop := ∃ address, parseAddress key = .ok address

/-- An address is an octal numeral of a byte, which is then looked at once more. -/
theorem parseAddress_eq_ok_iff_readOctal {key : String} {address : UInt8} :
    parseAddress key = .ok address ↔
      readOctal 256 key.toList = .ok address.toNat ∧ address.toNat ≤ 0o77 := by
  unfold parseAddress
  cases h : readOctal 256 key.toList with
  | error fault => simp
  | ok n =>
    obtain ⟨-, -, -, -, -, hn⟩ := (readOctal_eq_ok_iff (by decide)).1 h
    have hsame : UInt8.ofNat n = address ↔ n = address.toNat := by
      rw [← UInt8.toNat_inj, UInt8.toNat_ofNat_of_lt' hn]
    -- the second look refuses the bytes behind the last address
    by_cases hlast : n ≤ 0o77
    · simp only [if_pos hlast, Except.ok.injEq, hsame]
      omega
    · simp only [if_neg hlast, reduceCtorEq, Except.ok.injEq, false_iff]
      omega

/-- **The texts of an address**: its octal digits behind one of the fronts. -/
theorem parseAddress_eq_ok_iff {key : String} {address : UInt8} :
    parseAddress key = .ok address ↔
      ∃ front ∈ fronts, ∃ digits, key.toList = front ++ digits ∧ Spells 8 digits address.toNat ∧
        address.toNat ≤ 0o77 := by
  rw [parseAddress_eq_ok_iff_readOctal, readOctal_eq_ok_iff (by decide)]
  constructor
  · rintro ⟨⟨front, hfront, digits, hkey, hspells, -⟩, hlast⟩
    exact ⟨front, hfront, digits, hkey, hspells, hlast⟩
  · rintro ⟨front, hfront, digits, hkey, hspells, hlast⟩
    exact ⟨⟨front, hfront, digits, hkey, hspells, by omega⟩, hlast⟩

theorem parseAddress_lt {key : String} {address : UInt8} (h : parseAddress key = .ok address) :
    address.toNat < 64 := by
  obtain ⟨-, -, -, -, -, hlast⟩ := parseAddress_eq_ok_iff.1 h
  omega

/-- A key that is no address is told by a fault of its own. -/
theorem parseAddress_of_not_isAddress {key : String} (h : ¬ IsAddress key) :
    parseAddress key = .error (.configuration (.invalidAddress key)) := by
  cases hkey : parseAddress key with
  | ok address => exact absurd ⟨address, hkey⟩ h
  | error fault =>
    unfold parseAddress at hkey
    split at hkey
    · split at hkey
      · cases hkey
      · exact hkey.symm
    · exact hkey.symm

variable {entries : List (String × DeviceKind)} {map : List (UInt8 × DeviceKind)}

/-- The entry is read as this place and kind. -/
def ReadAs (e : String × DeviceKind) (place : UInt8 × DeviceKind) : Prop :=
  parseAddress e.1 = .ok place.1 ∧ place.2 = e.2

/-- **A table is read entry by entry.** -/
theorem readAddresses_eq_ok_iff :
    readAddresses entries = .ok map ↔ List.Forall₂ ReadAs entries map := by
  induction entries generalizing map with
  | nil =>
    rw [readAddresses, Except.ok.injEq, List.forall₂_nil_left_iff]
    exact eq_comm
  | cons e rest ih =>
    constructor
    · intro h
      obtain ⟨address, others, hkey, hrest, rfl⟩ := readAddresses_cons_ok h
      exact .cons ⟨hkey, rfl⟩ (ih.1 hrest)
    · rintro (_ | ⟨⟨hkey, hkind⟩, hrest⟩)
      rename_i place others
      obtain ⟨address, kind⟩ := place
      obtain rfl : kind = e.2 := hkind
      rw [readAddresses, hkey]
      simp only [ih.2 hrest]

/-- **A table is refused** for its first key that is no address. -/
theorem readAddresses_of_first {before after : List (String × DeviceKind)} {key : String}
    {kind : DeviceKind} (hbefore : ∀ e ∈ before, IsAddress e.1) (hkey : ¬ IsAddress key) :
    readAddresses (before ++ (key, kind) :: after) =
      .error (.configuration (.invalidAddress key)) := by
  induction before with
  | nil =>
    rw [List.nil_append, readAddresses, parseAddress_of_not_isAddress hkey]
  | cons e before ih =>
    obtain ⟨⟨address, haddress⟩, hrest⟩ := List.forall_mem_cons.1 hbefore
    rw [List.cons_append, readAddresses, haddress]
    simp only [ih hrest]

/-- A table that is refused has a first key that is no address. -/
theorem exists_first_of_error {fault : Fault} (h : readAddresses entries = .error fault) :
    ∃ before key kind after, entries = before ++ (key, kind) :: after ∧
      (∀ e ∈ before, IsAddress e.1) ∧ ¬ IsAddress key := by
  induction entries generalizing fault with
  | nil => cases h
  | cons e rest ih =>
    cases hkey : parseAddress e.1 with
    | error reason =>
      refine ⟨[], e.1, e.2, rest, rfl, by simp, ?_⟩
      rintro ⟨address, haddress⟩
      cases hkey.symm.trans haddress
    | ok address =>
      cases hrest : readAddresses rest with
      | ok others =>
        rw [readAddresses, hkey] at h
        simp only [hrest, reduceCtorEq] at h
      | error reason =>
        obtain ⟨before, key, kind, after, rfl, hbefore, hbad⟩ := ih hrest
        exact ⟨e :: before, key, kind, after, rfl,
          List.forall_mem_cons.2 ⟨⟨address, hkey⟩, hbefore⟩, hbad⟩

/-- A table whose keys are all addresses is read. -/
theorem readAddresses_of_isAddress (h : ∀ e ∈ entries, IsAddress e.1) :
    ∃ map, readAddresses entries = .ok map := by
  cases hread : readAddresses entries with
  | ok map => exact ⟨map, rfl⟩
  | error fault =>
    obtain ⟨before, key, kind, after, rfl, -, hbad⟩ := exists_first_of_error hread
    exact absurd (h (key, kind) (by simp)) hbad

/-! ## Keys that are written alike -/

/-- What stands before the digits of a key. -/
def mark (key : String) : List Char := key.toList.takeWhile fun c => !c.isDigit

/-- **Two keys are written alike**: the same characters stand before their digits, and they have as
many characters. -/
def WrittenAlike (k l : String) : Prop := mark k = mark l ∧ k.toList.length = l.toList.length

/-- What stands before the digits of an address is its front. -/
theorem mark_eq {key : String} {front digits : List Char} {n : ℕ} (hfront : front ∈ fronts)
    (hkey : key.toList = front ++ digits) (h : Spells 8 digits n) : mark key = front := by
  have hmarks : ∀ front ∈ fronts, ∀ c ∈ front, (!c.isDigit) = true := by simp [fronts, signs]
  rw [mark, hkey, List.takeWhile_append_of_pos (hmarks front hfront)]
  obtain ⟨c, rest, rfl⟩ := List.exists_cons_of_ne_nil h.ne_nil
  have hdigit : c.isDigit = true := (h.isDigit c List.mem_cons_self).isDigit (by decide)
  simp [hdigit]

/-- Texts with the same beginning are ordered by what follows it. -/
theorem append_lt_append_iff (front digits digits' : List Char) :
    front ++ digits < front ++ digits' ↔ digits < digits' := by
  induction front with
  | nil => rfl
  | cons c front ih => simp [ih]

/-- **Keys that are written alike ascend as their addresses do.** -/
theorem lt_iff_of_writtenAlike {k l : String} {a b : UInt8} (h : WrittenAlike k l)
    (hk : parseAddress k = .ok a) (hl : parseAddress l = .ok b) : k < l ↔ a < b := by
  obtain ⟨front, hfront, digits, hkey, hspells, -⟩ := parseAddress_eq_ok_iff.1 hk
  obtain ⟨front', hfront', digits', hkey', hspells', -⟩ := parseAddress_eq_ok_iff.1 hl
  -- the digits begin where the mark ends, so both keys have one front
  obtain rfl : front = front' := by
    rw [← mark_eq hfront hkey hspells, ← mark_eq hfront' hkey' hspells']
    exact h.1
  have hlength : digits.length = digits'.length := by
    have hboth := h.2
    rw [hkey, hkey', List.length_append, List.length_append] at hboth
    omega
  rw [String.lt_iff_toList_lt, hkey, hkey', append_lt_append_iff, UInt8.lt_iff_toNat_lt,
    ← hspells.value, ← hspells'.value,
    ofDigitChars_lt_iff hlength hspells.isDigit hspells'.isDigit]

/-- Of two entries that are written alike the first one is read with the lower address. -/
theorem pairwise_zip_of_readAs (h : List.Forall₂ ReadAs entries map)
    (hascending : entries.Pairwise (·.1 < ·.1)) :
    (entries.zip map).Pairwise fun x y => WrittenAlike x.1.1 y.1.1 → x.2.1 < y.2.1 := by
  induction h with
  | nil => exact .nil
  | cons hfirst hrest ih =>
    obtain ⟨hlt, hascending⟩ := List.pairwise_cons.1 hascending
    refine .cons ?_ (ih hascending)
    rintro ⟨e, place⟩ hmem halike
    have hread : ReadAs e place := List.forall₂_zip hrest hmem
    exact (lt_iff_of_writtenAlike halike hfirst.1 hread.1).1 (hlt e (List.of_mem_zip hmem).1)

namespace Configuration

/-- **The devices are listed in the order of their keys**, which is that of their addresses as far as
the keys are written alike. Take any configuration whose keys are all addresses. Every entry is
listed with its address and kind, in the order of the table. Of two entries whose keys are written
alike the first has the lower address. So when all keys are written alike, say with two digits each,
the addresses ascend. -/
theorem deviceMap_ordered (c : Configuration) (hkeys : ∀ e ∈ c.devices.entries, IsAddress e.1) :
    ∃ map, c.deviceMap = .ok map ∧ List.Forall₂ ReadAs c.devices.entries map ∧
      ((c.devices.entries.zip map).Pairwise fun x y =>
        WrittenAlike x.1.1 y.1.1 → x.2.1 < y.2.1) ∧
      ((c.devices.entries.Pairwise fun d e => WrittenAlike d.1 e.1) → map.Pairwise (·.1 < ·.1)) := by
  obtain ⟨map, hmap⟩ := readAddresses_of_isAddress hkeys
  have hread := readAddresses_eq_ok_iff.1 hmap
  have hzip := pairwise_zip_of_readAs hread c.devices.ascending
  refine ⟨map, hmap, hread, hzip, fun halike => ?_⟩
  -- every entry keeps its place in the list, so what holds of two entries holds of their places
  have hlength := hread.length_eq
  rw [← List.map_fst_zip (Nat.le_of_eq hlength), List.pairwise_map] at halike
  rw [← List.map_snd_zip (Nat.le_of_eq hlength.symm), List.pairwise_map]
  exact halike.imp₂ (fun x y h hlt => hlt h) hzip

end Configuration

/-- A configuration whose keys have three digits. -/
def threeDigits : Configuration where
  devices := ⟨[("'004", .console), ("'014", .tape), ("'020", .panel)], by decide⟩

/-- Its devices are listed in the order of their addresses. -/
theorem deviceMap_ordered_threeDigits : ∃ map, threeDigits.deviceMap = .ok map ∧
    map = [(0o4, .console), (0o14, .tape), (0o20, .panel)] ∧ map.Pairwise (·.1 < ·.1) := by
  have hkeys : ∀ e ∈ threeDigits.devices.entries, IsAddress e.1 := by
    simp only [threeDigits, List.forall_mem_cons]
    exact ⟨⟨0o4, rfl⟩, ⟨0o14, rfl⟩, ⟨0o20, rfl⟩, by simp⟩
  obtain ⟨map, hmap, -, -, hordered⟩ := Configuration.deviceMap_ordered threeDigits hkeys
  have halike : threeDigits.devices.entries.Pairwise fun d e => WrittenAlike d.1 e.1 := by
    simp [threeDigits, WrittenAlike, mark]
  exact ⟨map, hmap, Except.ok.inj (hmap.symm.trans rfl), hordered halike⟩

/-- A configuration with keys of one and of two digits. -/
def unevenKeys : Configuration where
  devices := ⟨[("14", .tape), ("4", .console)], by decide⟩

/-- **Devices that are not listed in the order of their addresses.** Both keys are addresses, and
the larger one comes first. -/
theorem deviceMap_disordered :
    (∀ e ∈ unevenKeys.devices.entries, IsAddress e.1) ∧
      unevenKeys.deviceMap = .ok [(0o14, .tape), (0o4, .console)] ∧
      ¬ [((0o14 : UInt8), DeviceKind.tape), (0o4, .console)].Pairwise (·.1 ≤ ·.1) := by
  refine ⟨?_, rfl, by decide⟩
  simp only [unevenKeys, List.forall_mem_cons]
  exact ⟨⟨0o14, rfl⟩, ⟨0o4, rfl⟩, by simp⟩

end PeripheralBus
