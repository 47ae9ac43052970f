import PeripheralBus.Configuration.Build
import PeripheralBus.Line.KeyboardTerminal
import PeripheralBus.Pack.MemoryCabinet

/-!
# The bus of a configuration

The table of devices is kept by the text of the addresses, and the bus by their numbers. An address
has several spellings, so two entries can name the same place; the devices are attached in the order
of the keys, and the **last entry** for an address decides what answers there.

* `Configuration.kindAt`: the kind in the last entry that names an address.
* `Configuration.made`: the device that is made for a kind.
* `build_ok`, `attachAll_cons_ok`: the steps of a bus that was built.
* `attachAll_device`: what answers after some entries were attached.
* `build_device_eq`: **the bus has the devices of the last entries**, and is empty elsewhere.
* `build_honours`: the same, told entry by entry.
* `respelled_replaces`: an entry that a later spelling of its address replaces.
-/

namespace PeripheralBus

open Line Pack

/-- The name in the log of a device of this kind. -/
def DeviceKind.deviceName : DeviceKind → String
  | .console => "console"
  | .tape => "tape"
  | .panel => "control panel"
  | .disk => "disk"
  | .null => "null"

/-! ## Addresses -/

/-- Whether a key is a spelling of an address. -/
def names (address : UInt8) (key : String) : Bool :=
  match parseAddress key with
  | .ok place => place = address
  | .error _ => false

theorem names_iff {address : UInt8} {key : String} :
    names address key = true ↔ parseAddress key = .ok address := by
  unfold names
  cases parseAddress key <;> simp

/-- A table whose first entry was read has an address in its key, and so have the others. -/
theorem readAddresses_cons_ok {key : String} {kind : DeviceKind}
    {rest : List (String × DeviceKind)} {map : List (UInt8 × DeviceKind)}
    (h : readAddresses ((key, kind) :: rest) = .ok map) :
    ∃ address others, parseAddress key = .ok address ∧ readAddresses rest = .ok others ∧
      map = (address, kind) :: others := by
  rw [readAddresses] at h
  cases hkey : parseAddress key with
  | error f => simp [hkey] at h
  | ok address =>
    cases hrest : readAddresses rest with
    | error f => simp [hkey, hrest] at h
    | ok others =>
      simp only [hkey, hrest, Except.ok.injEq] at h
      exact ⟨address, others, rfl, rfl, h.symm⟩

variable {entries : List (String × DeviceKind)} {map : List (UInt8 × DeviceKind)}

theorem parseAddress_of_readAddresses (h : readAddresses entries = .ok map) :
    ∀ e ∈ entries, ∃ address, parseAddress e.1 = .ok address := by
  induction entries generalizing map with
  | nil => simp
  | cons e rest ih =>
    obtain ⟨address, others, hkey, hrest, -⟩ := readAddresses_cons_ok h
    intro e he
    rcases List.mem_cons.1 he with rfl | he
    · exact ⟨address, hkey⟩
    · exact ih hrest e he

/-- The last entry for an address, before and after the addresses are read. -/
theorem lookup_reverse_of_readAddresses (h : readAddresses entries = .ok map) (address : UInt8) :
    map.reverse.lookup address =
      (entries.reverse.find? fun e => names address e.1).map (·.2) := by
  induction entries generalizing map with
  | nil =>
    obtain rfl := Except.ok.inj h
    rfl
  | cons e rest ih =>
    obtain ⟨place, others, hkey, hrest, rfl⟩ := readAddresses_cons_ok h
    rw [List.reverse_cons, List.lookup_append, ih hrest, List.reverse_cons, List.find?_append,
      Option.map_or]
    congr 1
    by_cases hplace : address = place
    · subst hplace
      simp [names_iff.2 hkey]
    · have hne : (address == place) = false := by simpa using hplace
      have hnames : names address e.1 = false := by simpa [names, hkey] using Ne.symm hplace
      simp [List.lookup_cons, hne, hnames]

namespace Configuration

variable {T S : Type} [Terminal T] [Cabinet S] {c : Configuration} {terminal : T} {cabinet : S}

/-- The kind in the last entry, in the order of the keys, that names an address. -/
def kindAt (c : Configuration) (address : UInt8) : Option DeviceKind :=
  (c.devices.entries.reverse.find? fun e => names address e.1).map (·.2)

/-- The device of a kind as a configuration makes it: the console at the terminal, a panel with the
configured switches, a disk controller with the cabinet and the configured geometry and nothing
mounted. -/
def made (c : Configuration) (terminal : T) (cabinet : S) : DeviceKind → Device T S
  | .console => .console ⟨terminal⟩
  | .tape => .tape
  | .panel => .panel { switches := c.senseSwitches }
  | .disk => .disk { cabinet, geometry := c.geometry }
  | .null => .null

theorem name_made (kind : DeviceKind) :
    (c.made terminal cabinet kind).name = kind.deviceName := by
  cases kind <;> rfl

/-! ## Attaching -/

theorem deviceOf_ok {address : UInt8} {kind : DeviceKind} {free left : Option T}
    {d : Device T S} (hfree : ∀ t ∈ free, t = terminal)
    (h : c.deviceOf cabinet address kind free = .ok (d, left)) :
    d = c.made terminal cabinet kind ∧ ∀ t ∈ left, t = terminal := by
  cases kind with
  | console =>
    cases free with
    | none => cases h
    | some t =>
      obtain ⟨rfl, rfl⟩ := Prod.mk.inj (Except.ok.inj h)
      obtain rfl := hfree t rfl
      exact ⟨rfl, nofun⟩
  | tape | panel | disk | null =>
    obtain ⟨rfl, rfl⟩ := Prod.mk.inj (Except.ok.inj h)
    exact ⟨rfl, hfree⟩

/-- **An entry that was attached**: it has a device and a place on the bus, and the entries after it
were attached too. -/
theorem attachAll_cons_ok {address : UInt8} {kind : DeviceKind}
    {rest : List (UInt8 × DeviceKind)} {free : Option T} {b bus : Bus T S} {events : List Event}
    (h : c.attachAll cabinet ((address, kind) :: rest) free b = (events, .ok bus)) :
    ∃ d left more, c.deviceOf cabinet address kind free = .ok (d, left) ∧ address.toNat < 64 ∧
      c.attachAll cabinet rest left (b.set address d) = (more, .ok bus) := by
  rw [attachAll] at h
  cases hdevice : c.deviceOf cabinet address kind free with
  | error f => simp [hdevice] at h
  | ok made =>
    obtain ⟨d, left⟩ := made
    simp only [hdevice, Bus.attach] at h
    by_cases haddress : address.toNat < 64
    · simp only [haddress, if_true] at h
      rcases hrest : c.attachAll cabinet rest left (b.set address d) with ⟨more, result⟩
      rw [hrest] at h
      obtain ⟨-, rfl⟩ := Prod.mk.inj h
      exact ⟨d, left, more, rfl, haddress, hrest⟩
    · simp [haddress] at h

/-- **What answers after entries were attached**: the device of the last entry for the address, or
what was there before. -/
theorem attachAll_device {entries : List (UInt8 × DeviceKind)} {free : Option T} {b bus : Bus T S}
    {events : List Event} (hfree : ∀ t ∈ free, t = terminal)
    (h : c.attachAll cabinet entries free b = (events, .ok bus)) (address : UInt8) :
    bus.device address =
      ((entries.reverse.lookup address).map (c.made terminal cabinet)).getD (b.device address) := by
  induction entries generalizing free b events with
  | nil =>
    obtain rfl : b = bus := Except.ok.inj (Prod.mk.inj h).2
    rfl
  | cons entry rest ih =>
    obtain ⟨place, kind⟩ := entry
    obtain ⟨d, left, more, hd, hplace, hrest⟩ := attachAll_cons_ok h
    obtain ⟨rfl, hleft⟩ := deviceOf_ok hfree hd
    rw [ih hleft hrest, b.device_set place address _ hplace, List.reverse_cons,
      List.lookup_append]
    cases rest.reverse.lookup address with
    | some later => rfl
    | none =>
      -- no later entry names the address, so this one decides
      by_cases hsame : address = place
      · simp [hsame]
      · have hne : (address == place) = false := by simpa using hsame
        simp [List.lookup_cons, hne, hsame]

/-! ## Building -/

/-- **A bus that was built**: the geometry has passed its check, the addresses were read, and the
devices were attached to an empty bus. -/
theorem build_ok {events : List Event} {bus : Bus T S}
    (h : c.build terminal cabinet = (events, .ok bus)) :
    c.checkGeometry = .ok () ∧ ∃ map, c.deviceMap = .ok map ∧
      c.attachAll cabinet map (some terminal) {} = (events, .ok bus) := by
  unfold build at h
  split at h
  · cases h
  · rename_i hcheck
    split at h
    · cases h
    · rename_i map hmap
      exact ⟨hcheck, map, hmap, h⟩

/-- **What answers on a bus that was built**: the device of the last entry that names the address,
and where there is none the null device. -/
theorem build_device_eq {events : List Event} {bus : Bus T S}
    (h : c.build terminal cabinet = (events, .ok bus)) (address : UInt8) :
    bus.device address = ((c.kindAt address).map (c.made terminal cabinet)).getD .null := by
  obtain ⟨-, map, hmap, hattach⟩ := build_ok h
  have hfree : ∀ t ∈ some terminal, t = terminal := by simp
  rw [attachAll_device hfree hattach, Bus.device_empty, lookup_reverse_of_readAddresses hmap, kindAt]

/-- **Building honours the table of devices**, and of several entries for one address the last one.
Every key is an address. If no later key names the same address, a device of the entry's kind answers
there, made for this configuration. At an address that no key names, the null device answers. -/
theorem build_honours {events : List Event} {bus : Bus T S}
    (h : c.build terminal cabinet = (events, .ok bus)) :
    (∀ before key kind after, c.devices.entries = before ++ (key, kind) :: after →
      ∃ address, parseAddress key = .ok address ∧
        ((∀ e ∈ after, parseAddress e.1 ≠ .ok address) →
          bus.device address = c.made terminal cabinet kind ∧
          (bus.device address).name = kind.deviceName)) ∧
    ∀ address, (∀ e ∈ c.devices.entries, parseAddress e.1 ≠ .ok address) →
      bus.device address = .null ∧ (bus.device address).name = "null" := by
  obtain ⟨-, map, hmap, -⟩ := build_ok h
  constructor
  · intro before key kind after hentries
    have hmem : (key, kind) ∈ c.devices.entries := by simp [hentries]
    obtain ⟨address, haddress⟩ := parseAddress_of_readAddresses hmap (key, kind) hmem
    refine ⟨address, haddress, fun hlast => ?_⟩
    have hafter : (after.reverse.find? fun e => names address e.1) = none := by
      rw [List.find?_eq_none]
      intro e he hnames
      exact hlast e (List.mem_reverse.1 he) (names_iff.1 hnames)
    have hkind : c.kindAt address = some kind := by
      rw [kindAt, hentries, List.reverse_append, List.reverse_cons, List.append_assoc,
        List.find?_append, hafter]
      simp [names_iff.2 haddress]
    have hdevice : bus.device address = c.made terminal cabinet kind := by
      rw [build_device_eq h, hkind]
      rfl
    exact ⟨hdevice, by rw [hdevice, name_made]⟩
  · intro address hnone
    have hkind : c.kindAt address = none := by
      rw [kindAt, Option.map_eq_none_iff, List.find?_eq_none]
      intro e he hnames
      exact hnone e (List.mem_reverse.1 he) (names_iff.1 hnames)
    have hdevice : bus.device address = .null := by
      rw [build_device_eq h, hkind]
      rfl
    exact ⟨hdevice, by rw [hdevice]; rfl⟩

end Configuration

/-- A configuration with two spellings of one address. -/
def respelled : Configuration where
  devices := ⟨[("04", .console), ("4", .tape)], by decide⟩

/-- Its bus has the device of the later spelling there, and nothing elsewhere. -/
theorem build_honours_respelled :
    ∃ events, ∃ bus : Bus KeyboardTerminal MemoryCabinet,
      respelled.build {} {} = (events, .ok bus) ∧ bus.device 0o4 = .tape ∧
      bus.device 0o26 = .null := by
  have hbuild : ∃ events, ∃ bus : Bus KeyboardTerminal MemoryCabinet,
      respelled.build {} {} = (events, .ok bus) := ⟨_, _, rfl⟩
  obtain ⟨events, bus, hbuild⟩ := hbuild
  obtain ⟨hentry, hnone⟩ := Configuration.build_honours hbuild
  obtain ⟨address, haddress, hlast⟩ := hentry [("04", .console)] "4" .tape [] rfl
  obtain rfl : 0o4 = address := Except.ok.inj haddress
  refine ⟨events, bus, hbuild, (hlast nofun).1, (hnone 0o26 ?_).1⟩
  simp only [respelled, List.forall_mem_cons]
  exact ⟨nofun, nofun, nofun⟩

/-- **An entry that is not honoured.** The first spelling says that a console answers at the
address, but the bus was built, and a tape controller answers there. -/
theorem respelled_replaces :
    ∃ events, ∃ bus : Bus KeyboardTerminal MemoryCabinet,
      respelled.build {} {} = (events, .ok bus) ∧
      ("04", .console) ∈ respelled.devices.entries ∧ parseAddress "04" = .ok 0o4 ∧
      (bus.device 0o4).name = "tape" ∧
      (bus.device 0o4).name ≠ DeviceKind.console.deviceName := by
  refine ⟨_, _, rfl, ?_, rfl, rfl, ?_⟩
  · simp [respelled]
  · decide

end PeripheralBus
