import PeripheralBus.Proofs.Configuration.DeviceMap

/-!
# Which configurations are accepted

A bus is built in three stages: the geometry is checked, the keys are read as addresses, and the
devices are attached. There is one terminal, and the first console takes it, so the third stage stops
at the second console. Addresses that were read have a place on the bus, so it stops nowhere else.

* `Configuration.consoles`: the entries that ask for a console, in the order of the keys.
* `Configuration.Usable`: what a configuration must be like.
* `Configuration.Refused`: why it is refused if it is not; an earlier stage goes before a later one.
* `attachAll_result`: **attaching stops at the first console for which no terminal is left**.
* `usable_or_refused`, `build_of_usable`, `build_of_refused`: one of the two, and what follows.
* `build_accepts`: **exactly the usable configurations are accepted**.
-/

namespace PeripheralBus

open Line Pack

variable {T S : Type} [Terminal T] [Cabinet S]

theorem Bus.attach_of_lt (b : Bus T S) {address : UInt8} (h : address.toNat < 64) (d : Device T S) :
    b.attach address d = .ok ((b.device address).dropEvents, b.set address d) := if_pos h

namespace Configuration

variable {c : Configuration} {terminal : T} {cabinet : S}

/-- The entries that ask for a console, in the order of their keys. -/
def consoles (c : Configuration) : List (String × DeviceKind) :=
  c.devices.entries.filter (·.2 = .console)

/-- **A configuration that can be used**: its geometry has no flaw, its keys are addresses, and it
asks for one console at most. -/
structure Usable (c : Configuration) : Prop where
  geometry : c.geometry.flaw? = none
  keys : ∀ e ∈ c.devices.entries, IsAddress e.1
  consoles : c.consoles.length ≤ 1

/-- **Why a configuration is refused**: for its geometry, else for the first key that is no address,
else for the second console. -/
inductive Refused (c : Configuration) : ConfigurationFault → Prop
  | geometry {flaw : Geometry.Flaw} (hflaw : c.geometry.flaw? = some flaw) :
      Refused c (.geometry c.geometry flaw)
  | key {before after : List (String × DeviceKind)} {key : String} {kind : DeviceKind}
      (hgeometry : c.geometry.flaw? = none)
      (hentries : c.devices.entries = before ++ (key, kind) :: after)
      (hbefore : ∀ e ∈ before, IsAddress e.1) (hkey : ¬ IsAddress key) :
      Refused c (.invalidAddress key)
  | console {key : String} {address : UInt8} (hgeometry : c.geometry.flaw? = none)
      (hkeys : ∀ e ∈ c.devices.entries, IsAddress e.1)
      (hsecond : c.consoles[1]? = some (key, .console)) (haddress : parseAddress key = .ok address) :
      Refused c (.secondConsole address)

/-! ## Attaching -/

/-- An entry that gets a device is attached, and the others follow. -/
theorem attachAll_cons_of_device {address : UInt8} {kind : DeviceKind}
    {rest : List (UInt8 × DeviceKind)} {free left : Option T} {d : Device T S}
    (haddress : address.toNat < 64)
    (hdevice : c.deviceOf cabinet address kind free = .ok (d, left)) (b : Bus T S) :
    (c.attachAll cabinet ((address, kind) :: rest) free b).2 =
      (c.attachAll cabinet rest left (b.set address d)).2 := by
  rw [attachAll]
  simp only [hdevice, b.attach_of_lt haddress]

/-- A console for which no terminal is left ends the attaching. -/
theorem attachAll_cons_of_console (address : UInt8) (rest : List (UInt8 × DeviceKind))
    (b : Bus T S) :
    (c.attachAll cabinet ((address, .console) :: rest) none b).2 =
      .error (.configuration (.secondConsole address)) := rfl

/-- A console takes the terminal if there is one. -/
theorem deviceOf_console (address : UInt8) (t : T) :
    c.deviceOf cabinet address .console (some t) = .ok (.console ⟨t⟩, none) := rfl

/-- Any other entry gets a device and leaves the terminal. -/
theorem deviceOf_of_ne_console (c : Configuration) (cabinet : S) (address : UInt8)
    {kind : DeviceKind} (h : kind ≠ .console) (free : Option T) :
    ∃ d : Device T S, c.deviceOf cabinet address kind free = .ok (d, free) := by
  cases kind with
  | console => exact absurd rfl h
  | tape | panel | disk | null => exact ⟨_, rfl⟩

/-- **Attaching stops at the first console for which no terminal is left**, and nowhere else when
all addresses are on the bus. -/
theorem attachAll_result {map : List (UInt8 × DeviceKind)} (hmap : ∀ e ∈ map, e.1.toNat < 64)
    (free : Option T) (b : Bus T S) :
    ((map.filter (·.2 = .console))[free.toList.length]? = none →
      ∃ bus, (c.attachAll cabinet map free b).2 = .ok bus) ∧
    ∀ e, (map.filter (·.2 = .console))[free.toList.length]? = some e →
      (c.attachAll cabinet map free b).2 = .error (.configuration (.secondConsole e.1)) := by
  induction map generalizing free b with
  | nil => exact ⟨fun _ => ⟨b, rfl⟩, nofun⟩
  | cons entry rest ih =>
    obtain ⟨address, kind⟩ := entry
    obtain ⟨haddress, hrest⟩ := List.forall_mem_cons.1 hmap
    by_cases hkind : kind = .console
    · subst hkind
      rw [List.filter_cons_of_pos (by simp)]
      cases free with
      | none =>
        -- there is no terminal, so this is the one
        refine ⟨nofun, ?_⟩
        rintro e he
        obtain rfl := Option.some.inj he
        exact attachAll_cons_of_console address rest b
      | some t =>
        rw [attachAll_cons_of_device haddress (deviceOf_console address t)]
        exact ih hrest none _
    · obtain ⟨d, hd⟩ := c.deviceOf_of_ne_console cabinet address hkind free
      rw [List.filter_cons_of_neg (by simpa using hkind), attachAll_cons_of_device haddress hd]
      exact ih hrest free _

/-! ## Building -/

theorem build_of_flaw {flaw : Geometry.Flaw} (h : c.geometry.flaw? = some flaw) :
    (c.build terminal cabinet).2 = .error (.configuration (.geometry c.geometry flaw)) := by
  simp only [build, checkGeometry, h]

theorem build_of_deviceMap_error {fault : Fault} (hgeometry : c.geometry.flaw? = none)
    (h : c.deviceMap = .error fault) : (c.build terminal cabinet).2 = .error fault := by
  simp only [build, checkGeometry, hgeometry, h]

theorem build_of_deviceMap_ok {map : List (UInt8 × DeviceKind)} (hgeometry : c.geometry.flaw? = none)
    (h : c.deviceMap = .ok map) :
    c.build terminal cabinet = c.attachAll cabinet map (some terminal) {} := by
  simp only [build, checkGeometry, hgeometry, h]

/-- **The addresses of a table with a sound geometry**: all are on the bus, and the consoles among
them are those of the table. -/
theorem exists_deviceMap (hkeys : ∀ e ∈ c.devices.entries, IsAddress e.1) :
    ∃ map, c.deviceMap = .ok map ∧ (∀ e ∈ map, e.1.toNat < 64) ∧
      List.Forall₂ ReadAs c.consoles (map.filter (·.2 = .console)) := by
  obtain ⟨map, hmap⟩ := readAddresses_of_isAddress hkeys
  have hread := readAddresses_eq_ok_iff.1 hmap
  refine ⟨map, hmap, ?_, ?_⟩
  · intro place hplace
    obtain ⟨i, hi, rfl⟩ := List.getElem_of_mem hplace
    exact parseAddress_lt (hread.get (hread.length_eq ▸ hi) hi).1
  · refine List.rel_filter ?_ hread
    intro e place h
    simp [h.2]

/-- **A usable configuration is accepted.** -/
theorem build_of_usable (h : c.Usable) : ∃ bus, (c.build terminal cabinet).2 = .ok bus := by
  obtain ⟨map, hmap, hplaces, hconsoles⟩ := exists_deviceMap h.keys
  rw [build_of_deviceMap_ok h.geometry hmap]
  refine (attachAll_result hplaces (some terminal) {}).1 (List.getElem?_eq_none ?_)
  rw [← hconsoles.length_eq]
  exact h.consoles

/-- **Any other configuration is refused** for the reason that comes first. -/
theorem build_of_refused {reason : ConfigurationFault} (h : c.Refused reason) :
    (c.build terminal cabinet).2 = .error (.configuration reason) := by
  cases h with
  | geometry hflaw => exact build_of_flaw hflaw
  | @key _ _ key _ hgeometry hentries hbefore hkey =>
    have hmap : c.deviceMap = .error (.configuration (.invalidAddress key)) := by
      rw [deviceMap, hentries, readAddresses_of_first hbefore hkey]
    exact build_of_deviceMap_error hgeometry hmap
  | @console key address hgeometry hkeys hsecond haddress =>
    obtain ⟨map, hmap, hplaces, hconsoles⟩ := exists_deviceMap hkeys
    obtain ⟨hlength, hentry⟩ := List.getElem?_eq_some_iff.1 hsecond
    have hlength' : 1 < (map.filter (·.2 = .console)).length := hconsoles.length_eq ▸ hlength
    have hread : ReadAs c.consoles[1] (map.filter (·.2 = .console))[1] :=
      hconsoles.get hlength hlength'
    have hplace : (map.filter (·.2 = .console))[1].1 = address := by
      have hfirst := hread.1
      rw [hentry, haddress] at hfirst
      exact (Except.ok.inj hfirst).symm
    rw [build_of_deviceMap_ok hgeometry hmap, ← hplace]
    exact (attachAll_result hplaces (some terminal) {}).2 _ (List.getElem?_eq_getElem hlength')

/-- **A configuration is usable, or there is a reason to refuse it.** -/
theorem usable_or_refused (c : Configuration) : c.Usable ∨ ∃ reason, c.Refused reason := by
  cases hgeometry : c.geometry.flaw? with
  | some flaw => exact .inr ⟨_, .geometry hgeometry⟩
  | none =>
    cases hmap : c.deviceMap with
    | error fault =>
      obtain ⟨before, key, kind, after, hentries, hbefore, hkey⟩ := exists_first_of_error hmap
      exact .inr ⟨_, .key hgeometry hentries hbefore hkey⟩
    | ok map =>
      have hkeys := parseAddress_of_readAddresses hmap
      by_cases hconsoles : c.consoles.length ≤ 1
      · exact .inl ⟨hgeometry, hkeys, hconsoles⟩
      · -- there is a second console, and its key is an address like all others
        have hlength : 1 < c.consoles.length := Nat.lt_of_not_le hconsoles
        obtain ⟨hmem, hkind⟩ := List.mem_filter.1 (List.getElem_mem hlength)
        obtain ⟨address, haddress⟩ := hkeys _ hmem
        refine .inr ⟨_, .console hgeometry hkeys ?_ haddress⟩
        rw [List.getElem?_eq_getElem hlength, ← of_decide_eq_true hkind]

/-- **Exactly the usable configurations are accepted.** Take any configuration, terminal and
cabinet. A bus is built if and only if the geometry has no flaw, every key is an address, and at
most one entry asks for a console. Otherwise the result is a configuration fault: that of the
geometry; or, if there is none, that of the first key that is no address; or else that of a second
console, at the address of the second entry that asks for one. No address is found to be out of
range when a device is attached. -/
theorem build_accepts (c : Configuration) (terminal : T) (cabinet : S) :
    ((∃ bus, (c.build terminal cabinet).2 = .ok bus) ↔
      c.geometry.flaw? = none ∧ (∀ e ∈ c.devices.entries, ∃ a, parseAddress e.1 = .ok a) ∧
        (c.devices.entries.filter (·.2 = .console)).length ≤ 1) ∧
    (∀ fault, (c.build terminal cabinet).2 = .error fault ↔
      ∃ reason, c.Refused reason ∧ fault = .configuration reason) ∧
    ∀ address, (c.build terminal cabinet).2 ≠
      .error (.configuration (.addressOutOfRange address)) := by
  have hfault : ∀ fault, (c.build terminal cabinet).2 = .error fault ↔
      ∃ reason, c.Refused reason ∧ fault = .configuration reason := by
    intro fault
    constructor
    · intro h
      rcases c.usable_or_refused with husable | ⟨reason, hrefused⟩
      · obtain ⟨bus, hbus⟩ : ∃ bus, (c.build terminal cabinet).2 = .ok bus :=
          build_of_usable husable
        cases hbus.symm.trans h
      · exact ⟨reason, hrefused, Except.error.inj (h.symm.trans (build_of_refused hrefused))⟩
    · rintro ⟨reason, hrefused, rfl⟩
      exact build_of_refused hrefused
  refine ⟨⟨?_, ?_⟩, hfault, ?_⟩
  · rintro ⟨bus, hbus⟩
    rcases c.usable_or_refused with husable | ⟨reason, hrefused⟩
    · exact ⟨husable.geometry, husable.keys, husable.consoles⟩
    · cases hbus.symm.trans (build_of_refused hrefused)
  · rintro ⟨hgeometry, hkeys, hconsoles⟩
    exact build_of_usable ⟨hgeometry, hkeys, hconsoles⟩
  · intro address h
    obtain ⟨reason, hrefused, hreason⟩ := (hfault _).1 h
    obtain rfl := Fault.configuration.inj hreason
    cases hrefused

end Configuration

end PeripheralBus
