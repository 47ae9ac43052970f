import PeripheralBus.Configuration.Build
import PeripheralBus.Line.KeyboardTerminal
import PeripheralBus.Proofs.Bus.Building
import PeripheralBus.Proofs.Bus.Contract
import PeripheralBus.Proofs.Channel.Fault

/-!
# A bus without configuration faults

A bus is built only with a geometry that has no flaw, and every disk controller on it gets that
geometry. Instructions keep it, and with it a read order always finds its record inside. No other
device fails with a configuration fault, so none comes up once the bus is there.

* `DeviceFault`: what devices fail with, channel programs apart.
* `Device.perform_failsWith`: **what an instruction fails with**, from one lemma a device.
* `Controller.perform_cases`: a disk controller answers at once, or by a program.
* `Device.perform_flawless`: a device keeps its geometry, and no record is outside of it.
* `Bus.Flawless`: the invariant; `build_flawless`, `dispatch_flawless`: it holds of a bus that was
  built, and instructions keep it.
* `Bus.Later`: the buses that a bus becomes.
* `Bus.geometry_exact`: when a geometry has no flaw, and what follows for a bus.
-/

namespace PeripheralBus

open Line Pack

/-- The faults of devices, apart from those of channel programs. -/
inductive DeviceFault : Fault → Prop
  | unsupported (instruction : Instruction) : DeviceFault (.unsupported instruction)
  | hang (device : UInt8) : DeviceFault (.deviceHang device)
  | host (error : Host.Error) : DeviceFault (.host error)

/-- The faults of instructions, when records are inside their geometries. -/
inductive InstructionFault : Fault → Prop
  | device {fault : Fault} (h : DeviceFault fault) : InstructionFault fault
  | program {fault : Fault} (h : ProgramFault fault) : InstructionFault fault
  | transfer {fault : Fault} (h : TransferFault fault) : InstructionFault fault

/-- None of them is a configuration fault. -/
theorem InstructionFault.ne_configuration {fault : Fault} (h : InstructionFault fault)
    (reason : ConfigurationFault) : fault ≠ .configuration reason := by
  rintro rfl
  cases h with
  | device h => cases h
  | program h => cases h
  | transfer h => cases h

/-- A reply fails with such faults only. -/
def Reply.FailsWith {D : Type} (P : Fault → Prop) (r : Reply D) : Prop :=
  ∀ fault, r.result = .error fault → P fault

namespace Reply

variable {D E : Type} {P : Fault → Prop}

theorem failsWith_of_ok {r : Reply D} (h : r.result = .ok ()) : r.FailsWith P := by
  intro fault hfault
  rw [h] at hfault
  cases hfault

theorem failsWith_of_error {r : Reply D} {fault : Fault} (h : r.result = .error fault)
    (hfault : P fault) : r.FailsWith P := by
  intro other hother
  obtain rfl := Except.error.inj (h.symm.trans hother)
  exact hfault

theorem FailsWith.map {r : Reply D} (h : r.FailsWith P) (f : D → E) : (r.map f).FailsWith P := h

theorem failsWith_refuse (i : Instruction) (device : D) (m : Machine) :
    (Reply.refuse i device m).FailsWith DeviceFault :=
  failsWith_of_error rfl (.unsupported i)

end Reply

variable {T S : Type} [Terminal T] [Cabinet S]

/-! ## The devices -/

section Devices

variable {i : Instruction} {m : Machine} {willRetry : Bool}

theorem Tape.perform_failsWith : (Tape.perform i willRetry m).FailsWith DeviceFault := by
  unfold Tape.perform
  split
  · exact Reply.failsWith_of_ok rfl
  · exact Reply.failsWith_of_ok rfl
  all_goals
    unfold Tape.transfer
    split
    · exact Reply.failsWith_of_error rfl (.hang _)
    · exact Reply.failsWith_of_ok rfl

theorem NullDevice.perform_failsWith : (NullDevice.perform i m).FailsWith DeviceFault := by
  unfold NullDevice.perform
  split
  case h_6 => exact Reply.failsWith_refuse _ _ _
  all_goals exact Reply.failsWith_of_ok rfl

theorem Panel.perform_failsWith (p : Panel) : (p.perform i m).FailsWith DeviceFault := by
  unfold Panel.perform
  split
  · exact Reply.failsWith_of_ok rfl
  · exact Reply.failsWith_of_ok rfl
  · exact Reply.failsWith_refuse _ _ _

theorem Console.readCharacter_failsWith (c : Console T) (clear blocking : Bool) :
    (c.readCharacter clear blocking m).FailsWith DeviceFault := by
  unfold Console.readCharacter
  rcases Terminal.read c.terminal blocking with ⟨e | _ | b, terminal⟩
  · exact Reply.failsWith_of_error rfl (.host e)
  · exact Reply.failsWith_of_ok rfl
  · exact Reply.failsWith_of_ok rfl

theorem Console.writeCharacter_failsWith (c : Console T) :
    (c.writeCharacter m).FailsWith DeviceFault := by
  unfold Console.writeCharacter
  dsimp only
  split
  · exact Reply.failsWith_of_ok rfl
  · rcases Terminal.write c.terminal (character m.a) with ⟨e | ⟨⟩, terminal⟩
    · exact Reply.failsWith_of_error rfl (.host e)
    · exact Reply.failsWith_of_ok rfl

theorem Console.perform_failsWith (c : Console T) :
    (c.perform i willRetry m).FailsWith DeviceFault := by
  unfold Console.perform
  split
  · exact Reply.failsWith_of_ok rfl
  · unfold Console.sense
    split
    · exact Reply.failsWith_of_ok rfl
    · split
      · rcases Terminal.poll c.terminal patience with ⟨_ | _, terminal⟩ <;>
          exact Reply.failsWith_of_ok rfl
      · exact Reply.failsWith_of_ok rfl
  · unfold Console.input
    split
    · exact readCharacter_failsWith _ _ _
    · exact readCharacter_failsWith _ _ _
    · exact Reply.failsWith_of_ok rfl
    · exact Reply.failsWith_of_ok rfl
    · exact Reply.failsWith_refuse _ _ _
  · unfold Console.output
    split
    · exact writeCharacter_failsWith _
    · exact Reply.failsWith_of_ok rfl
    · exact Reply.failsWith_refuse _ _ _

end Devices

namespace Controller

variable {c : Controller S} {limit : ℕ} {i : Instruction} {m : Machine}

/-- **A run keeps the geometry.** -/
theorem run_geometry {device : UInt8} {address : Word} {events : List Event} {last : Ended S}
    (h : c.run limit m device address = some (events, last)) :
    last.controller.geometry = c.geometry := by
  obtain ⟨visited, t, hp, hlast, -⟩ := run_eq_some_iff.1 h
  have hstep := t.step_geometry device
  rw [hlast] at hstep
  exact hstep.trans hp.geometry_eq

/-- **What an instruction to a disk controller comes to**: it is answered at once, or by the program
that it starts. -/
theorem perform_cases {r : Reply (Controller S)} (h : c.perform limit i m = some r) :
    (r.device.geometry = c.geometry ∧ r.FailsWith (· = .unsupported i)) ∨
      ∃ events last, c.run limit m i.device m.a = some (events, last) ∧
        r = programReply i.device events last := by
  unfold perform at h
  split at h
  · obtain rfl := Option.some.inj h
    exact .inl ⟨rfl, Reply.failsWith_of_ok rfl⟩
  · obtain rfl := Option.some.inj h
    exact .inl ⟨rfl, Reply.failsWith_of_ok rfl⟩
  · obtain rfl := Option.some.inj h
    unfold input
    split
    case h_4 => exact .inl ⟨rfl, Reply.failsWith_of_error rfl rfl⟩
    all_goals exact .inl ⟨rfl, Reply.failsWith_of_ok rfl⟩
  · unfold output at h
    split at h
    · obtain ⟨⟨events, last⟩, hrun, rfl⟩ := Option.map_eq_some_iff.1 h
      exact .inr ⟨events, last, hrun, rfl⟩
    · obtain rfl := Option.some.inj h
      exact .inl ⟨rfl, Reply.failsWith_of_error rfl rfl⟩

/-- The reply of a program fails with the program's faults. -/
theorem failsWith_programReply {P : Fault → Prop} {device : UInt8} {events : List Event}
    {last : Ended S} (h : ∀ fault, last.result = .error fault → P fault) :
    (programReply device events last).FailsWith P := by
  unfold programReply
  split
  · rename_i fault hfault
    exact Reply.failsWith_of_error rfl (h fault hfault)
  · exact Reply.failsWith_of_ok rfl

/-- A disk controller with a geometry without a flaw keeps it and fails with no other faults than
those of instructions. -/
theorem perform_failsWith {r : Reply (Controller S)} (hgeometry : c.geometry.flaw? = none)
    (h : c.perform limit i m = some r) :
    r.device.geometry = c.geometry ∧ r.FailsWith InstructionFault := by
  rcases perform_cases h with ⟨hkept, hfails⟩ | ⟨events, last, hrun, rfl⟩
  · refine ⟨hkept, fun fault hfault => ?_⟩
    obtain rfl := hfails fault hfault
    exact .device (.unsupported i)
  · have hkept := run_geometry hrun
    obtain ⟨visited, t, hp, hlast, -⟩ := run_eq_some_iff.1 hrun
    constructor
    · unfold programReply
      split <;> exact hkept
    · refine failsWith_programReply fun fault hfault => ?_
      rcases hp.fault_of_step hgeometry hlast hfault with hprogram | ⟨htransfer, -⟩
      · exact .program hprogram
      · exact .transfer htransfer

end Controller

/-! ## The bus -/

/-- **What a device fails with**: its own faults, or those of a disk controller. -/
theorem Device.perform_failsWith {P : Fault → Prop} {d : Device T S} {limit : ℕ} {i : Instruction}
    {willRetry : Bool} {m : Machine} {r : Reply (Device T S)}
    (hdevice : ∀ fault, DeviceFault fault → P fault)
    (hdisk : ∀ c reply, d = .disk c → c.perform limit i m = some reply → reply.FailsWith P)
    (h : d.perform limit i willRetry m = some r) : r.FailsWith P := by
  cases d with
  | disk c =>
    obtain ⟨reply, hreply, rfl⟩ := Option.map_eq_some_iff.1 h
    exact (hdisk c reply rfl hreply).map _
  | console c =>
    obtain rfl := Option.some.inj h
    exact fun fault hfault => hdevice fault (c.perform_failsWith fault hfault)
  | tape =>
    obtain rfl := Option.some.inj h
    exact fun fault hfault => hdevice fault (Tape.perform_failsWith fault hfault)
  | panel p =>
    obtain rfl := Option.some.inj h
    exact fun fault hfault => hdevice fault (p.perform_failsWith fault hfault)
  | null =>
    obtain rfl := Option.some.inj h
    exact fun fault hfault => hdevice fault (NullDevice.perform_failsWith fault hfault)

/-- If this is a disk controller, its geometry has no flaw. -/
def Device.Flawless (d : Device T S) : Prop := ∀ c, d = .disk c → c.geometry.flaw? = none

/-- **Every device keeps its geometry**, and with one that has no flaw it fails with the faults of
instructions only. -/
theorem Device.perform_flawless {d : Device T S} {limit : ℕ} {i : Instruction} {willRetry : Bool}
    {m : Machine} {r : Reply (Device T S)} (hd : d.Flawless)
    (h : d.perform limit i willRetry m = some r) :
    r.device.Flawless ∧ r.FailsWith InstructionFault := by
  have hdisk (c) (reply) (hc : d = .disk c) (hreply : c.perform limit i m = some reply) :
      reply.FailsWith InstructionFault := (c.perform_failsWith (hd c hc) hreply).2
  refine ⟨?_, perform_failsWith (fun _ => .device) hdisk h⟩
  cases d with
  | disk c =>
    obtain ⟨r, hr, rfl⟩ := Option.map_eq_some_iff.1 h
    obtain ⟨hkept, -⟩ := c.perform_failsWith (hd c rfl) hr
    rintro c' hc'
    obtain rfl := Device.disk.inj hc'
    rw [hkept]
    exact hd c rfl
  | console | tape | panel | null =>
    obtain rfl := Option.some.inj h
    exact nofun

namespace Bus

variable {b : Bus T S} {limit : ℕ} {i : Instruction} {m : Machine}

/-- **No disk controller on the bus has a geometry with a flaw.** -/
def Flawless (b : Bus T S) : Prop := ∀ address, (b.device address).Flawless

theorem flawless_empty : ({} : Bus T S).Flawless := by
  intro address c hc
  rw [device_empty] at hc
  cases hc

theorem Flawless.set (hb : b.Flawless) {d : Device T S} (hd : d.Flawless) (address : UInt8) :
    (b.set address d).Flawless :=
  forall_device_set hb address hd

/-- **Instructions keep the geometries**, and fail with no other faults than their own. -/
theorem dispatch_flawless {r : Reply (Bus T S)} (hb : b.Flawless)
    (h : b.dispatch limit i m = some r) : r.device.Flawless ∧ r.FailsWith InstructionFault := by
  obtain ⟨reply, hreply, rfl⟩ := Option.map_eq_some_iff.1 h
  obtain ⟨hdevice, hfails⟩ := Device.perform_flawless (hb i.device) hreply
  exact ⟨hb.set hdevice i.device, hfails⟩

/-- The buses that a bus becomes: instructions are carried out on any machines, and the way in which
it tells of retries is replaced. -/
inductive Later (b : Bus T S) : Bus T S → Prop
  | refl : Later b b
  | dispatch {now : Bus T S} {limit : ℕ} {i : Instruction} {m : Machine} {r : Reply (Bus T S)}
      (h : Later b now) (hr : now.dispatch limit i m = some r) : Later b r.device
  | detect {now : Bus T S} (h : Later b now) (willRetry : Machine → Bool) :
      Later b { now with willRetry }

theorem Later.flawless {now : Bus T S} (h : b.Later now) (hb : b.Flawless) : now.Flawless := by
  induction h with
  | refl => exact hb
  | dispatch _ hr ih => exact (dispatch_flawless ih hr).1
  | detect _ _ ih => exact ih

end Bus

/-! ## Building -/

namespace Configuration

variable {c : Configuration} {cabinet : S}

/-- A device that is made for a configuration gets its geometry. -/
theorem deviceOf_flawless {address : UInt8} {kind : DeviceKind} {terminal left : Option T}
    {d : Device T S} (hgeometry : c.geometry.flaw? = none)
    (h : c.deviceOf cabinet address kind terminal = .ok (d, left)) : d.Flawless := by
  cases kind with
  | disk =>
    obtain ⟨rfl, -⟩ := Prod.mk.inj (Except.ok.inj h)
    rintro controller hcontroller
    obtain rfl := Device.disk.inj hcontroller
    exact hgeometry
  | console =>
    cases terminal with
    | none => cases h
    | some t =>
      obtain ⟨rfl, -⟩ := Prod.mk.inj (Except.ok.inj h)
      exact nofun
  | tape | panel | null =>
    obtain ⟨rfl, -⟩ := Prod.mk.inj (Except.ok.inj h)
    exact nofun

/-- Attaching devices keeps the bus without flaws. -/
theorem attachAll_flawless (hgeometry : c.geometry.flaw? = none)
    {entries : List (UInt8 × DeviceKind)} {terminal : Option T} {b bus : Bus T S}
    {events : List Event} (hb : b.Flawless)
    (h : c.attachAll cabinet entries terminal b = (events, .ok bus)) : bus.Flawless := by
  induction entries generalizing terminal b events with
  | nil =>
    obtain rfl : b = bus := Except.ok.inj (Prod.mk.inj h).2
    exact hb
  | cons entry rest ih =>
    obtain ⟨address, kind⟩ := entry
    obtain ⟨d, left, more, hd, -, hrest⟩ := attachAll_cons_ok h
    exact ih (hb.set (deviceOf_flawless hgeometry hd) address) hrest

/-- **A bus is built only with a geometry without a flaw**, which all its disk controllers get. -/
theorem build_flawless {terminal : T} {events : List Event} {bus : Bus T S}
    (h : c.build terminal cabinet = (events, .ok bus)) :
    c.geometry.flaw? = none ∧ bus.Flawless := by
  obtain ⟨hcheck, map, -, hattach⟩ := build_ok h
  have hgeometry : c.geometry.flaw? = none := by
    unfold checkGeometry at hcheck
    split at hcheck
    · cases hcheck
    · assumption
  exact ⟨hgeometry, attachAll_flawless hgeometry Bus.flawless_empty hattach⟩

end Configuration

/-- **The check of a geometry is exact, and enough.** Number and offset of a record are the exact
ones, as far as these fit 64 bits. A geometry has no flaw when no field is zero and the highest
record that an order can name ends inside the 64-bit range. Then every record that a read order can
name has an offset and ends inside that range. So no instruction on a bus that was built for a
configuration fails with a configuration fault, whatever was done on the bus before. -/
theorem Bus.geometry_exact :
    (∀ (g : Geometry) (track : Word) (head record : UInt8),
      ((g.recordNumber? track head record).map UInt64.toNat =
        if g.exactNumber track head record < 2 ^ 64 then some (g.exactNumber track head record)
        else none) ∧
      ((g.byteOffset? track head record).map UInt64.toNat =
        if g.exactNumber track head record < 2 ^ 64 ∧
            g.exactNumber track head record * g.sectorBytes.toNat < 2 ^ 64 then
          some (g.exactNumber track head record * g.sectorBytes.toNat)
        else none)) ∧
    (∀ g : Geometry, g.flaw? = none ↔ g.heads ≠ 0 ∧ g.sectorsPerTrack ≠ 0 ∧ g.sectorBytes ≠ 0 ∧
      (1023 * g.heads.toNat * g.sectorsPerTrack.toNat + 63 * g.sectorsPerTrack.toNat + 255 + 1) *
        g.sectorBytes.toNat < 2 ^ 64) ∧
    (∀ (g : Geometry) (w : OrderWords) (sector : Sector), g.flaw? = none →
      Order.ofWords w = .ok (.read sector) →
      ∃ offset, g.byteOffset? sector.track sector.head sector.record = some offset ∧
        offset.toNat + g.sectorBytes.toNat < 2 ^ 64) ∧
    ∀ (c : Configuration) (terminal : T) (cabinet : S) (events : List Event) (bus now : Bus T S),
      c.build terminal cabinet = (events, .ok bus) → bus.Later now →
      ∀ (limit : ℕ) (i : Instruction) (m : Machine) (r : Reply (Bus T S)),
        now.dispatch limit i m = some r → ∀ reason, r.result ≠ .error (.configuration reason) := by
  refine ⟨?_, Geometry.flaw?_eq_none_iff, fun _ _ _ h hw => Geometry.exists_offset h hw, ?_⟩
  · intro g track head record
    rw [g.recordNumber?_eq, g.byteOffset?_eq, map_toNat_exactly?]
    refine ⟨rfl, ?_⟩
    by_cases hnumber : g.exactNumber track head record < 2 ^ 64
    · simp only [hnumber, true_and, if_true, map_toNat_exactly?]
    · simp only [hnumber, false_and, if_false, Option.map_none]
  · intro c terminal cabinet events bus now hbuild hlater limit i m r hr reason hresult
    obtain ⟨-, hbus⟩ := Configuration.build_flawless hbuild
    obtain ⟨-, hfails⟩ := Bus.dispatch_flawless (hlater.flawless hbus) hr
    exact (hfails _ hresult).ne_configuration reason rfl

/-- A configuration with one disk controller. -/
def oneDisk : Configuration := { devices := DeviceTable.empty.insert "26" .disk }

/-- It is built into a bus, and the bus runs a program that reads from a missing unit. -/
theorem geometry_exact_oneDisk : ∃ (events : List Event) (bus : Bus KeyboardTerminal MemoryCabinet)
    (r : Reply (Bus KeyboardTerminal MemoryCabinet)),
    oneDisk.build {} {} = (events, .ok bus) ∧
      bus.dispatch 4 ⟨.output, 0o17, 0o26⟩ searching = some r ∧
      ∀ reason, r.result ≠ .error (.configuration reason) := by
  let controller : Controller MemoryCabinet := ⟨{}, {}, {}⟩
  let bus : Bus KeyboardTerminal MemoryCabinet := ({} : Bus _ _).set 0o26 (.disk controller)
  have hbuild : ∃ events, oneDisk.build ({} : KeyboardTerminal) ({} : MemoryCabinet) =
      (events, .ok bus) := ⟨_, rfl⟩
  obtain ⟨events, hbuild⟩ := hbuild
  obtain ⟨_, last, hrun, -⟩ := run_searching
  have hdevice := Bus.device_set ({} : Bus KeyboardTerminal MemoryCabinet) 0o26 0o26
    (.disk controller) (by decide)
  have hstarts : bus.Starts ⟨.output, 0o17, 0o26⟩ controller := ⟨hdevice, rfl, rfl⟩
  have hreply := (Bus.dispatch_starts hstarts).trans (congrArg (Option.map _) hrun)
  exact ⟨events, bus, _, hbuild, hreply,
    Bus.geometry_exact.2.2.2 oneDisk {} {} events bus bus hbuild .refl 4 _ searching _ hreply⟩

end PeripheralBus
