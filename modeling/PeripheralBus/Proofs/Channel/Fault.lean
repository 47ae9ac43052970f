import PeripheralBus.Proofs.Channel.Frame
import PeripheralBus.Proofs.Channel.Selection
import PeripheralBus.Proofs.Pack.Geometry

/-!
# What a program can fail with

A program fails by what it is made of, an unknown code or an interrupt order, or by a transfer from
an image that is open. A record outside the geometry is a third way, which a geometry without a flaw
rules out. So a controller that finds no image has nothing to fail with but the program itself: a
missing unit shows in the status word and nowhere else.

* `ProgramFault`, `TransferFault`: the two kinds of faults.
* `fault_of_step`: **what a step fails with**, for a geometry without a flaw.
* `step_geometry`, `Path.fault_of_step`: programs keep the geometry, so all of it holds of them.
* `OpensNothing`: a cabinet of which no image can be opened, now or later.
* `Vacant`, `vacant_step`: a controller of such a cabinet with nothing open, and that it stays so.
* `run_faults`: what a run fails with; without images, all that it changes are the words that it
  stores.
-/

namespace PeripheralBus

open Pack

/-- Faults that tell of the program: a code that no order has, or an interrupt order. -/
inductive ProgramFault : Fault → Prop
  | unrecognized (code : UInt8) (address : Word) : ProgramFault (.unrecognizedOrder code address)
  | interrupt (vector address : Word) : ProgramFault (.interruptOrder vector address)

/-- Faults that tell of a transfer from an open image. -/
inductive TransferFault : Fault → Prop
  | count (channel register : Word) : TransferFault (.invalidCount channel register)
  | short (file : String) (expected got : ℕ) : TransferFault (.shortRead file expected got)
  | host (error : Host.Error) : TransferFault (.host error)

/-- **A geometry without a flaw has room for every record that a read order can name**: the record
has an offset, and ends inside the 64-bit range. -/
theorem Pack.Geometry.exists_offset {g : Geometry} (h : g.flaw? = none) {w : OrderWords}
    {sector : Sector} (hw : Order.ofWords w = .ok (.read sector)) :
    ∃ offset, g.byteOffset? sector.track sector.head sector.record = some offset ∧
      offset.toNat + g.sectorBytes.toNat < 2 ^ 64 := by
  obtain ⟨-, htrack, hhead⟩ : sector.Fits := Order.fits_of_ofWords hw
  obtain ⟨offset, hoffset, -, hend⟩ := byteOffset?_of_flawless h (Nat.le_of_lt_succ htrack)
    (Nat.le_of_lt_succ hhead) sector.record
  exact ⟨offset, hoffset, hend⟩

variable {S : Type} [Cabinet S]

namespace Activity

variable {device : UInt8} {s t : Activity S} {last : Ended S}

/-! ## Faults of a step -/

/-- A read order for a record inside the geometry goes on when no image is open, whatever the
channel asks for. -/
theorem read_of_closed {sector : Sector} {offset : UInt64}
    (hoffset : s.controller.geometry.byteOffset? sector.track sector.head sector.record =
      some offset)
    (hmounted : s.controller.mount.mounted = none) :
    (s.read sector).2 = .ok s.becomeNotReady := by
  unfold read
  simp only [hoffset, hmounted]

/-- With an image open it fails when the channel asks for fewer than no words. -/
theorem read_of_negative {sector : Sector} {unit : Mounted S} {offset : UInt64}
    (hoffset : s.controller.geometry.byteOffset? sector.track sector.head sector.record =
      some offset)
    (hmounted : s.controller.mount.mounted = some unit) (hcount : s.wordsLeft < 0) :
    (s.read sector).2 = .error (.invalidCount s.registers.dmaChannel
      (s.machine.dmaRegister s.countIndex), s.controller) := by
  rw [wordsLeft, countIndex] at hcount
  unfold read
  simp only [hoffset, hmounted, if_pos hcount, countIndex]

/-- **What a read order fails with** for a record inside the geometry: a fault of the transfer from
the image that is open. -/
theorem fault_of_read {sector : Sector} {offset : UInt64} {fault : Fault} {c : Controller S}
    (hoffset : s.controller.geometry.byteOffset? sector.track sector.head sector.record =
      some offset)
    (h : (s.read sector).2 = .error (fault, c)) :
    TransferFault fault ∧ s.controller.mount.isOpen = true := by
  cases hm : s.controller.mount.mounted with
  | none => simp [read_of_closed hoffset hm] at h
  | some unit =>
    refine ⟨?_, by rw [Mount.isOpen, hm, Option.isSome_some]⟩
    rcases lt_or_ge s.wordsLeft 0 with hcount | hcount
    · rw [read_of_negative hoffset hm hcount, Except.error.injEq, Prod.mk.injEq] at h
      obtain ⟨rfl, -⟩ := h
      exact .count _ _
    · rcases hfetch : unit.fetch offset (2 * s.wordsLeft.toNat) with ⟨fetched, unit'⟩
      rw [read_of_mounted hoffset hm hcount hfetch] at h
      cases fetched with
      | ok bytes => simp [afterFetch] at h
      | error other =>
        rw [afterFetch, Except.error.injEq, Prod.mk.injEq] at h
        obtain ⟨rfl, -⟩ := h
        rcases Mounted.fetch_fault hfetch with ⟨e, rfl⟩ | ⟨got, rfl⟩
        · exact .host e
        · exact .short _ _ got

/-- **What a step fails with**, for a geometry without a flaw: a fault of the program, or a fault of
the transfer at a read order that finds an image open. -/
theorem fault_of_step (hgeometry : s.controller.geometry.flaw? = none)
    (h : (s.step device).2 = .ended last) {fault : Fault} (hfault : last.result = .error fault) :
    ProgramFault fault ∨ (TransferFault fault ∧ (∃ sector, s.order? = some (.read sector)) ∧
      s.controller.mount.isOpen = true) := by
  rcases step_ends h with ⟨code, -, -, rfl⟩ | ⟨o, ho, hperform⟩
  · obtain rfl := Except.error.inj hfault
    exact .inl (.unrecognized code _)
  · cases o with
    | halt =>
      simp only [perform, finish, Progress.ended.injEq] at hperform
      simp [← hperform] at hfault
    | interrupt vector =>
      simp only [perform, finish, Progress.ended.injEq] at hperform
      rw [← hperform, Except.error.injEq] at hfault
      subst hfault
      exact .inl (.interrupt vector _)
    | read sector =>
      obtain ⟨other, c, hread, rfl⟩ := ended_of_read hperform
      obtain rfl := Except.error.inj hfault
      obtain ⟨offset, hoffset, -⟩ := Geometry.exists_offset hgeometry (order?_eq_some_iff.1 ho).2
      obtain ⟨htransfer, hopen⟩ := fault_of_read (s := s.countExecuted) hoffset hread
      exact .inr ⟨htransfer, ⟨sector, ho⟩, hopen⟩
    | _ => simp [perform] at hperform

/-! ## The geometry -/

/-- **A step keeps the geometry.** -/
theorem step_geometry (s : Activity S) (device : UInt8) :
    (s.step device).2.controller.geometry = s.controller.geometry := by
  by_cases h : ∃ field, s.order? = some (.selectUnit field)
  · obtain ⟨field, ho⟩ := h
    rw [step_of_select device ho]
  · rcases step_controller_of_ne_select device (not_exists.1 h) with hsame | ⟨_, _, _, -, hmoved⟩
    · rw [hsame]
    · rw [hmoved]

/-- What every step keeps of the controller holds all along a path. -/
theorem Path.controller_invariant {P : Controller S → Prop}
    (keeps : ∀ a : Activity S, P a.controller → P (a.step device).2.controller)
    {visited : List (Activity S)} (hp : Path device s visited t) (hs : P s.controller) :
    P t.controller ∧ ∀ a ∈ visited, P a.controller := by
  refine hp.invariant (P := fun a => P a.controller) ?_ hs
  intro a next ha hnext
  have hstep := keeps a ha
  rwa [hnext] at hstep

theorem Path.geometry_eq {visited : List (Activity S)} (hp : Path device s visited t) :
    t.controller.geometry = s.controller.geometry :=
  (hp.controller_invariant (P := fun c => c.geometry = s.controller.geometry)
    (fun a ha => (a.step_geometry device).trans ha) rfl).1

/-- What a program fails with that began with a geometry without a flaw. -/
theorem Path.fault_of_step {visited : List (Activity S)} (hp : Path device s visited t)
    (hgeometry : s.controller.geometry.flaw? = none) (h : (t.step device).2 = .ended last)
    {fault : Fault} (hfault : last.result = .error fault) :
    ProgramFault fault ∨ (TransferFault fault ∧ (∃ sector, t.order? = some (.read sector)) ∧
      t.controller.mount.isOpen = true) := by
  rw [← hp.geometry_eq] at hgeometry
  exact Activity.fault_of_step hgeometry h hfault

end Activity

/-! ## Missing units -/

namespace Pack

/-- A cabinet after some attempts to open images. -/
inductive AfterAttempts (cabinet : S) : S → Prop
  | start : AfterAttempts cabinet cabinet
  | attempt {now : S} (name : String) (h : AfterAttempts cabinet now) :
      AfterAttempts cabinet (Cabinet.openImage now name).2

/-- **No image of a cabinet can be opened**, now or after any attempts. -/
def OpensNothing (cabinet : S) : Prop :=
  ∀ now, AfterAttempts cabinet now → ∀ name image, (Cabinet.openImage now name).1 ≠ .ok image

theorem AfterAttempts.tail {cabinet now : S} {name : String}
    (h : AfterAttempts (Cabinet.openImage cabinet name).2 now) : AfterAttempts cabinet now := by
  induction h with
  | start => exact .attempt name .start
  | attempt other _ ih => exact .attempt other ih

/-- A selection of such a cabinet opens nothing. -/
theorem OpensNothing.select {cabinet : S} (h : OpensNothing cabinet) {m : Mount S}
    (hm : m.mounted = none) (name : String) :
    (m.select cabinet name).mount.mounted = none ∧
      OpensNothing (m.select cabinet name).cabinet := by
  have hlater : OpensNothing (Cabinet.openImage cabinet name).2 := fun now hnow => h now hnow.tail
  have hname : m.name? ≠ some name := by simp [Mount.name?, hm]
  unfold Mount.select
  rw [if_neg hname]
  rcases hopen : Cabinet.openImage cabinet name with ⟨e | image, after⟩
  · rw [hopen] at hlater
    exact ⟨rfl, hlater⟩
  · exact absurd (congrArg Prod.fst hopen) (h cabinet .start name image)

end Pack

/-- A controller with nothing open, of whose cabinet no image can be opened. -/
structure Vacant (c : Controller S) : Prop where
  closed : c.mount.mounted = none
  cabinet : OpensNothing c.cabinet

namespace Activity

variable {device : UInt8} {s t : Activity S}

/-- **A vacant controller stays vacant.** -/
theorem vacant_step (h : Vacant s.controller) (device : UInt8) :
    Vacant (s.step device).2.controller := by
  by_cases hselect : ∃ field, s.order? = some (.selectUnit field)
  · obtain ⟨field, ho⟩ := hselect
    obtain ⟨hclosed, hcabinet⟩ := h.cabinet.select h.closed (unitName device (unitNumber field))
    rw [step_of_select device ho]
    exact ⟨hclosed, hcabinet⟩
  · -- without an image there is nothing to fetch from
    rcases step_controller_of_ne_select device (not_exists.1 hselect) with
      hsame | ⟨unit, -, -, hmounted, -⟩
    · rw [hsame]
      exact h
    · rw [h.closed] at hmounted
      cases hmounted

theorem Path.vacant {visited : List (Activity S)} (hp : Path device s visited t)
    (h : Vacant s.controller) : Vacant t.controller ∧ ∀ r ∈ visited, Vacant r.controller :=
  hp.controller_invariant (fun _ ha => vacant_step ha device) h

theorem not_isOpen_of_vacant (h : Vacant s.controller) : s.controller.mount.isOpen = false := by
  rw [Mount.isOpen, h.closed, Option.isSome_none]

end Activity

/-- **Missing units are never fatal.** Take a run of a controller with a geometry without a flaw. It
fails with a fault of its program, or at a read order that found an image open, with a fault of that
transfer. If nothing is open before the run and no image can be opened, it fails with faults of its
program only, whatever the DMA registers ask for: they stay as they were, nothing is open
afterwards, and the machine is the old one with the words that the run's store orders wrote. -/
theorem Controller.run_faults {c : Controller S} {limit : ℕ} {m : Machine} {device : UInt8}
    {address : Word} {events : List Event} {last : Ended S} (hgeometry : c.geometry.flaw? = none)
    (h : c.run limit m device address = some (events, last)) :
    ∃ visited t, Activity.Path device ⟨m, c, { address }⟩ visited t ∧
      (t.step device).2 = .ended last ∧
      (∀ fault, last.result = .error fault → ProgramFault fault ∨
        (TransferFault fault ∧ (∃ sector, t.order? = some (.read sector)) ∧
          t.controller.mount.isOpen = true)) ∧
      (c.openName? = none → OpensNothing c.cabinet →
        (∀ fault, last.result = .error fault → ProgramFault fault) ∧
        last.machine.dma = m.dma ∧ last.controller.openName? = none ∧
        last.machine = Activity.afterStores m visited ∧
        ∀ a, last.machine.memory.read a ≠ m.memory.read a → ∃ s ∈ visited,
          s.order? = some (.storeStatus a) ∨ s.order? = some (.storeAddress a)) := by
  obtain ⟨visited, t, hp, hlast, -⟩ := run_eq_some_iff.1 h
  obtain ⟨hmachine, hname, -⟩ := Activity.step_ended hlast
  have hfaults : ∀ fault, last.result = .error fault → ProgramFault fault ∨
      (TransferFault fault ∧ (∃ sector, t.order? = some (.read sector)) ∧
        t.controller.mount.isOpen = true) :=
    fun _ => hp.fault_of_step hgeometry hlast
  refine ⟨visited, t, hp, hlast, hfaults, ?_⟩
  intro hclosed hcabinet
  have hvacant : Vacant c := ⟨Option.map_eq_none_iff.1 hclosed, hcabinet⟩
  obtain ⟨ht, hvisited⟩ := hp.vacant hvacant
  have hquiet : ∀ s ∈ visited, ¬ s.Transfers device := by
    intro s hs htransfers
    have hopen := htransfers.isOpen
    rw [Activity.not_isOpen_of_vacant (hvisited s hs)] at hopen
    cases hopen
  have hstores : last.machine = Activity.afterStores m visited := by
    rw [hmachine, hp.machine_eq hquiet]
  refine ⟨?_, ?_, ?_, hstores, ?_⟩
  · intro fault hfault
    rcases hfaults fault hfault with hprogram | ⟨-, -, hopen⟩
    · exact hprogram
    · rw [Activity.not_isOpen_of_vacant ht] at hopen
      cases hopen
  · rw [hstores, Activity.afterStores_dma]
  · rw [hname, Controller.openName?, Mount.name?, ht.closed, Option.map_none]
  · intro a hne
    rw [hmachine] at hne
    obtain ⟨s, hs, hwrites⟩ := hp.writes_of_ne hne
    refine ⟨s, hs, ?_⟩
    cases hwrites with
    | status ho => exact .inl ho
    | address ho => exact .inr ho
    | transfer ho hopen hnext hi => exact absurd ⟨⟨_, ho⟩, hopen, _, hnext⟩ (hquiet s hs)

theorem MemoryCabinet.opensNothing : OpensNothing ({} : MemoryCabinet) := by
  intro now hnow name image
  have hsame : now = {} := by
    induction hnow with
    | start => rfl
    | attempt name _ ih =>
      rw [ih]
      rfl
  rw [hsame]
  simp [Cabinet.openImage, MemoryCabinet.content?]

/-- A program that selects a unit, reads, stores the status and halts. -/
def searchingOrders : List Order :=
  [.selectUnit 1, .read ⟨0, 0, 0, 0⟩, .storeStatus 0o400, .halt]

/-- A machine with this program, on which all DMA channels ask for fewer than no words. -/
def searching : Machine where
  memory := Memory.zero.writeAll 0 (Listing.wordsOf searchingOrders)
  dma := Vector.replicate 64 0o1000

theorem has_searching : searching.memory.Has 0 (Listing.wordsOf searchingOrders) :=
  Memory.has_writeAll (by decide)

theorem fits_searching : ∀ o ∈ searchingOrders, o.Fits := by
  simp [searchingOrders, Order.Fits, Sector.Fits]

/-- Without images the program comes to its halt, whatever its channel asks for. -/
theorem run_searching : ∃ events last,
    (⟨{}, {}, {}⟩ : Controller MemoryCabinet).run 4 searching 0o26 0 = some (events, last) ∧
      last.result = .ok ⟨7, statusNotReady, some 0, 4, 0⟩ ∧
      last.machine.memory.read 0o400 = statusNotReady := by
  let s₀ : Activity MemoryCabinet := ⟨searching, ⟨{}, {}, {}⟩, { address := 0 }⟩
  let s₁ : Activity MemoryCabinet := (s₀.countExecuted.selectUnit 0o26 1).2.advance 2
  let s₂ : Activity MemoryCabinet := s₁.countExecuted.becomeNotReady.advance 3
  let s₃ : Activity MemoryCabinet := (s₂.countExecuted.write 0o400 statusNotReady).advance 2
  have ho₀ : s₀.order? = some (.selectUnit 1) :=
    Listing.order?_of_has has_searching fits_searching rfl
  have ho₁ : s₁.order? = some (.read ⟨0, 0, 0, 0⟩) :=
    Listing.order?_of_has has_searching fits_searching rfl
  have ho₂ : s₂.order? = some (.storeStatus 0o400) :=
    Listing.order?_of_has has_searching fits_searching rfl
  have h₀ : (s₀.step 0o26).2 = .running s₁ := (Activity.step_of_order 0o26 ho₀).1
  have h₁ : (s₁.step 0o26).2 = .running s₂ := by
    have hoffset : s₁.controller.geometry.byteOffset? 0 0 0 = some 0 := by decide
    have hread : (s₁.countExecuted.read ⟨0, 0, 0, 0⟩).2 = .ok s₁.countExecuted.becomeNotReady :=
      Activity.read_of_closed hoffset rfl
    rw [(Activity.step_of_order 0o26 ho₁).1]
    exact Activity.perform_of_read_ok 0o26 hread
  have h₂ : (s₂.step 0o26).2 = .running s₃ := (Activity.step_of_order 0o26 ho₂).1
  have h₃ : s₃.order? = some .halt := by
    refine Listing.order?_of_has (has_searching.of_eq fun i hi => ?_) fits_searching rfl
    have hi : i < 9 := hi
    show (searching.memory.write 0o400 statusNotReady).read _ = _
    rw [Memory.read_write, if_neg (by interval_cases i <;> decide)]
  refine ⟨_, _, Controller.run_eq_some_iff.2 ⟨[s₀, s₁, s₂], s₃,
    .cons h₀ (.cons h₁ (.cons h₂ (.nil s₃))), Activity.step_of_halt 0o26 h₃, by decide, rfl⟩, rfl,
    ?_⟩
  show (searching.memory.write 0o400 statusNotReady).read 0o400 = statusNotReady
  rw [Memory.read_write, if_pos rfl]

/-- Its DMA registers stay as they were, and nothing is open afterwards. -/
theorem run_faults_searching : ∃ events last,
    (⟨{}, {}, {}⟩ : Controller MemoryCabinet).run 4 searching 0o26 0 = some (events, last) ∧
      last.result = .ok ⟨7, statusNotReady, some 0, 4, 0⟩ ∧
      last.machine.dma = searching.dma ∧ last.controller.openName? = none ∧
      last.machine.memory.read 0o400 = statusNotReady := by
  obtain ⟨events, last, hrun, hresult, hstatus⟩ := run_searching
  have hgeometry : (⟨{}, {}, {}⟩ : Controller MemoryCabinet).geometry.flaw? = none := by decide
  obtain ⟨_, _, -, -, -, hvacant⟩ := Controller.run_faults hgeometry hrun
  obtain ⟨-, hdma, hclosed, -⟩ := hvacant rfl MemoryCabinet.opensNothing
  exact ⟨events, last, hrun, hresult, hdma, hclosed, hstatus⟩

end PeripheralBus
