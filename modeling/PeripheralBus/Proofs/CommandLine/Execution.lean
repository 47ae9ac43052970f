import PeripheralBus.CommandLine.Run
import PeripheralBus.Proofs.Bus.Building
import PeripheralBus.Proofs.Bus.Contract
import PeripheralBus.Proofs.Image

/-!
# What a list of instructions leaves in memory

Each instruction of the command line is stored at every other word from the origin on, and carried
out at once. Only a channel program writes memory besides, so without one the final memory is known
beforehand: **the instructions at their places, the last one where the list comes around, and the
image everywhere else**. The words between instructions are never written, however long the list is:
their addresses are of the other parity.

* `Device.perform_name`, `Bus.dispatch_name`: no instruction makes a device one of another kind.
* `placeOf`: the address of an instruction; `Memory.writeEveryOther`: words at every other address.
* `read_writeEveryOther`, `read_writeEveryOther_of_ne`: what is then read at these places and
  elsewhere.
* `Bus.Quiet`: no word of a list starts a channel program.
* `executeAll_ok`: what a list of instructions leaves of memory and the instruction pointer.
* `run_memory`: **what a run leaves**, in terms of its command line.
-/

namespace PeripheralBus

open Line Pack

variable {T S : Type} [Terminal T] [Cabinet S] {limit : ℕ}

/-! ## Devices stay what they are -/

theorem Device.perform_name {d : Device T S} {i : Instruction} {willRetry : Bool} {m : Machine}
    {r : Reply (Device T S)} (h : d.perform limit i willRetry m = some r) :
    r.device.name = d.name := by
  -- only a disk controller can be without a reply, when its channel program goes on too long
  cases d with
  | console | tape | panel | null =>
    obtain rfl := Option.some.inj h
    rfl
  | disk c =>
    obtain ⟨r, -, rfl⟩ := Option.map_eq_some_iff.1 h
    rfl

/-- **No instruction makes a device one of another kind.** -/
theorem Bus.dispatch_name {b : Bus T S} {i : Instruction} {m : Machine} {r : Reply (Bus T S)}
    (h : b.dispatch limit i m = some r) (address : UInt8) :
    (r.device.device address).name = (b.device address).name := by
  obtain ⟨reply, hperform, rfl⟩ := Option.map_eq_some_iff.1 h
  have hname := Device.perform_name hperform
  by_cases hplace : i.device.toNat < 64
  · rw [b.device_set _ _ _ hplace]
    split
    · rename_i hsame
      rw [hname, hsame]
    · rfl
  · rw [Bus.set, dif_neg hplace]

/-- An ordinary instruction leaves the instruction pointer or moves it on by one word. -/
theorem Reply.Ordinary.rp {D : Type} {i : Instruction} {m : Machine} {r : Reply D}
    (h : r.Ordinary i m) : r.machine.rp = m.rp ∨ r.machine.rp = m.rp + 1 := by
  rcases h.signal with hsame | ⟨hsignal, -, -⟩
  · exact .inl (congrArg Prod.snd hsame)
  · have hrp : r.machine.rp = (signalled m.signal).2 := congrArg Prod.snd hsignal
    rw [hrp, Machine.signal, signalled]
    split
    · exact .inl rfl
    · exact .inr rfl

/-! ## Every other word -/

/-- The address of instruction `i`. -/
def placeOf (origin : Word) (i : ℕ) : Word := origin + UInt16.ofNat (2 * i)

@[simp] theorem placeOf_zero (origin : Word) : placeOf origin 0 = origin := by
  simp [placeOf]

theorem placeOf_succ (origin : Word) (i : ℕ) : placeOf origin (i + 1) = placeOf (origin + 2) i := by
  rw [placeOf, placeOf, Nat.mul_succ, UInt16.ofNat_add, UInt16.add_comm (UInt16.ofNat (2 * i)),
    ← UInt16.add_assoc]
  rfl

/-- All instructions are at addresses of one parity, also around the end of memory. -/
theorem toNat_placeOf_mod_two (origin : Word) (i : ℕ) :
    (placeOf origin i).toNat % 2 = origin.toNat % 2 := by
  rw [placeOf, UInt16.toNat_add, UInt16.toNat_ofNat']
  omega

namespace Memory

/-- Writes words at every other address. -/
def writeEveryOther : Memory → Word → List Word → Memory
  | m, _, [] => m
  | m, address, w :: rest => (m.write address w).writeEveryOther (address + 2) rest

variable {m : Memory} {a x : Word} {words : List Word}

theorem read_writeEveryOther_of_ne (h : ∀ i < words.length, x ≠ placeOf a i) :
    (m.writeEveryOther a words).read x = m.read x := by
  induction words generalizing m a with
  | nil => rfl
  | cons w rest ih =>
    have hfirst : x ≠ a := by simpa using h 0 (by simp)
    have hrest : ∀ i < rest.length, x ≠ placeOf (a + 2) i := by
      intro i hi
      rw [← placeOf_succ]
      exact h (i + 1) (by simpa using hi)
    rw [writeEveryOther, ih hrest, read_write, if_neg hfirst]

/-- **The last word at an address is read back.** -/
theorem read_writeEveryOther {i : ℕ} (hi : i < words.length)
    (hlast : ∀ j, i < j → j < words.length → placeOf a j ≠ placeOf a i) :
    (m.writeEveryOther a words).read (placeOf a i) = words[i] := by
  induction words generalizing m a i with
  | nil => simp at hi
  | cons w rest ih =>
    cases i with
    | zero =>
      -- no later word comes around to the first address
      have hne : ∀ j < rest.length, a ≠ placeOf (a + 2) j := by
        intro j hj
        rw [← placeOf_succ]
        simpa using (hlast (j + 1) (by omega) (by simpa using hj)).symm
      rw [writeEveryOther, placeOf_zero, read_writeEveryOther_of_ne hne, read_write, if_pos rfl]
      rfl
    | succ i =>
      have hrest : ∀ j, i < j → j < rest.length → placeOf (a + 2) j ≠ placeOf (a + 2) i := by
        intro j hij hj
        rw [← placeOf_succ, ← placeOf_succ]
        exact hlast (j + 1) (by omega) (by simpa using hj)
      rw [writeEveryOther, placeOf_succ, ih (by simpa using hi) hrest]
      rfl

end Memory

/-! ## Instructions -/

/-- **No word of a list starts a channel program** on a bus: none is output 17 to a disk
controller. -/
def Bus.Quiet (b : Bus T S) (words : List Word) : Prop :=
  ∀ w ∈ words, ∀ i, Instruction.ofWord? w = some i → (b.device i.device).name = "disk" →
    ¬ (i.kind = .output ∧ i.function = 0o17)

theorem Bus.Quiet.ordinary {b : Bus T S} {w : Word} {words : List Word} (h : b.Quiet (w :: words))
    {i : Instruction} (hi : Instruction.ofWord? w = some i) {m : Machine} {r : Reply (Bus T S)}
    (hr : b.dispatch limit i m = some r) : r.Ordinary i m := by
  have hstarts : ∀ c, ¬ b.Starts i c := by
    rintro c ⟨hdevice, hstarts⟩
    exact h w List.mem_cons_self i hi (by rw [hdevice]; rfl) hstarts
  obtain ⟨r', hr', hordinary⟩ := dispatch_ordinary limit m hstarts
  obtain rfl := Option.some.inj (hr.symm.trans hr')
  exact hordinary

/-- What an instruction leaves of the bus is as quiet. -/
theorem Bus.Quiet.dispatch {b : Bus T S} {w : Word} {words : List Word} (h : b.Quiet (w :: words))
    {i : Instruction} {m : Machine} {r : Reply (Bus T S)} (hr : b.dispatch limit i m = some r) :
    r.device.Quiet words := by
  intro w' hw' i' hi' hdisk
  rw [dispatch_name hr] at hdisk
  exact h w' (List.mem_cons_of_mem w hw') i' hi' hdisk

namespace CommandLine

/-- **The steps of a list that was carried out**: the first word is an instruction that did not
fail, and the others were carried out behind it. -/
theorem executeAll_cons_ok {w : Word} {rest : List Word} {address : Word} {b : Bus T S}
    {m : Machine} {reply : Reply (Bus T S)}
    (h : executeAll limit (w :: rest) address b m = some reply) (hok : reply.result = .ok ()) :
    ∃ i first last, Instruction.ofWord? w = some i ∧
      b.dispatch limit i (place m address w) = some first ∧
      executeAll limit rest (address + 2) first.device first.machine = some last ∧
      last.result = .ok () ∧ reply.machine = last.machine := by
  rw [executeAll] at h
  cases hi : Instruction.ofWord? w with
  | none =>
    obtain rfl : _ = reply := by simpa [hi] using h
    simp at hok
  | some i =>
    cases hfirst : b.dispatch limit i (place m address w) with
    | none => simp [hi, hfirst] at h
    | some first =>
      cases hresult : first.result with
      | error fault =>
        obtain rfl : first = reply := by simpa [hi, hfirst, hresult] using h
        rw [hresult] at hok
        cases hok
      | ok =>
        simp only [hi, hfirst, hresult] at h
        obtain ⟨last, hlast, rfl⟩ := Option.map_eq_some_iff.1 h
        exact ⟨i, first, last, rfl, hfirst, hlast, hok, rfl⟩

/-- **What a list of instructions leaves**: the instructions at every other address, and the
instruction pointer one or two words behind the last of them. -/
theorem executeAll_ok {words : List Word} {address : Word} {b : Bus T S} {m : Machine}
    {reply : Reply (Bus T S)} (h : executeAll limit words address b m = some reply)
    (hok : reply.result = .ok ()) (hquiet : b.Quiet words) :
    reply.machine.memory = m.memory.writeEveryOther address words ∧
      ∀ n, words.length = n + 1 →
        reply.machine.rp = placeOf address n + 1 ∨ reply.machine.rp = placeOf address n + 2 := by
  -- the bus changes from word to word, but what is left of the list stays quiet on it
  induction words generalizing address b m reply with
  | nil =>
    obtain rfl := Option.some.inj h
    exact ⟨rfl, by simp⟩
  | cons w rest ih =>
    obtain ⟨i, first, last, hi, hfirst, hrest, hlast, hmachine⟩ := executeAll_cons_ok h hok
    have hordinary : first.Ordinary i (place m address w) := hquiet.ordinary hi hfirst
    obtain ⟨hmemory, hrp⟩ := ih hrest hlast (hquiet.dispatch hfirst)
    rw [hmachine]
    constructor
    · -- the word was placed before the instruction ran, which left memory alone
      rw [hmemory, hordinary.memory]
      rfl
    · intro n hn
      cases n with
      | zero =>
        -- nothing comes behind this instruction
        obtain rfl : rest = [] := by simpa using hn
        obtain rfl := Option.some.inj hrest
        have htwo : address + 1 + 1 = address + 2 := by rw [UInt16.add_assoc]; rfl
        have hbehind : first.machine.rp = address + 1 ∨ first.machine.rp = address + 1 + 1 :=
          hordinary.rp
        rw [placeOf_zero, ← htwo]
        exact hbehind
      | succ n =>
        rw [placeOf_succ]
        exact hrp n (by simpa using hn)

/-! ## Runs -/

/-- The bytes of the image, none when the command line names no image. -/
def imageBytes (a : Arguments) (files : Host.Files) : Except Host.Error (List UInt8) :=
  match a.image with
  | none => .ok []
  | some path => (files.content path).map Host.Content.toList

/-- Before the first instruction memory holds the image. -/
theorem prepare_ok {a : Arguments} {files : Host.Files} {events : List Event} {m : Machine}
    (h : prepare a files = .ok (events, m)) :
    ∃ bytes, imageBytes a files = .ok bytes ∧
      ∀ x, m.memory.read x = imageWord (a.loadAddress.getD 0) bytes x := by
  unfold prepare at h
  unfold imageBytes
  cases himage : a.image with
  | none =>
    rw [himage] at h
    obtain ⟨-, rfl⟩ := Prod.mk.inj (Except.ok.inj h)
    refine ⟨[], rfl, ?_⟩
    intro x
    simp [imageWord]
  | some path =>
    cases hcontent : files.content path with
    | error e => simp [himage, hcontent, bind, Except.bind] at h
    | ok content =>
      simp only [himage, hcontent] at h
      obtain ⟨-, rfl⟩ := Prod.mk.inj (Except.ok.inj h)
      refine ⟨content.toList, by simp [hcontent, Except.map], ?_⟩
      intro x
      exact Memory.read_storeContent_zero _ content x

/-- **The steps of a run that was carried out**: the bus was built, the image loaded, and all
instructions carried out. -/
theorem run_ok {a : Arguments} {c : Configuration} {files : Host.Files} {terminal : T} {cabinet : S}
    {reply : Reply (Option (Bus T S))} (h : run limit a c files terminal cabinet = some reply)
    (hok : reply.result = .ok ()) :
    ∃ built bus loaded m last, c.build terminal cabinet = (built, .ok bus) ∧
      prepare a files = .ok (loaded, m) ∧
      executeAll limit a.instructions (a.origin.getD usualOrigin) bus m = some last ∧
      last.result = .ok () ∧ reply.machine = last.machine := by
  unfold run at h
  rcases hbuild : c.build terminal cabinet with ⟨built, f | bus⟩
  · obtain rfl : _ = reply := by simpa [hbuild] using h
    simp at hok
  · cases hprepare : prepare a files with
    | error f =>
      obtain rfl : _ = reply := by simpa [hbuild, hprepare] using h
      simp at hok
    | ok prepared =>
      obtain ⟨loaded, m⟩ := prepared
      simp only [hbuild, hprepare] at h
      obtain ⟨last, hlast, rfl⟩ := Option.map_eq_some_iff.1 h
      exact ⟨built, bus, loaded, m, last, rfl, rfl, hlast, hok, rfl⟩

/-- The disks of a bus that was built are those of its configuration. -/
theorem kindAt_of_name {c : Configuration} {terminal : T} {cabinet : S} {events : List Event}
    {bus : Bus T S} (h : c.build terminal cabinet = (events, .ok bus)) {address : UInt8}
    (hdisk : (bus.device address).name = "disk") : c.kindAt address = some .disk := by
  rw [Configuration.build_device_eq h] at hdisk
  cases hkind : c.kindAt address with
  | none => simp [hkind, Device.name] at hdisk
  | some kind =>
    rw [hkind, Option.map_some, Option.getD_some, Configuration.name_made] at hdisk
    cases kind <;> simp [DeviceKind.deviceName] at hdisk ⊢

/-- **A run stores its instructions and nothing else.** Take any command line, with or without an
image, and any configuration for which the run succeeds, where no instruction starts a channel
program at an address that is configured as a disk. In the final memory the last instruction of
those that have one address is there; every other address has its word of the image, or zero; and so
have all addresses of the other parity, whether or not the list comes around the end of memory. The
instruction pointer is one or two words behind the last instruction. -/
theorem run_memory {a : Arguments} {c : Configuration} {files : Host.Files} {terminal : T}
    {cabinet : S} {reply : Reply (Option (Bus T S))}
    (h : run limit a c files terminal cabinet = some reply) (hok : reply.result = .ok ())
    (hquiet : ∀ w ∈ a.instructions, ∀ i, Instruction.ofWord? w = some i →
      c.kindAt i.device = some .disk → ¬ (i.kind = .output ∧ i.function = 0o17)) :
    let origin := a.origin.getD usualOrigin
    let final := reply.machine.memory
    ∃ bytes, imageBytes a files = .ok bytes ∧
      (∀ i (hi : i < a.instructions.length),
        (∀ j, i < j → j < a.instructions.length → placeOf origin j ≠ placeOf origin i) →
        final.read (placeOf origin i) = a.instructions[i]) ∧
      (∀ x, (∀ i < a.instructions.length, x ≠ placeOf origin i) →
        final.read x = imageWord (a.loadAddress.getD 0) bytes x) ∧
      (∀ x : Word, x.toNat % 2 ≠ origin.toNat % 2 →
        final.read x = imageWord (a.loadAddress.getD 0) bytes x) ∧
      ∀ n, a.instructions.length = n + 1 →
        reply.machine.rp = placeOf origin n + 1 ∨ reply.machine.rp = placeOf origin n + 2 := by
  obtain ⟨built, bus, loaded, m, last, hbuild, hprepare, hlast, hresult, hmachine⟩ := run_ok h hok
  obtain ⟨bytes, hbytes, himage⟩ := prepare_ok hprepare
  have hbus : bus.Quiet a.instructions := by
    intro w hw i hi hdisk
    exact hquiet w hw i hi (kindAt_of_name hbuild hdisk)
  obtain ⟨hmemory, hrp⟩ := executeAll_ok hlast hresult hbus
  intro origin final
  have hfinal : final = m.memory.writeEveryOther origin a.instructions := by
    rw [← hmemory, ← hmachine]
  have helsewhere : ∀ x, (∀ i < a.instructions.length, x ≠ placeOf origin i) →
      final.read x = imageWord (a.loadAddress.getD 0) bytes x := by
    intro x hx
    rw [hfinal, Memory.read_writeEveryOther_of_ne hx, himage]
  refine ⟨bytes, hbytes, ?_, helsewhere, ?_, ?_⟩
  · intro i hi hlater
    rw [hfinal]
    exact Memory.read_writeEveryOther hi hlater
  · -- an address of the other parity is no instruction's
    intro x hx
    apply helsewhere
    rintro i hi rfl
    exact hx (toNat_placeOf_mod_two origin i)
  · rw [hmachine]
    exact hrp

/-- A list of instructions around the end of memory, with an image of which only the first word
fits. -/
def aroundTheEnd : Arguments where
  image := some "image"
  loadAddress := some 0o177777
  origin := some 0o177776
  instructions :=
    [Instruction.toWord ⟨.input, 0o16, 0o20⟩, Instruction.toWord ⟨.output, 0o17, 0o20⟩]

/-- A configuration with a panel only. -/
def panelOnly : Configuration where
  devices := ⟨[("20", .panel)], by decide⟩

/-- A file of three bytes. -/
def threeBytes : Host.Files := Host.Files.ofList [("image", .ok (.file (.ofList [1, 2, 3])))]

/-- The second instruction is at address 0; between the two, the image is untouched. -/
theorem run_memory_aroundTheEnd :
    ∃ reply : Reply (Option (Bus KeyboardTerminal MemoryCabinet)),
      run 0 aroundTheEnd panelOnly threeBytes {} {} = some reply ∧ reply.result = .ok () ∧
      reply.machine.memory.read 0 = Instruction.toWord ⟨.output, 0o17, 0o20⟩ ∧
      reply.machine.memory.read 0o177777 = 0x0102 ∧ reply.machine.memory.read 1 = 0 ∧
      (reply.machine.rp = 1 ∨ reply.machine.rp = 2) := by
  have hrun : ∃ reply : Reply (Option (Bus KeyboardTerminal MemoryCabinet)),
      run 0 aroundTheEnd panelOnly threeBytes {} {} = some reply ∧ reply.result = .ok () :=
    ⟨_, rfl, rfl⟩
  obtain ⟨reply, h, hok⟩ := hrun
  have hquiet : ∀ w ∈ aroundTheEnd.instructions, ∀ i, Instruction.ofWord? w = some i →
      panelOnly.kindAt i.device = some .disk → ¬ (i.kind = .output ∧ i.function = 0o17) := by
    -- one is no output, and the other goes to the panel
    simp only [aroundTheEnd, List.forall_mem_cons, List.not_mem_nil, false_implies, implies_true,
      and_true]
    constructor
    · rintro i hi - ⟨hkind, -⟩
      obtain rfl : ⟨.input, 0o16, 0o20⟩ = i := Option.some.inj hi
      cases hkind
    · intro i hi hdisk
      obtain rfl : ⟨.output, 0o17, 0o20⟩ = i := Option.some.inj hi
      cases hdisk
  obtain ⟨bytes, hbytes, hat, -, hgap, hrp⟩ := run_memory h hok hquiet
  obtain rfl : [1, 2, 3] = bytes := Except.ok.inj hbytes
  have hlast : ∀ j, 1 < j → j < aroundTheEnd.instructions.length →
      placeOf 0o177776 j ≠ placeOf 0o177776 1 := by
    intro j hj hlength
    simp only [aroundTheEnd, List.length_cons, List.length_nil] at hlength
    omega
  refine ⟨reply, h, hok, hat 1 (by decide) hlast, ?_, ?_, hrp 1 rfl⟩
  · rw [hgap 0o177777 (by decide)]
    rfl
  · rw [hgap 1 (by decide)]
    rfl

end CommandLine

end PeripheralBus
