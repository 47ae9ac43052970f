import PeripheralBus.Bus
import PeripheralBus.Proofs.Channel.Ending
import PeripheralBus.Proofs.Channel.Lifetime

/-!
# What an instruction may change

Whatever device an instruction comes to, it keeps to one contract with the processor: it signals
success at most once, and not when it fails; it brings a word into the accumulator only as an input
that succeeds; and only a channel program reaches memory and the DMA registers.

* `Machine.signal`, `signalled`: the two registers that tell of success, and what a signal makes of
  them.
* `Reply.Ordinary`: the contract of an instruction that starts no channel program.
* `Device.perform_ordinary`: **every device honours it**, from one lemma a device.
* `Controller.run_processor`: a channel program leaves the accumulator and the two registers alone.
* `Controller.programReply_signal`: it is told of as a success when it ended at a halt.
* `Bus.Starts`: an instruction starts a channel program.
* `Bus.dispatch_contract`: the whole contract, for every instruction on every bus.
-/

namespace PeripheralBus

open Line Pack

variable {T S : Type} [Terminal T] [Cabinet S]

/-! ## Telling of success -/

/-- The two registers that tell a program of success. -/
def Machine.signal (m : Machine) : Word × Word := (m.keys, m.rp)

/-- **What a signal makes of the two registers**: with the mode bit set in `keys` the condition bit
is set there too, and without it the instruction pointer moves on by one word. -/
def signalled : Word × Word → Word × Word
  | (keys, rp) => if keys &&& 0o10000 ≠ 0 then (keys ||| 0o100, rp) else (keys, rp + 1)

theorem Machine.signal_signalSuccess (m : Machine) :
    m.signalSuccess.signal = signalled m.signal := by
  by_cases h : m.keys &&& conditionMode ≠ 0
  · rw [signalSuccess, if_pos h]
    exact (if_pos h).symm
  · rw [signalSuccess, if_neg h]
    exact (if_neg h).symm

@[simp] theorem Machine.signalSuccess_a (m : Machine) : m.signalSuccess.a = m.a := by
  unfold signalSuccess
  split <;> rfl

@[simp] theorem Machine.signalSuccess_memory (m : Machine) : m.signalSuccess.memory = m.memory := by
  unfold signalSuccess
  split <;> rfl

@[simp] theorem Machine.signalSuccess_dma (m : Machine) : m.signalSuccess.dma = m.dma := by
  unfold signalSuccess
  split <;> rfl

/-! ## Ordinary instructions -/

/-- **The contract of an instruction that starts no channel program.** -/
structure Reply.Ordinary {D : Type} (i : Instruction) (m : Machine) (r : Reply D) : Prop where
  signal : r.machine.signal = m.signal ∨
    (r.machine.signal = signalled m.signal ∧ r.result = .ok () ∧ i.kind ≠ .control)
  accumulator : r.machine.a = m.a ∨ (i.kind = .input ∧ r.result = .ok ())
  memory : r.machine.memory = m.memory
  dma : r.machine.dma = m.dma

namespace Reply

variable {D E : Type} {i : Instruction} {m : Machine}

/-- A device that leaves the machine alone honours the contract. -/
theorem Ordinary.of_machine {r : Reply D} (h : r.machine = m) : r.Ordinary i m := by
  rw [← h]
  exact ⟨.inl rfl, .inl rfl, rfl, rfl⟩

/-- A failure is no signal. -/
theorem Ordinary.signal_of_error {r : Reply D} {fault : Fault} (h : r.Ordinary i m)
    (hfault : r.result = .error fault) : r.machine.signal = m.signal := by
  rcases h.signal with hsame | ⟨-, hok, -⟩
  · exact hsame
  · simp [hok] at hfault

/-- A control pulse is no signal. -/
theorem Ordinary.signal_of_control {r : Reply D} (h : r.Ordinary i m)
    (hcontrol : i.kind = .control) : r.machine.signal = m.signal := by
  rcases h.signal with hsame | ⟨-, -, hkind⟩
  · exact hsame
  · exact absurd hcontrol hkind

theorem Ordinary.map {r : Reply D} (h : r.Ordinary i m) (f : D → E) : (r.map f).Ordinary i m :=
  ⟨h.signal, h.accumulator, h.memory, h.dma⟩

theorem ordinary_succeed (device : D) (events : List Event) (h : i.kind ≠ .control) :
    (Reply.succeed device m events).Ordinary i m where
  signal := .inr ⟨m.signal_signalSuccess, rfl, h⟩
  accumulator := .inl m.signalSuccess_a
  memory := m.signalSuccess_memory
  dma := m.signalSuccess_dma

/-- An input that succeeds may bring a word. -/
theorem ordinary_succeed_input (device : D) (a : Word) (events : List Event)
    (h : i.kind = .input) : (Reply.succeed device { m with a } events).Ordinary i m where
  signal := .inr ⟨Machine.signal_signalSuccess _, rfl, by simp [h]⟩
  accumulator := .inr ⟨h, rfl⟩
  memory := Machine.signalSuccess_memory _
  dma := Machine.signalSuccess_dma _

end Reply

/-! ## The devices -/

variable {i : Instruction} {m : Machine} {willRetry : Bool}

theorem Tape.perform_ordinary : (Tape.perform i willRetry m).Ordinary i m := by
  unfold Tape.perform
  split
  · exact .of_machine rfl
  · exact .of_machine rfl
  -- a transfer that is ignored counts as a success, but without a signal
  all_goals
    unfold Tape.transfer
    split <;> exact .of_machine rfl

theorem NullDevice.perform_ordinary : (NullDevice.perform i m).Ordinary i m := by
  unfold NullDevice.perform
  split
  · exact .of_machine rfl
  · exact Reply.ordinary_succeed _ _ (by simp [*])
  · exact .of_machine rfl
  · exact Reply.ordinary_succeed _ _ (by simp [*])
  · exact Reply.ordinary_succeed _ _ (by simp [*])
  · exact .of_machine rfl

theorem Panel.perform_ordinary (p : Panel) : (p.perform i m).Ordinary i m := by
  unfold Panel.perform
  split
  · -- the switches come without a signal
    exact ⟨.inl rfl, .inr ⟨‹_›, rfl⟩, rfl, rfl⟩
  · exact Reply.ordinary_succeed _ _ (by simp [*])
  · exact .of_machine rfl

theorem Console.readCharacter_ordinary (c : Console T) (clear blocking : Bool)
    (h : i.kind = .input) : (c.readCharacter clear blocking m).Ordinary i m := by
  unfold Console.readCharacter
  rcases Terminal.read c.terminal blocking with ⟨e | _ | b, terminal⟩
  · exact .of_machine rfl
  · exact .of_machine rfl
  · exact Reply.ordinary_succeed_input _ _ _ h

theorem Console.writeCharacter_ordinary (c : Console T) (h : i.kind ≠ .control) :
    (c.writeCharacter m).Ordinary i m := by
  unfold Console.writeCharacter
  dsimp only
  split
  · exact Reply.ordinary_succeed _ _ h
  · rcases Terminal.write c.terminal (character m.a) with ⟨e | ⟨⟩, terminal⟩
    · exact .of_machine rfl
    · exact Reply.ordinary_succeed _ _ h

theorem Console.perform_ordinary (c : Console T) : (c.perform i willRetry m).Ordinary i m := by
  unfold Console.perform
  split
  · exact .of_machine rfl
  · have hkind : i.kind ≠ .control := by simp [*]
    unfold Console.sense
    split
    · exact Reply.ordinary_succeed _ _ hkind
    · split
      · rcases Terminal.poll c.terminal patience with ⟨_ | _, terminal⟩
        · exact .of_machine rfl
        · exact Reply.ordinary_succeed _ _ hkind
      · exact .of_machine rfl
  · unfold Console.input
    split
    · exact readCharacter_ordinary _ _ _ ‹_›
    · exact readCharacter_ordinary _ _ _ ‹_›
    · exact Reply.ordinary_succeed_input _ _ _ ‹_›
    · exact Reply.ordinary_succeed_input _ _ _ ‹_›
    · exact .of_machine rfl
  · have hkind : i.kind ≠ .control := by simp [*]
    unfold Console.output
    split
    · exact writeCharacter_ordinary _ hkind
    · exact Reply.ordinary_succeed _ _ hkind
    · exact .of_machine rfl

theorem Controller.input_ordinary (c : Controller S) (h : i.kind = .input) :
    (c.input i m).Ordinary i m := by
  unfold Controller.input
  split
  · exact Reply.ordinary_succeed_input _ _ _ h
  · exact Reply.ordinary_succeed_input _ _ _ h
  · exact Reply.ordinary_succeed_input _ _ _ h
  · exact .of_machine rfl

/-- A disk controller honours the contract unless it is told to run a program. -/
theorem Controller.perform_ordinary (c : Controller S) (limit : ℕ)
    (h : ¬ (i.kind = .output ∧ i.function = 0o17)) :
    ∃ r, c.perform limit i m = some r ∧ r.Ordinary i m := by
  unfold Controller.perform
  split
  · exact ⟨_, rfl, .of_machine rfl⟩
  · exact ⟨_, rfl, .of_machine rfl⟩
  · exact ⟨_, rfl, c.input_ordinary ‹_›⟩
  · have hfunction : i.function ≠ 0o17 := fun hf => h ⟨‹_›, hf⟩
    rw [Controller.output, if_neg hfunction]
    exact ⟨_, rfl, .of_machine rfl⟩

/-- **Every device honours the contract** unless it is a disk controller told to run a program. -/
theorem Device.perform_ordinary (d : Device T S) (limit : ℕ) (willRetry : Bool)
    (h : ∀ c, d = .disk c → ¬ (i.kind = .output ∧ i.function = 0o17)) :
    ∃ r, d.perform limit i willRetry m = some r ∧ r.Ordinary i m := by
  cases d with
  | console c => exact ⟨_, rfl, c.perform_ordinary.map _⟩
  | tape => exact ⟨_, rfl, Tape.perform_ordinary.map _⟩
  | panel p => exact ⟨_, rfl, p.perform_ordinary.map _⟩
  | null => exact ⟨_, rfl, NullDevice.perform_ordinary.map _⟩
  | disk c =>
    obtain ⟨r, hr, hordinary⟩ := c.perform_ordinary (m := m) limit (h c rfl)
    refine ⟨r.map .disk, ?_, hordinary.map _⟩
    rw [Device.perform, hr]
    rfl

/-! ## Channel programs -/

namespace Controller

variable {device : UInt8} {address : Word}

/-- **A program leaves the processor's registers alone**, from its first order to its end. -/
theorem run_processor {c : Controller S} {limit : ℕ} {events : List Event} {last : Ended S}
    (h : c.run limit m device address = some (events, last)) :
    last.machine.processor = m.processor := by
  obtain ⟨visited, t, hp, hlast, -⟩ := run_eq_some_iff.1 h
  -- the order that ends the program leaves the whole machine
  rw [(Activity.step_ended hlast).1]
  exact hp.processor_eq

/-- **A program is told of as a success when it ended at a halt**, and otherwise as its fault. -/
theorem programReply_signal {c : Controller S} {limit : ℕ} {events : List Event} {last : Ended S}
    (h : c.run limit m device address = some (events, last)) :
    (programReply device events last).machine.a = m.a ∧
    ∃ t, Activity.Reaches device ⟨m, c, { address }⟩ t ∧ (t.step device).2 = .ended last ∧
      ((programReply device events last).result = .ok () ↔ t.order? = some .halt) ∧
      (programReply device events last).machine.signal =
        if t.order? = some .halt then signalled m.signal else m.signal := by
  obtain ⟨visited, t, hp, hlast, -⟩ := run_eq_some_iff.1 h
  have ha : last.machine.a = m.a := congrArg Prod.fst (run_processor h)
  have hsignal : last.machine.signal = m.signal := congrArg Prod.snd (run_processor h)
  cases hresult : last.result with
  | ok done =>
    have hhalt : t.order? = some .halt := (Activity.halt_of_step_ok hlast hresult).1
    rw [programReply, hresult]
    refine ⟨last.machine.signalSuccess_a.trans ha, t, ⟨visited, hp⟩, hlast, ?_, ?_⟩
    · exact iff_of_true rfl hhalt
    · rw [if_pos hhalt, ← hsignal]
      exact last.machine.signal_signalSuccess
  | error fault =>
    have hhalt : t.order? ≠ some .halt := by
      intro ho
      rw [Activity.step_of_halt device ho, Activity.finish, Progress.ended.injEq] at hlast
      simp [← hlast] at hresult
    rw [programReply, hresult]
    refine ⟨ha, t, ⟨visited, hp⟩, hlast, ?_, ?_⟩
    · exact iff_of_false (by simp) hhalt
    · rw [if_neg hhalt]
      exact hsignal

end Controller

/-! ## The bus -/

namespace Bus

variable {b : Bus T S} {limit : ℕ}

/-- An instruction starts a channel program: it is output 17 to a disk controller. -/
def Starts (b : Bus T S) (i : Instruction) (c : Controller S) : Prop :=
  b.device i.device = .disk c ∧ i.kind = .output ∧ i.function = 0o17

/-- An instruction that starts no channel program has an ordinary reply. -/
theorem dispatch_ordinary (limit : ℕ) (m : Machine) (h : ∀ c, ¬ b.Starts i c) :
    ∃ r, b.dispatch limit i m = some r ∧ r.Ordinary i m := by
  have hdevice : ∀ c, b.device i.device = .disk c → ¬ (i.kind = .output ∧ i.function = 0o17) :=
    fun c hc hi => h c ⟨hc, hi⟩
  obtain ⟨r, hr, hordinary⟩ :=
    (b.device i.device).perform_ordinary (m := m) limit (b.willRetry m) hdevice
  rw [dispatch, hr]
  exact ⟨_, rfl, hordinary.signal, hordinary.accumulator, hordinary.memory, hordinary.dma⟩

/-- An instruction that starts a channel program has the program's reply. -/
theorem dispatch_starts {c : Controller S} (h : b.Starts i c) :
    b.dispatch limit i m = (c.run limit m i.device m.a).map fun ran =>
      let reply := Controller.programReply i.device ran.1 ran.2
      let routed := Event.debug .dispatch s!"{i.text} ({(b.device i.device).name})"
      { result := reply.result
        device := b.set i.device (.disk reply.device)
        machine := reply.machine
        events := routed :: reply.events } := by
  obtain ⟨hdevice, hkind, hfunction⟩ := h
  simp only [dispatch, hdevice, Device.perform, Controller.perform, hkind, Controller.output,
    if_pos hfunction, Option.map_map]
  rfl

/-- **Every device honours one contract with the processor.** Whatever is attached to the bus,
whatever its terminals do and in whatever state the machine is, an instruction is answered, unless
the channel program that it starts does not end. It signals success at most once, and neither when
it fails nor as a control pulse; only an input that succeeds changes the accumulator; only an
instruction that starts a channel program changes memory or the DMA registers, and that one signals
success exactly when the program ended at a halt. -/
theorem dispatch_contract (b : Bus T S) (limit : ℕ) (i : Instruction) (m : Machine) :
    (b.dispatch limit i m = none ↔ ∃ c, b.Starts i c ∧ c.run limit m i.device m.a = none) ∧
    ∀ r, b.dispatch limit i m = some r →
      (r.machine.signal = m.signal ∨ r.machine.signal = signalled m.signal) ∧
      (∀ fault, r.result = .error fault → r.machine.signal = m.signal) ∧
      (i.kind = .control → r.machine.signal = m.signal) ∧
      (r.machine.a ≠ m.a → i.kind = .input ∧ r.result = .ok ()) ∧
      (r.machine.memory ≠ m.memory ∨ r.machine.dma ≠ m.dma → ∃ c, b.Starts i c) ∧
      ∀ c, b.Starts i c → ∃ t last,
        Activity.Reaches i.device ⟨m, c, { address := m.a }⟩ t ∧
        (t.step i.device).2 = .ended last ∧ (r.result = .ok () ↔ t.order? = some .halt) ∧
        r.machine.signal = if t.order? = some .halt then signalled m.signal else m.signal := by
  by_cases hstarts : ∃ c, b.Starts i c
  · -- there is one device at the address, so the reply is that of its program
    obtain ⟨c, hc⟩ := hstarts
    have honly : ∀ c', b.Starts i c' → c' = c := by
      intro c' hc'
      exact Device.disk.inj (hc'.1.symm.trans hc.1)
    rw [dispatch_starts hc]
    constructor
    · rw [Option.map_eq_none_iff]
      constructor
      · intro hrun
        exact ⟨c, hc, hrun⟩
      · rintro ⟨c', hc', hrun⟩
        rwa [honly c' hc'] at hrun
    · intro r hr
      obtain ⟨⟨events, last⟩, hrun, rfl⟩ := Option.map_eq_some_iff.1 hr
      obtain ⟨ha, t, ht, hlast, hresult, hsignal⟩ := Controller.programReply_signal hrun
      refine ⟨?_, ?_, ?_, ?_, fun _ => ⟨c, hc⟩, ?_⟩
      · rw [hsignal]
        split
        · exact .inr rfl
        · exact .inl rfl
      · intro fault hfault
        have hhalt : t.order? ≠ some .halt := fun ho => by simp [hresult.2 ho] at hfault
        rw [hsignal, if_neg hhalt]
      · intro hcontrol
        simp [hc.2.1] at hcontrol
      · intro hne
        exact absurd ha hne
      · intro c' hc'
        rw [honly c' hc']
        exact ⟨t, last, ht, hlast, hresult, hsignal⟩
  · -- any other instruction is answered, by a reply that is ordinary
    have hstarts := not_exists.1 hstarts
    obtain ⟨r, hr, hordinary⟩ := dispatch_ordinary limit m hstarts
    rw [hr]
    constructor
    · simp [hstarts]
    · rintro _ ⟨⟩
      refine ⟨hordinary.signal.imp id And.left, fun _ => hordinary.signal_of_error,
        hordinary.signal_of_control, hordinary.accumulator.resolve_left, ?_,
        fun c hc => absurd hc (hstarts c)⟩
      rintro (hne | hne)
      · exact absurd hordinary.memory hne
      · exact absurd hordinary.dma hne

/-- In condition mode, a program that selects a unit and halts sets the condition bit. -/
theorem dispatch_contract_conditionMode : ∃ r,
    (({} : Bus KeyboardTerminal MemoryCabinet).set 0o26 (.disk oneUnit)).dispatch 2
        ⟨.output, 0o17, 0o26⟩ { selecting 1 with keys := 0o10000, rp := 0o1000 } = some r ∧
      r.machine.signal = (0o10100, 0o1000) := by
  let m : Machine := { selecting 1 with keys := 0o10000, rp := 0o1000 }
  obtain ⟨-, ht, hp⟩ := path_selecting oneUnit 0o26 1 (m := m) (by decide) rfl
  have hrun := Controller.run_eq_some_iff.2
    ⟨_, _, hp, Activity.step_of_halt 0o26 ht, Nat.lt_succ_self 1, rfl⟩
  have hdevice := Bus.device_set ({} : Bus KeyboardTerminal MemoryCabinet) 0o26 0o26
    (.disk oneUnit) (by decide)
  have hstarts : Starts _ ⟨.output, 0o17, 0o26⟩ oneUnit := ⟨hdevice, rfl, rfl⟩
  have hreply := (dispatch_starts hstarts).trans (congrArg (Option.map _) hrun)
  obtain ⟨-, -, -, -, -, hstarted⟩ := (dispatch_contract _ 2 _ m).2 _ hreply
  obtain ⟨u, last, -, -, hresult, hsignal⟩ := hstarted oneUnit hstarts
  refine ⟨_, hreply, hsignal.trans ?_⟩
  rw [if_pos (hresult.1 rfl)]
  show signalled (0o10000, 0o1000) = (0o10100, 0o1000)
  decide

end Bus

end PeripheralBus
