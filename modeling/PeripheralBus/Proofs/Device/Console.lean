import Mathlib.Data.List.Basic
import PeripheralBus.Line.KeyboardTerminal
import PeripheralBus.Pack.MemoryCabinet
import PeripheralBus.Proofs.Bus.Contract

/-!
# What a console transports

Whatever instructions come to a console, and whatever becomes of the machine between them, it is a
pair of pipes. Each input that succeeds brings the next character of what was queued into A, and no
other instruction takes one; each output of a character puts it on the terminal, and nothing else
does.

* `Turn`: an instruction that comes to a console, on any machine, or input that arrives.
* `perform_cases`: **what an instruction is to a console**: it reads, tests, writes or does neither.
* `signals`: whether an instruction is told of as a success; `perform_signal`: so it is on every
  machine.
* `readings`: how many characters were read; `input_after`: what is left is what was queued, less so
  many from the front.
* `written`: the characters that outputs wrote; `shown_after`: any terminal that shows what is
  written has shown just those.
* `Bus.dispatch_console`: an instruction that a bus carries out at the address of a console.
* `transports`: all of this, from the first turn on.
-/

namespace PeripheralBus

open Line Pack

variable {T S : Type} [Terminal T] [Cabinet S]

namespace Console

/-- What comes to a console: an instruction, on whatever machine there is then and whatever is
thought of its next word; or input for the terminal. -/
inductive Turn where
  | instruction (i : Instruction) (willRetry : Bool) (m : Machine)
  | input (bytes : List UInt8)

/-- The console after a turn. Input reaches its terminal in the way of `feed`. -/
def next (feed : T → List UInt8 → T) (c : Console T) : Turn → Console T
  | .instruction i willRetry m => (c.perform i willRetry m).device
  | .input bytes => ⟨feed c.terminal bytes⟩

/-- The console after turns. -/
def after (feed : T → List UInt8 → T) (c : Console T) (turns : List Turn) : Console T :=
  turns.foldl (next feed) c

/-- The input that arrived, in order. -/
def queued (turns : List Turn) : List UInt8 :=
  turns.flatMap fun
    | .input bytes => bytes
    | _ => []

/-- Input of a character, on top of what is in A or after clearing it. -/
def isRead (i : Instruction) : Bool := i.kind = .input ∧ (i.function = 0o0 ∨ i.function = 0o10)

/-- The test for a character. -/
def isTest (i : Instruction) : Bool := i.kind = .sense ∧ i.function = 0o7

/-- Output of a character. -/
def isWrite (i : Instruction) : Bool := i.kind = .output ∧ i.function = 0o0

/-- The characters that outputs wrote: the low seven bits of A each time, unless they are zero. -/
def written (turns : List Turn) : List UInt8 :=
  turns.flatMap fun
    | .instruction i _ m =>
      if isWrite i ∧ (m.a &&& 0x7f).toUInt8 ≠ 0 then [(m.a &&& 0x7f).toUInt8] else []
    | .input _ => []

/-! ## One instruction -/

theorem isRead_eq_false {i : Instruction} (h : isWrite i = true ∨ isTest i = true) :
    isRead i = false := by
  simp only [isRead, isWrite, isTest, decide_eq_true_eq, decide_eq_false_iff_not] at h ⊢
  rintro ⟨hkind, -⟩
  simp [hkind] at h

theorem isWrite_eq_false {i : Instruction} (h : isRead i = true ∨ isTest i = true) :
    isWrite i = false := by
  simp only [isRead, isWrite, isTest, decide_eq_true_eq, decide_eq_false_iff_not] at h ⊢
  rintro ⟨hkind, -⟩
  simp [hkind] at h

/-- The test for a character asks the terminal, and succeeds if there is one. -/
def test (c : Console T) (m : Machine) : Reply (Console T) :=
  let (ready, terminal) := Terminal.poll c.terminal patience
  let events := [.line (.polled patience)]
  if ready then .succeed ⟨terminal⟩ m events else { Reply.idle ⟨terminal⟩ m with events }

/-- **What an instruction is to a console**: it reads, writes or tests, or it has nothing to do with
the terminal, and then its reply is of one kind on every machine. -/
theorem perform_cases (c : Console T) (i : Instruction) :
    (isRead i = true ∧ ∀ w m, c.perform i w m = c.readCharacter (i.function = 0o10) w m) ∨
    (isWrite i = true ∧ ∀ w m, c.perform i w m = c.writeCharacter m) ∨
    (isTest i = true ∧ ∀ w m, c.perform i w m = c.test m) ∨
    (isRead i = false ∧ isWrite i = false ∧ isTest i = false ∧
      ((∀ w m, c.perform i w m = .idle c m) ∨ (∀ w m, c.perform i w m = .refuse i c m) ∨
        ∃ f : Word → Word, ∀ w m, c.perform i w m = .succeed c { m with a := f m.a })) := by
  obtain ⟨kind, function, device⟩ := i
  cases kind with
  | control =>
    exact .inr (.inr (.inr ⟨rfl, rfl, rfl, .inl fun _ _ => rfl⟩))
  | sense =>
    by_cases htest : function = 0o7
    · subst htest
      exact .inr (.inr (.inl ⟨rfl, fun _ _ => rfl⟩))
    refine .inr (.inr (.inr ⟨rfl, rfl, by simpa [isTest] using htest, ?_⟩))
    by_cases hready : function < 7
    · refine .inr (.inr ⟨id, fun _ m => ?_⟩)
      simp [perform, sense, hready]
    · refine .inl fun _ m => ?_
      simp [perform, sense, hready, htest]
  | input =>
    by_cases hread : function = 0o0 ∨ function = 0o10
    · refine .inl ⟨by simpa [isRead] using hread, fun _ _ => ?_⟩
      rcases hread with rfl | rfl <;> rfl
    refine .inr (.inr (.inr ⟨by simpa [isRead] using hread, rfl, rfl, ?_⟩))
    obtain ⟨hzero, hclear⟩ := not_or.1 hread
    by_cases hid : function = 0o11
    · subst hid
      exact .inr (.inr ⟨fun _ => deviceWord, fun _ _ => rfl⟩)
    by_cases hcontrol : function = 0o12
    · subst hcontrol
      exact .inr (.inr ⟨fun _ => controlWord, fun _ _ => rfl⟩)
    refine .inr (.inl fun _ m => ?_)
    simp only [perform, input]
    split <;> simp_all [← UInt8.toNat_inj]
  | output =>
    by_cases hwrite : function = 0o0
    · subst hwrite
      exact .inr (.inl ⟨rfl, fun _ _ => rfl⟩)
    refine .inr (.inr (.inr ⟨rfl, by simpa [isWrite] using hwrite, rfl, ?_⟩))
    by_cases hmode : function = 0o1
    · subst hmode
      exact .inr (.inr ⟨id, fun _ _ => rfl⟩)
    refine .inr (.inl fun _ m => ?_)
    simp only [perform, output]
    split <;> simp_all [← UInt8.toNat_inj]

variable {i : Instruction} {m : Machine} {w : Bool}

theorem perform_of_isRead (c : Console T) (hi : isRead i = true) (w : Bool) (m : Machine) :
    c.perform i w m = c.readCharacter (i.function = 0o10) w m := by
  rcases perform_cases c i with ⟨-, heq⟩ | ⟨hother, -⟩ | ⟨hother, -⟩ | ⟨hno, -⟩
  · exact heq w m
  · simp [isRead_eq_false (.inl hother)] at hi
  · simp [isRead_eq_false (.inr hother)] at hi
  · simp [hno] at hi

theorem perform_of_isTest (c : Console T) (hi : isTest i = true) (w : Bool) (m : Machine) :
    c.perform i w m = c.test m := by
  rcases perform_cases c i with ⟨hother, -⟩ | ⟨hother, -⟩ | ⟨-, heq⟩ | ⟨-, -, hno, -⟩
  · simp [isRead_eq_false (.inr hi)] at hother
  · simp [isWrite_eq_false (.inr hi)] at hother
  · exact heq w m
  · simp [hno] at hi

theorem perform_device (c : Console T) (hread : isRead i = false) (hwrite : isWrite i = false)
    (htest : isTest i = false) (w : Bool) (m : Machine) : (c.perform i w m).device = c := by
  rcases perform_cases c i with ⟨hi, -⟩ | ⟨hi, -⟩ | ⟨hi, -⟩ | ⟨-, -, -, heq⟩
  · simp [hread] at hi
  · simp [hwrite] at hi
  · simp [htest] at hi
  · rcases heq with heq | heq | ⟨f, heq⟩ <;> rw [heq] <;> rfl

theorem readCharacter_terminal (c : Console T) (clear : Bool) :
    (c.readCharacter clear w m).device.terminal = (Terminal.read c.terminal w).2 := by
  unfold readCharacter
  rcases Terminal.read c.terminal w with ⟨e | _ | b, terminal⟩ <;> rfl

theorem writeCharacter_terminal (c : Console T) :
    (c.writeCharacter m).device.terminal =
      if character m.a = 0 then c.terminal else (Terminal.write c.terminal (character m.a)).2 := by
  unfold writeCharacter
  dsimp only
  split
  · rfl
  · rcases Terminal.write c.terminal (character m.a) with ⟨e | ⟨⟩, terminal⟩ <;> rfl

theorem test_terminal (c : Console T) :
    (c.test m).device.terminal = (Terminal.poll c.terminal patience).2 := by
  unfold test
  rcases Terminal.poll c.terminal patience with ⟨_ | _, terminal⟩ <;> rfl

/-! ## Output -/

/-- A terminal that shows the characters written to it, each as `shown`, and nothing else. -/
structure Shows (view : T → List UInt8) (shown : UInt8 → List UInt8)
    (feed : T → List UInt8 → T) : Prop where
  write : ∀ t b, view (Terminal.write t b).2 = view t ++ shown b
  read : ∀ t w, view (Terminal.read t w).2 = view t
  poll : ∀ t n, view (Terminal.poll t n).2 = view t
  feed : ∀ t bytes, view (feed t bytes) = view t

variable {view : T → List UInt8} {shown : UInt8 → List UInt8} {feed : T → List UInt8 → T}

theorem shown_next (h : Shows view shown feed) (c : Console T) (turn : Turn) :
    view (c.next feed turn).terminal = view c.terminal ++ (written [turn]).flatMap shown := by
  cases turn with
  | input bytes => simp [next, written, h.feed]
  | instruction i w m =>
    rcases perform_cases c i with ⟨hi, heq⟩ | ⟨hi, heq⟩ | ⟨hi, heq⟩ | ⟨hread, hwrite, htest, -⟩
    · have hno := isWrite_eq_false (.inl hi)
      simp [next, written, heq, readCharacter_terminal, h.read, hno]
    · have hwritten : written [.instruction i w m] =
          if character m.a = 0 then [] else [character m.a] := by
        simp only [written, List.flatMap_cons, List.flatMap_nil, List.append_nil, hi, true_and,
          ne_eq, ite_not]
        rfl
      rw [next, heq, writeCharacter_terminal, hwritten]
      split <;> simp [h.write]
    · have hno := isWrite_eq_false (.inr hi)
      simp [next, written, heq, test_terminal, h.poll, hno]
    · simp [next, written, c.perform_device hread hwrite htest, hwrite]

/-- **What a terminal shows** is what the outputs wrote. -/
theorem shown_after (h : Shows view shown feed) (c : Console T) (turns : List Turn) :
    view (c.after feed turns).terminal = view c.terminal ++ (written turns).flatMap shown := by
  induction turns generalizing c with
  | nil => simp [after, written]
  | cons turn rest ih =>
    have hrest := ih (c.next feed turn)
    rw [shown_next h, List.append_assoc] at hrest
    simpa [written, after] using hrest

theorem shows_queue : Shows (fun t => t.output.toList) (fun b => [b]) QueueTerminal.queue where
  write t b := by simp [Terminal.write, QueueTerminal.put]
  read t w := by
    simp only [Terminal.read, QueueTerminal.take]
    split <;> rfl
  poll t n := rfl
  feed t bytes := rfl

theorem shows_keyboard :
    Shows (fun t => t.screen.toList) KeyboardTerminal.shown KeyboardTerminal.send where
  write t b := by simp [Terminal.write, KeyboardTerminal.put]
  read t w := by
    simp only [Terminal.read, KeyboardTerminal.take, KeyboardTerminal.receive]
    cases t.pending <;> cases t.channel <;> rfl
  poll t n := by
    simp only [Terminal.poll, KeyboardTerminal.poll, KeyboardTerminal.receive]
    cases t.pending <;> cases t.channel <;> rfl
  feed t bytes := by
    unfold KeyboardTerminal.send
    split <;> rfl

theorem lt_of_mem_written {turns : List Turn} {b : UInt8} (h : b ∈ written turns) : b < 0x80 := by
  obtain ⟨turn, -, hb⟩ := List.mem_flatMap.1 h
  cases turn with
  | input bytes => simp at hb
  | instruction i w m =>
    dsimp only at hb
    split at hb
    · rw [List.mem_singleton] at hb
      rw [hb, UInt8.lt_iff_toNat_lt]
      have hle : (m.a &&& 0x7f).toNat ≤ 0x7f := by
        rw [UInt16.toNat_and]
        exact Nat.and_le_right
      rw [UInt16.toNat_toUInt8]
      have := Nat.mod_le (m.a &&& 0x7f).toNat (2 ^ 8)
      exact Nat.lt_of_le_of_lt (Nat.le_trans this hle) (by decide)
    · simp at hb

/-! ## Input -/

/-- Whether an instruction is told of as a success, tried out where a success is a skip. -/
def signals (c : Console T) (i : Instruction) : Bool := (c.perform i false {}).machine.rp = 1

variable {c : Console QueueTerminal}

/-- Whether this turn reads a character: it is a read that is told of as a success. -/
def reads (c : Console QueueTerminal) : Turn → Bool
  | .instruction i _ _ => isRead i && c.signals i
  | .input _ => false

/-- **How many reads were told of as successes.** -/
def readings (c : Console QueueTerminal) : List Turn → ℕ
  | [] => 0
  | turn :: rest => (c.reads turn).toNat + readings (c.next QueueTerminal.queue turn) rest

theorem readCharacter_queue (c : Console QueueTerminal) (clear : Bool) :
    (c.readCharacter clear w m).result = .ok () ∧
    (c.readCharacter clear w m).device.terminal.input = c.terminal.input.tail ∧
    (c.readCharacter clear w m).machine =
      match c.terminal.input.head? with
      | none => m
      | some b =>
        { m with a := (if clear then 0 else m.a) ||| b.toUInt16 ||| 0x80 }.signalSuccess := by
  obtain ⟨⟨input, output⟩⟩ := c
  cases input <;> exact ⟨rfl, rfl, rfl⟩

theorem writeCharacter_queue (c : Console QueueTerminal) :
    (c.writeCharacter m).result = .ok () ∧ (c.writeCharacter m).machine = m.signalSuccess := by
  unfold writeCharacter
  dsimp only [Terminal.write]
  split <;> exact ⟨rfl, rfl⟩

theorem test_queue (c : Console QueueTerminal) :
    (c.test m).result = .ok () ∧ (c.test m).device = c ∧
      (c.test m).machine = if c.terminal.hasInput then m.signalSuccess else m := by
  unfold test
  dsimp only [Terminal.poll]
  split <;> exact ⟨rfl, rfl, rfl⟩

theorem signals_eq {s : Bool} (h : ∀ w m, (c.perform i w m).machine.signal =
    if s then signalled m.signal else m.signal) : c.signals i = s := by
  have hrp : (c.perform i false {}).machine.rp = if s then 1 else 0 := by
    have hsignal := congrArg Prod.snd (h false {})
    cases s <;> exact hsignal
  cases s <;> simp [signals, hrp]

/-- **An instruction is told of as a success on every machine, or on none.** A read and a test
succeed when there is input. -/
theorem signal_cases (c : Console QueueTerminal) (i : Instruction) :
    ∃ s : Bool, (∀ w m, (c.perform i w m).machine.signal =
      if s then signalled m.signal else m.signal) ∧
      (isRead i = true ∨ isTest i = true → s = !c.terminal.input.isEmpty) := by
  rcases perform_cases c i with ⟨-, heq⟩ | ⟨hi, heq⟩ | ⟨-, heq⟩ | ⟨hread, -, htest, heq⟩
  · refine ⟨!c.terminal.input.isEmpty, fun w m => ?_, fun _ => rfl⟩
    rw [heq, (readCharacter_queue c _).2.2]
    cases c.terminal.input with
    | nil => rfl
    | cons b rest => exact Machine.signal_signalSuccess _
  · refine ⟨true, fun w m => ?_, fun hno => ?_⟩
    · rw [heq, (writeCharacter_queue c).2]
      exact m.signal_signalSuccess
    · simp [isWrite_eq_false hno] at hi
  · refine ⟨!c.terminal.input.isEmpty, fun w m => ?_, fun _ => rfl⟩
    rw [heq, (test_queue c).2.2, QueueTerminal.hasInput]
    split
    · exact m.signal_signalSuccess
    · rfl
  · have hno : isRead i = true ∨ isTest i = true → False := by simp [hread, htest]
    rcases heq with heq | heq | ⟨f, heq⟩
    · exact ⟨false, fun w m => by rw [heq]; rfl, fun h => (hno h).elim⟩
    · exact ⟨false, fun w m => by rw [heq]; rfl, fun h => (hno h).elim⟩
    · refine ⟨true, fun w m => ?_, fun h => (hno h).elim⟩
      rw [heq]
      exact Machine.signal_signalSuccess _

theorem perform_signal (c : Console QueueTerminal) (i : Instruction) (w : Bool) (m : Machine) :
    (c.perform i w m).machine.signal = if c.signals i then signalled m.signal else m.signal := by
  obtain ⟨s, hs, -⟩ := signal_cases c i
  rw [signals_eq hs]
  exact hs w m

theorem signals_iff (hi : isRead i = true ∨ isTest i = true) :
    c.signals i = true ↔ c.terminal.input ≠ [] := by
  obtain ⟨s, hs, hinput⟩ := signal_cases c i
  rw [signals_eq hs, hinput hi]
  simp

/-- **What a turn does to the input**: it may add to it, and a read that succeeds takes the first
character. -/
theorem input_next (c : Console QueueTerminal) (turn : Turn) :
    (c.next QueueTerminal.queue turn).terminal.input =
      (c.terminal.input ++ queued [turn]).drop (c.reads turn).toNat ∧
    (c.reads turn).toNat ≤ c.terminal.input.length := by
  cases turn with
  | input bytes => simp [next, queued, reads]
  | instruction i w m =>
    have hkept (hi : isRead i = false)
        (hinput : (c.perform i w m).device.terminal.input = c.terminal.input) :
        (c.next QueueTerminal.queue (.instruction i w m)).terminal.input =
          (c.terminal.input ++ queued [.instruction i w m]).drop
            (c.reads (.instruction i w m)).toNat ∧
        (c.reads (.instruction i w m)).toNat ≤ c.terminal.input.length := by
      simp [next, queued, reads, hi, hinput]
    rcases perform_cases c i with ⟨hi, heq⟩ | ⟨hi, heq⟩ | ⟨hi, heq⟩ | ⟨hi, hwrite, htest, -⟩
    · have hreads : c.reads (.instruction i w m) = !c.terminal.input.isEmpty := by
        rw [reads, hi, Bool.true_and, Bool.eq_iff_iff, signals_iff (.inl hi)]
        simp
      rw [next, heq, (readCharacter_queue c _).2.1, hreads]
      cases c.terminal.input <;> simp [queued]
    · refine hkept (isRead_eq_false (.inl hi)) ?_
      rw [heq, writeCharacter_terminal]
      split <;> rfl
    · refine hkept (isRead_eq_false (.inr hi)) ?_
      rw [heq, (test_queue c).2.1]
    · refine hkept hi ?_
      rw [c.perform_device hi hwrite htest]

/-- **No character is lost**: the input that is left is what was there and what arrived, less the
characters that were read, from the front. -/
theorem input_after (c : Console QueueTerminal) (turns : List Turn) :
    (c.after QueueTerminal.queue turns).terminal.input =
      (c.terminal.input ++ queued turns).drop (c.readings turns) := by
  induction turns generalizing c with
  | nil => simp [after, queued, readings]
  | cons turn rest ih =>
    obtain ⟨hnext, hle⟩ := input_next c turn
    have hqueued : queued (turn :: rest) = queued [turn] ++ queued rest := by simp [queued]
    have hlength : (c.reads turn).toNat ≤ (c.terminal.input ++ queued [turn]).length := by
      rw [List.length_append]
      omega
    calc (c.after QueueTerminal.queue (turn :: rest)).terminal.input
        = ((c.terminal.input ++ queued [turn]).drop (c.reads turn).toNat ++ queued rest).drop
            (readings (c.next QueueTerminal.queue turn) rest) := by
          rw [← hnext, ← ih]
          rfl
      _ = (c.terminal.input ++ queued (turn :: rest)).drop (c.readings (turn :: rest)) := by
          rw [← List.drop_append_of_le_length hlength, List.drop_drop, hqueued, List.append_assoc,
            readings]

theorem readings_eq_zero {turns : List Turn}
    (h : ∀ i w m, Turn.instruction i w m ∈ turns → isRead i = false) : c.readings turns = 0 := by
  induction turns generalizing c with
  | nil => rfl
  | cons turn rest ih =>
    have hrest := ih (c := c.next QueueTerminal.queue turn)
      fun i w m hmem => h i w m (List.mem_cons_of_mem turn hmem)
    have hturn : c.reads turn = false := by
      cases turn with
      | input bytes => rfl
      | instruction i w m => simp [reads, h i w m List.mem_cons_self]
    simp [readings, hturn, hrest]

end Console

/-- **An instruction on a bus, at the address of a console**, is answered by the console, which stays
there. -/
theorem Bus.dispatch_console {b : Bus T S} {c : Console T} {i : Instruction}
    (h : b.device i.device = .console c) (limit : ℕ) (m : Machine) :
    ∃ r, b.dispatch limit i m = some r ∧
      r.result = (c.perform i (b.willRetry m) m).result ∧
      r.machine = (c.perform i (b.willRetry m) m).machine ∧
      r.device.device i.device = .console (c.perform i (b.willRetry m) m).device := by
  have haddress : i.device.toNat < 64 := by
    by_contra hfar
    simp [Bus.device, hfar] at h
  rw [Bus.dispatch, h]
  refine ⟨_, rfl, rfl, rfl, ?_⟩
  exact (b.device_set i.device i.device _ haddress).trans (if_pos rfl)

namespace Console

/-- The console after turns, when it began over an empty queue. -/
def atQueue (turns : List Turn) : Console QueueTerminal := after QueueTerminal.queue ⟨{}⟩ turns

/-- What holds of an instruction that comes to the console after these turns. -/
structure Transports (turns : List Turn) (i : Instruction) (willRetry : Bool) (m : Machine) :
    Prop where
  /-- Success is told of on every machine, or on none. -/
  signal : ((atQueue turns).perform i willRetry m).machine.signal =
    if (atQueue turns).signals i then signalled m.signal else m.signal
  /-- A read succeeds when there is a character that was not read. It brings the first one of these
  into A; without one it leaves the machine alone. -/
  read : isRead i = true →
    ((atQueue turns).signals i = true ↔ readings ⟨{}⟩ turns < (queued turns).length) ∧
    ((atQueue turns).perform i willRetry m).result = .ok () ∧
    ((atQueue turns).perform i willRetry m).machine =
      match (queued turns)[readings ⟨{}⟩ turns]? with
      | none => m
      | some b => { m with
          a := (if i.function = 0o10 then 0 else m.a) ||| b.toUInt16 ||| 0x80 }.signalSuccess
  /-- A test succeeds when there is such a character, and leaves it there. -/
  test : isTest i = true →
    ((atQueue turns).signals i = true ↔ readings ⟨{}⟩ turns < (queued turns).length) ∧
    ((atQueue turns).perform i willRetry m).device = atQueue turns
  /-- After a test that succeeds the next read does, whatever comes between them. -/
  lasting : isTest i = true → (atQueue turns).signals i = true → ∀ between,
    (∀ j w n, Turn.instruction j w n ∈ between → isRead j = false) → ∀ j, isRead j = true →
    (atQueue (turns ++ .instruction i willRetry m :: between)).signals j = true
  /-- An instruction fails only when it is unknown, and then it changes nothing. -/
  refused : ∀ fault, ((atQueue turns).perform i willRetry m).result = .error fault →
    fault = .unsupported i ∧ ((atQueue turns).perform i willRetry m).device = atQueue turns ∧
      ((atQueue turns).perform i willRetry m).machine = m

theorem input_atQueue (turns : List Turn) :
    (atQueue turns).terminal.input = (queued turns).drop (readings ⟨{}⟩ turns) :=
  input_after ⟨{}⟩ turns

theorem signals_atQueue_iff {turns : List Turn} (hi : isRead i = true ∨ isTest i = true) :
    (atQueue turns).signals i = true ↔ readings ⟨{}⟩ turns < (queued turns).length := by
  rw [signals_iff hi, input_atQueue, Ne, List.drop_eq_nil_iff, Nat.not_le]

theorem transports_atQueue (turns : List Turn) (i : Instruction) (w : Bool) (m : Machine) :
    Transports turns i w m where
  signal := perform_signal _ i w m
  read hi := by
    obtain ⟨hresult, -, hmachine⟩ :=
      readCharacter_queue (m := m) (w := w) (atQueue turns) (i.function = 0o10)
    refine ⟨signals_atQueue_iff (.inl hi), ?_, ?_⟩
    · rw [perform_of_isRead _ hi, hresult]
    · rw [perform_of_isRead _ hi, hmachine, input_atQueue, List.head?_drop]
      simp
  test hi := by
    refine ⟨signals_atQueue_iff (.inr hi), ?_⟩
    rw [perform_of_isTest _ hi, (test_queue _).2.1]
  lasting hi hsignals between hbetween j hj := by
    have hinput : (atQueue turns).terminal.input ≠ [] := (signals_iff (.inr hi)).1 hsignals
    have hsame : atQueue (turns ++ .instruction i w m :: between) =
        (atQueue turns).after QueueTerminal.queue between := by
      have hdevice : ((atQueue turns).perform i w m).device = atQueue turns := by
        rw [perform_of_isTest _ hi, (test_queue _).2.1]
      calc atQueue (turns ++ .instruction i w m :: between)
          = ((atQueue turns).next QueueTerminal.queue (.instruction i w m)).after
              QueueTerminal.queue between := List.foldl_append
        _ = (atQueue turns).after QueueTerminal.queue between := by rw [next, hdevice]
    rw [signals_iff (.inl hj), hsame, input_after, readings_eq_zero hbetween, List.drop_zero]
    simp [hinput]
  refused fault hfault := by
    rcases perform_cases (atQueue turns) i with ⟨-, heq⟩ | ⟨-, heq⟩ | ⟨-, heq⟩ | ⟨-, -, -, heq⟩
    · simp [heq, (readCharacter_queue _ _).1] at hfault
    · simp [heq, (writeCharacter_queue _).1] at hfault
    · simp [heq, (test_queue _).1] at hfault
    · rcases heq with heq | heq | ⟨f, heq⟩
      · simp [heq, Reply.idle] at hfault
      · rw [heq] at hfault ⊢
        exact ⟨(Except.error.inj hfault).symm, rfl, rfl⟩
      · simp [heq, Reply.succeed] at hfault

/-- **A console transports characters** without loss, doubling or change of order. After any turns
the next read gets the first character that was queued and not read, and the output is what outputs
of a character wrote, as text of seven bits. On a screen the same characters appear, with a carriage
return before each line feed and no other. An instruction that a bus carries out at the address of a
console is one that comes to the console. -/
theorem transports (turns : List Turn) :
    (∀ i w m, Transports turns i w m) ∧
    (atQueue turns).terminal.output.toList = written turns ∧
    (∀ b ∈ written turns, b < 0x80) ∧
    (atQueue turns).terminal.text =
      String.ofList ((written turns).map fun b => Char.ofNat b.toNat) ∧
    Utf8.replacement ∉ (atQueue turns).terminal.text.toList ∧
    (after KeyboardTerminal.send ⟨{}⟩ turns).terminal.screen.toList =
      ((written turns).flatMap fun b =>
        if b = 0x0A then [0x0D, 0x0A] else if b = 0x0D then [] else [b]) ∧
    ∀ (b : Bus T S) (c : Console T) (i : Instruction), b.device i.device = .console c →
      ∀ (limit : ℕ) (m : Machine), ∃ r, b.dispatch limit i m = some r ∧
        r.result = (c.perform i (b.willRetry m) m).result ∧
        r.machine = (c.perform i (b.willRetry m) m).machine ∧
        r.device.device i.device = .console (c.perform i (b.willRetry m) m).device := by
  have houtput : (atQueue turns).terminal.output.toList = written turns := by
    simpa [atQueue] using shown_after shows_queue ⟨{}⟩ turns
  have htext : (atQueue turns).terminal.text =
      String.ofList ((written turns).map fun b => Char.ofNat b.toNat) := by
    rw [QueueTerminal.text, houtput, Utf8.lossy, Utf8.chars_of_ascii fun _ => lt_of_mem_written]
  refine ⟨transports_atQueue turns, houtput, fun _ => lt_of_mem_written, htext, ?_, ?_, ?_⟩
  · rw [htext, String.toList_ofList]
    intro hmem
    obtain ⟨b, hb, heq⟩ := List.mem_map.1 hmem
    have hlt : b.toNat < 0x80 := UInt8.lt_iff_toNat_lt.1 (lt_of_mem_written hb)
    exact Utf8.ofNat_ne_replacement b.toNat hlt heq
  · exact shown_after shows_keyboard ⟨{}⟩ turns
  · intro b c i h limit m
    exact Bus.dispatch_console h limit m

/-- Two characters arrive. The program tests for one, reads it and writes it. -/
def echo : List Turn :=
  [.input [0x41, 0x42], .instruction ⟨.sense, 0o7, 4⟩ false {},
    .instruction ⟨.input, 0o10, 4⟩ false {}, .instruction ⟨.output, 0o0, 4⟩ false { a := 0xC1 }]

theorem transports_echo :
    (atQueue echo).terminal.output.toList = [0x41] ∧
    ((atQueue echo).perform ⟨.input, 0o10, 4⟩ true {}).machine =
      { ({} : Machine) with a := 0xC2 }.signalSuccess := by
  obtain ⟨heach, houtput, -⟩ := transports (T := QueueTerminal) (S := MemoryCabinet) echo
  obtain ⟨-, -, hmachine⟩ := (heach ⟨.input, 0o10, 4⟩ true {}).read rfl
  have hsecond : (queued echo)[readings ⟨{}⟩ echo]? = some 0x42 := rfl
  rw [hsecond] at hmachine
  exact ⟨houtput, hmachine⟩

end Console

end PeripheralBus
