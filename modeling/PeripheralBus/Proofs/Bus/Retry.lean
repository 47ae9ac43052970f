import Mathlib.Data.List.Forall2
import PeripheralBus.Line.KeyboardTerminal
import PeripheralBus.Pack.MemoryCabinet
import PeripheralBus.Proofs.Device.Console
import PeripheralBus.Proofs.Line.Keyboard

/-!
# Guessing whether a program retries

A bus guesses from the words around an instruction whether the program will try it again until it
succeeds. A console hands the guess to its terminal, and a tape may hang on it. Where there is no
tape and no terminal has anyone to wait for, the guess shows nowhere but in what the terminal is told
and in the message that repeats it: two buses that guess in different ways give the same replies, and
leave the same machine and the same devices, for ever.

* `Line.Heedless`: terminals to which it is the same whether they are to wait.
* `Reply.Alike`: replies that differ in the guess only.
* `Device.Heedless`, `Bus.Heedless`: no tape, and every console over such a terminal.
* `Console.perform_alike`, `Device.perform_alike`, `Bus.dispatch_alike`: **the guess stays where it
  is**, for one instruction.
* `Bus.session`: instructions one after the other, as far as channel programs end.
* `Bus.session_alike`: so it stays for all of them; `Bus.session_hint`: with the two terminals there
  are.
-/

namespace PeripheralBus

open Line Pack

/-! ## Terminals -/

namespace Line

/-- Terminals that are in a state where it is the same whether a read is to wait, and remain in one
whatever is done to them. -/
structure Heedless {T : Type} [Terminal T] (P : T → Prop) : Prop where
  read_eq : ∀ t w v, P t → Terminal.read t w = Terminal.read t v
  write : ∀ t b, P t → P (Terminal.write t b).2
  poll : ∀ t n, P t → P (Terminal.poll t n).2
  read : ∀ t w, P t → P (Terminal.read t w).2

/-- Terminals of two kinds side by side. -/
instance {A B : Type} [Terminal A] [Terminal B] : Terminal (A ⊕ B) where
  write
    | .inl a, character => let (r, a) := Terminal.write a character; (r, .inl a)
    | .inr b, character => let (r, b) := Terminal.write b character; (r, .inr b)
  poll
    | .inl a, milliseconds => let (r, a) := Terminal.poll a milliseconds; (r, .inl a)
    | .inr b, milliseconds => let (r, b) := Terminal.poll b milliseconds; (r, .inr b)
  read
    | .inl a, blocking => let (r, a) := Terminal.read a blocking; (r, .inl a)
    | .inr b, blocking => let (r, b) := Terminal.read b blocking; (r, .inr b)

theorem heedless_sum {A B : Type} [Terminal A] [Terminal B] {P : A → Prop} {Q : B → Prop}
    (hP : Heedless P) (hQ : Heedless Q) : Heedless (Sum.elim P Q) where
  read_eq
    | .inl a, w, v, h => by simp only [Terminal.read, hP.read_eq a w v h]
    | .inr b, w, v, h => by simp only [Terminal.read, hQ.read_eq b w v h]
  write
    | .inl a, c, h => hP.write a c h
    | .inr b, c, h => hQ.write b c h
  poll
    | .inl a, n, h => hP.poll a n h
    | .inr b, n, h => hQ.poll b n h
  read
    | .inl a, w, h => hP.read a w h
    | .inr b, w, h => hQ.read b w h

theorem heedless_queue : Heedless fun _ : QueueTerminal => True where
  read_eq _ _ _ _ := rfl
  write _ _ _ := trivial
  poll _ _ _ := trivial
  read _ _ _ := trivial

/-- Once the keyboard is gone there is nobody to wait for. -/
theorem heedless_keyboard : Heedless fun t : KeyboardTerminal => t.hungUp = true where
  read_eq _ _ _ _ := rfl
  write _ _ h := h
  poll t _ h := t.poll_hungUp.trans h
  read t _ h := t.take_hungUp.trans h

end Line

/-! ## What may differ -/

/-- Events that differ in the guess only. -/
inductive Event.Alike : Event → Event → Prop
  | refl (e : Event) : Alike e e
  | asked (w v : Bool) : Alike (.line (.asked w)) (.line (.asked v))
  | absent (w v : Bool) :
    Alike (.trace .console s!"console: no character ready (blocking={w})")
      (.trace .console s!"console: no character ready (blocking={v})")

/-- Replies that differ in the guess only, with devices that are the same in the sense of `R`. -/
structure Reply.Alike {D : Type} (R : D → D → Prop) (r r' : Reply D) : Prop where
  result : r.result = r'.result
  device : R r.device r'.device
  machine : r.machine = r'.machine
  events : List.Forall₂ Event.Alike r.events r'.events

namespace Reply

variable {D E : Type}

theorem Alike.refl (r : Reply D) : r.Alike Eq r :=
  ⟨rfl, rfl, rfl, List.forall₂_same.2 fun e _ => .refl e⟩

theorem Alike.map {r r' : Reply D} (h : r.Alike Eq r') (f : D → E) :
    (r.map f).Alike Eq (r'.map f) :=
  ⟨h.result, congrArg f h.device, h.machine, h.events⟩

end Reply

variable {T S : Type} [Terminal T] [Cabinet S] {P : T → Prop} {limit : ℕ} {i : Instruction}
  {m : Machine}

/-! ## Devices -/

namespace Console

theorem readCharacter_alike (hP : Line.Heedless P) {c : Console T} (hc : P c.terminal)
    (clear w v : Bool) :
    (c.readCharacter clear w m).Alike Eq (c.readCharacter clear v m) := by
  unfold readCharacter
  rw [hP.read_eq _ w v hc]
  rcases Terminal.read c.terminal v with ⟨e | _ | b, terminal⟩
  · exact ⟨rfl, rfl, rfl, .cons (.asked w v) .nil⟩
  · exact ⟨rfl, rfl, rfl, .cons (.asked w v) (.cons (.absent w v) .nil)⟩
  · exact ⟨rfl, rfl, rfl, .cons (.asked w v) (.cons (.refl _) .nil)⟩

theorem perform_alike (hP : Line.Heedless P) {c : Console T} (hc : P c.terminal) (w v : Bool) :
    (c.perform i w m).Alike Eq (c.perform i v m) := by
  rcases perform_cases c i with ⟨-, heq⟩ | ⟨-, heq⟩ | ⟨-, heq⟩ | ⟨-, -, -, heq⟩
  · rw [heq, heq]
    exact readCharacter_alike hP hc _ w v
  -- only a read looks at the guess
  · rw [heq, heq]
    exact .refl _
  · rw [heq, heq]
    exact .refl _
  · rcases heq with heq | heq | ⟨f, heq⟩ <;> rw [heq, heq] <;> exact .refl _

theorem perform_heedless (hP : Line.Heedless P) {c : Console T} (hc : P c.terminal) (w : Bool) :
    P (c.perform i w m).device.terminal := by
  rcases perform_cases c i with ⟨-, heq⟩ | ⟨-, heq⟩ | ⟨-, heq⟩ | ⟨hread, hwrite, htest, -⟩
  · rw [heq, readCharacter_terminal]
    exact hP.read _ w hc
  · rw [heq, writeCharacter_terminal]
    split
    · exact hc
    · exact hP.write _ _ hc
  · rw [heq, test_terminal]
    exact hP.poll _ _ hc
  · rw [c.perform_device hread hwrite htest]
    exact hc

end Console

namespace Device

/-- It is no tape, and the terminal of a console has `P`. -/
def Heedless (P : T → Prop) : Device T S → Prop
  | .console c => P c.terminal
  | .tape => False
  | _ => True

/-- **The guess does not reach the devices.** -/
theorem perform_alike (hP : Line.Heedless P) {d : Device T S} (hd : d.Heedless P) (w v : Bool) :
    Option.Rel (Reply.Alike Eq) (d.perform limit i w m) (d.perform limit i v m) := by
  cases d with
  | console c => exact .some ((Console.perform_alike hP hd w v).map _)
  | tape => exact hd.elim
  | panel p => exact .some (.refl _)
  | null => exact .some (.refl _)
  | disk c =>
    -- a disk controller is not told of the guess
    show Option.Rel _ ((c.perform limit i m).map _) ((c.perform limit i m).map _)
    cases c.perform limit i m with
    | none => exact .none
    | some r => exact .some (.refl _)

theorem perform_heedless (hP : Line.Heedless P) {d : Device T S} (hd : d.Heedless P) {w : Bool}
    {r : Reply (Device T S)} (h : d.perform limit i w m = some r) : r.device.Heedless P := by
  cases d with
  | console c =>
    obtain rfl := Option.some.inj h
    exact Console.perform_heedless hP hd w
  | tape => exact hd.elim
  | panel p =>
    obtain rfl := Option.some.inj h
    trivial
  | null =>
    obtain rfl := Option.some.inj h
    trivial
  | disk c =>
    obtain ⟨r, -, rfl⟩ := Option.map_eq_some_iff.1 h
    trivial

end Device

/-! ## The bus -/

namespace Bus

/-- There is no tape, and the terminal of every console has `P`. -/
def Heedless (P : T → Prop) (b : Bus T S) : Prop := ∀ address, (b.device address).Heedless P

/-- What comes to a bus: an instruction, or a word that may be one. -/
inductive Call where
  | dispatch (i : Instruction)
  | execute (word : Word)

/-- Carries out a call. -/
def call (b : Bus T S) (limit : ℕ) (m : Machine) : Call → Option (Reply (Bus T S))
  | .dispatch i => b.dispatch limit i m
  | .execute word => b.execute limit word m

/-- Carries out calls, each on the bus and the machine that the one before it left, and goes on
after faults. The session is over at a channel program that has not ended after `limit` orders. -/
def session (limit : ℕ) : List Call → Bus T S → Machine → List (Reply (Bus T S))
  | [], _, _ => []
  | c :: rest, b, m =>
    match b.call limit m c with
    | none => []
    | some r => r :: session limit rest r.device r.machine

/-- Buses with the same devices. -/
def SameDevices (b b' : Bus T S) : Prop := b.devices = b'.devices

variable {b b' : Bus T S}

theorem SameDevices.device (h : b.SameDevices b') (address : UInt8) :
    b.device address = b'.device address := by
  simp only [Bus.device, show b.devices = b'.devices from h]

theorem SameDevices.set (h : b.SameDevices b') (address : UInt8) (d : Device T S) :
    (b.set address d).SameDevices (b'.set address d) := by
  unfold SameDevices Bus.set
  split
  · simp only [show b.devices = b'.devices from h]
  · exact h

/-- **Buses with the same devices answer alike**, whatever they guess. -/
theorem dispatch_alike (hP : Line.Heedless P) (hb : b.Heedless P) (h : b.SameDevices b') :
    Option.Rel (Reply.Alike SameDevices) (b.dispatch limit i m) (b'.dispatch limit i m) := by
  have hperform : Option.Rel (Reply.Alike Eq)
      ((b.device i.device).perform limit i (b.willRetry m) m)
      ((b.device i.device).perform limit i (b'.willRetry m) m) :=
    Device.perform_alike hP (hb i.device) _ _
  simp only [dispatch, ← h.device]
  generalize (b.device i.device).perform limit i (b.willRetry m) m = reply at hperform ⊢
  generalize (b.device i.device).perform limit i (b'.willRetry m) m = reply' at hperform ⊢
  cases hperform with
  | none => exact .none
  | some hr =>
    refine .some ⟨hr.result, ?_, hr.machine, .cons (.refl _) hr.events⟩
    show (b.set _ _).SameDevices (b'.set _ _)
    rw [hr.device]
    exact h.set _ _

theorem dispatch_heedless (hP : Line.Heedless P) (hb : b.Heedless P) {r : Reply (Bus T S)}
    (h : b.dispatch limit i m = some r) : r.device.Heedless P := by
  obtain ⟨reply, hreply, rfl⟩ := Option.map_eq_some_iff.1 h
  exact forall_device_set hb i.device (Device.perform_heedless hP (hb i.device) hreply)

theorem call_alike (hP : Line.Heedless P) (hb : b.Heedless P) (h : b.SameDevices b') (c : Call) :
    Option.Rel (Reply.Alike SameDevices) (b.call limit m c) (b'.call limit m c) := by
  cases c with
  | dispatch i => exact dispatch_alike hP hb h
  | execute word =>
    simp only [call, execute]
    cases Instruction.ofWord? word with
    | none => exact .some ⟨rfl, h, rfl, .nil⟩
    | some i => exact dispatch_alike hP hb h

theorem call_heedless (hP : Line.Heedless P) (hb : b.Heedless P) {c : Call} {r : Reply (Bus T S)}
    (h : b.call limit m c = some r) : r.device.Heedless P := by
  cases c with
  | dispatch i => exact dispatch_heedless hP hb h
  | execute word =>
    simp only [call, execute] at h
    split at h
    · exact dispatch_heedless hP hb h
    · obtain rfl := Option.some.inj h
      exact hb

/-- **The guess is only a hint**: sessions with the same devices are alike, and the devices remain
as they have to be. -/
theorem session_alike (hP : Line.Heedless P) (hb : b.Heedless P) (h : b.SameDevices b')
    (calls : List Call) (m : Machine) :
    List.Forall₂ (Reply.Alike SameDevices) (session limit calls b m) (session limit calls b' m) ∧
      ∀ r ∈ session limit calls b m, r.device.Heedless P := by
  induction calls generalizing b b' m with
  | nil => exact ⟨.nil, by simp [session]⟩
  | cons c rest ih =>
    have hcall : Option.Rel (Reply.Alike SameDevices) (b.call limit m c) (b'.call limit m c) :=
      call_alike hP hb h c
    have hkept : ∀ r, b.call limit m c = some r → r.device.Heedless P :=
      fun r => call_heedless hP hb
    unfold session
    generalize b.call limit m c = reply at hcall hkept ⊢
    generalize b'.call limit m c = reply' at hcall ⊢
    cases hcall with
    | none => exact ⟨.nil, by simp⟩
    | @some r r' hr =>
      -- both sessions go on from the same machine, with the same devices
      obtain ⟨hrest, hlater⟩ := ih (hkept r rfl) hr.device r.machine
      constructor
      · refine .cons hr ?_
        rw [← hr.machine]
        exact hrest
      · rintro s (_ | ⟨_, hs⟩)
        · exact hkept r rfl
        · exact hlater s hs

/-- There is nobody to wait for: input was queued beforehand, or the keyboard is gone. -/
def Closed : QueueTerminal ⊕ KeyboardTerminal → Prop :=
  Sum.elim (fun _ => True) fun t => t.hungUp = true

/-- **The guess is only a hint.** On a bus without a tape, whose consoles are over queues and over
keyboard terminals that nobody types on any more, two ways of guessing make no difference. In every
session, on every machine, the replies have the same results, and leave the same machine and the same
devices; what differs is what a terminal is told, and the message that repeats it. And no keyboard
comes back, so that a read never has to wait. -/
theorem session_hint {b : Bus (QueueTerminal ⊕ KeyboardTerminal) S} (hb : b.Heedless Closed)
    (guess guess' : Machine → Bool) (limit : ℕ) (calls : List Call) (m : Machine) :
    List.Forall₂ (Reply.Alike SameDevices)
        (session limit calls { b with willRetry := guess } m)
        (session limit calls { b with willRetry := guess' } m) ∧
      ∀ r ∈ session limit calls { b with willRetry := guess } m, r.device.Heedless Closed := by
  have hsame : SameDevices { b with willRetry := guess } { b with willRetry := guess' } := rfl
  have hguess : Heedless Closed { b with willRetry := guess } := hb
  exact session_alike (heedless_sum heedless_queue heedless_keyboard) hguess hsame calls m

/-- A bus whose one console is over a keyboard terminal with a last key. -/
def closedLine : Bus (QueueTerminal ⊕ KeyboardTerminal) MemoryCabinet :=
  ({} : Bus _ _).set 0o4 (.console ⟨.inr { channel := [0x41], hungUp := true }⟩)

/-- Two reads, of which the second finds no character. -/
theorem session_hint_closedLine :
    List.Forall₂ (Reply.Alike SameDevices)
        (session 1 [.execute 0o131004, .dispatch ⟨.input, 0, 0o4⟩]
          { closedLine with willRetry := fun _ => true } {})
        (session 1 [.execute 0o131004, .dispatch ⟨.input, 0, 0o4⟩]
          { closedLine with willRetry := fun _ => false } {}) ∧
      (session 1 [.execute 0o131004, .dispatch ⟨.input, 0, 0o4⟩]
        { closedLine with willRetry := fun _ => true } {}).map (fun r => r.machine.a) =
          [0xC1, 0xC1] := by
  have hempty (address : UInt8) :
      (({} : Bus (QueueTerminal ⊕ KeyboardTerminal) MemoryCabinet).device address).Heedless
        Closed := by
    rw [device_empty]
    trivial
  have hline : Closed (.inr { channel := [0x41], hungUp := true }) := rfl
  have hb : closedLine.Heedless Closed := forall_device_set hempty 0o4 hline
  exact ⟨(session_hint hb _ _ _ _ _).1, rfl⟩

end Bus

end PeripheralBus
