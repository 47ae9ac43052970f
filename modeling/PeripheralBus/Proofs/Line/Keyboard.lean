import Mathlib.Data.List.Basic
import PeripheralBus.Line.KeyboardTerminal

/-!
# Keys arrive in the order in which they are typed

Waiting for a key takes it out of the channel, and the terminal keeps it until it is read. So the
keys still to be read are in two places, and what was read, followed by the kept key and the
channel, is always **what was typed**: nothing is lost, doubled or overtaken, in whatever order keys
are typed, waited for and read, and also after the keyboard is gone. That is how a queue behaves, and
nobody who waits and reads can tell the two terminals apart.

* `Use`, `Answer`: what is done with a terminal's input, and what comes of it.
* `KeyboardTerminal.use`, `QueueTerminal.use`: one use of either terminal; `run`: any number.
* `sent`, `heard`: the keys that were typed, and those that were read.
* `use_conserves`, `run_conserves`: **keys are conserved**, by one use and by all.
* `use_eq_queue`, `run_eq_queue`: both terminals give the same answers.
* `fifo`: all of this for a new terminal, and when a session cannot go on.
-/

namespace PeripheralBus.Line

/-- What is done with the input of a terminal. -/
inductive Use where
  /-- Keys are typed. -/
  | send (keys : List UInt8)
  /-- The keyboard goes away. -/
  | hangUp
  /-- A key is waited for, so many milliseconds at most. -/
  | poll (milliseconds : ℕ)
  /-- A character is asked for, waiting for it or not. -/
  | read (blocking : Bool)
  deriving DecidableEq

/-- What comes of a use. -/
inductive Answer where
  /-- Something happened on the keyboard's side. -/
  | done
  /-- Whether there is a key. -/
  | ready (yes : Bool)
  /-- What was read. -/
  | character (result : Except Host.Error (Option UInt8))

/-- The keys that were typed, in order. -/
def sent (uses : List Use) : List UInt8 :=
  uses.flatMap fun
    | .send keys => keys
    | _ => []

/-- The characters that were read, in order. -/
def heard (answers : List Answer) : List UInt8 :=
  answers.flatMap fun
    | .character (.ok b) => b.toList
    | _ => []

@[simp] theorem sent_nil : sent [] = [] := rfl

@[simp] theorem heard_nil : heard [] = [] := rfl

theorem sent_cons (u : Use) (rest : List Use) : sent (u :: rest) = sent [u] ++ sent rest := by
  simp [sent]

theorem heard_cons (a : Answer) (rest : List Answer) :
    heard (a :: rest) = heard [a] ++ heard rest := by
  simp [heard]

namespace QueueTerminal

/-- One use of a queue. Input is queued where keys would be typed. -/
def use (t : QueueTerminal) : Use → Answer × QueueTerminal
  | .send keys => (.done, t.queue keys)
  | .hangUp => (.done, t)
  | .poll milliseconds =>
    let (yes, t) := Terminal.poll t milliseconds
    (.ready yes, t)
  | .read blocking =>
    let (result, t) := Terminal.read t blocking
    (.character result, t)

/-- Uses of a queue, one after the other. -/
def run (t : QueueTerminal) : List Use → List Answer × QueueTerminal
  | [] => ([], t)
  | u :: rest =>
    let (a, t) := t.use u
    let (answers, t) := t.run rest
    (a :: answers, t)

end QueueTerminal

namespace KeyboardTerminal

/-- One use of a keyboard terminal. Nobody types on a keyboard that is gone; and a read that waits
for a key, when there is none and the keyboard is there, does not end by itself. -/
def use (t : KeyboardTerminal) : Use → Option (Answer × KeyboardTerminal)
  | .send keys => if t.hungUp then none else some (.done, t.send keys)
  | .hangUp => some (.done, t.hangUp)
  | .poll milliseconds =>
    let (yes, t) := Terminal.poll t milliseconds
    some (.ready yes, t)
  | .read blocking =>
    if blocking ∧ t.waiting = [] ∧ t.hungUp = false then none
    else
      let (result, t) := Terminal.read t blocking
      some (.character result, t)

/-- Uses of a keyboard terminal, one after the other, if each comes to an end. -/
def run (t : KeyboardTerminal) : List Use → Option (List Answer × KeyboardTerminal)
  | [] => some ([], t)
  | u :: rest =>
    match t.use u with
    | none => none
    | some (a, t) => (t.run rest).map fun r => (a :: r.1, r.2)

variable {t next : KeyboardTerminal} {u : Use} {a : Answer}

/-! ## One use -/

theorem poll_fst (t : KeyboardTerminal) : t.poll.1 = !t.waiting.isEmpty := by
  unfold poll waiting receive
  cases h : t.pending <;> cases h' : t.channel <;> simp_all

theorem poll_hungUp (t : KeyboardTerminal) : t.poll.2.hungUp = t.hungUp := by
  unfold poll receive
  cases h : t.pending <;> cases h' : t.channel <;> simp_all

theorem take_hungUp (t : KeyboardTerminal) : t.take.2.hungUp = t.hungUp := by
  unfold take receive
  cases h : t.pending <;> cases h' : t.channel <;> simp_all

theorem use_poll (t : KeyboardTerminal) (milliseconds : ℕ) :
    t.use (.poll milliseconds) = some (.ready (!t.waiting.isEmpty), t.poll.2) := by
  rw [← poll_fst]
  rfl

theorem use_read {blocking : Bool} (h : ¬ (blocking ∧ t.waiting = [] ∧ t.hungUp = false)) :
    t.use (.read blocking) = some (.character (.ok t.waiting.head?), t.take.2) := by
  rw [use, if_neg h, ← t.take_eq.1]
  rfl

theorem use_eq_none_iff :
    t.use u = none ↔ (t.hungUp = true ∧ ∃ keys, u = .send keys) ∨
      (u = .read true ∧ t.waiting = [] ∧ t.hungUp = false) := by
  cases u with
  | send keys => simp [use]
  | hangUp => simp [use]
  | poll milliseconds => simp [use]
  | read blocking =>
    by_cases h : blocking ∧ t.waiting = [] ∧ t.hungUp = false
    · rw [use, if_pos h]
      simp [h]
    · rw [use_read h]
      simpa using fun hblocking hwaiting => by simpa using fun hup => h ⟨hblocking, hwaiting, hup⟩

/-- **What a use can be**, if it comes to an end. -/
theorem use_cases (h : t.use u = some (a, next)) :
    (∃ keys, u = .send keys ∧ a = .done ∧ t.hungUp = false ∧ next = t.send keys) ∨
      (u = .hangUp ∧ a = .done ∧ next = t.hangUp) ∨
      (∃ milliseconds, u = .poll milliseconds ∧ a = .ready (!t.waiting.isEmpty) ∧
        next = t.poll.2) ∨
      ∃ blocking, u = .read blocking ∧ a = .character (.ok t.waiting.head?) ∧ next = t.take.2 := by
  cases u with
  | send keys =>
    cases hup : t.hungUp with
    | true => simp [use, hup] at h
    | false =>
      simp only [use, hup, Bool.false_eq_true, if_false] at h
      obtain ⟨rfl, rfl⟩ := Prod.mk.inj (Option.some.inj h)
      exact .inl ⟨keys, rfl, rfl, rfl, rfl⟩
  | hangUp =>
    obtain ⟨rfl, rfl⟩ := Prod.mk.inj (Option.some.inj h)
    exact .inr (.inl ⟨rfl, rfl, rfl⟩)
  | poll milliseconds =>
    rw [use_poll] at h
    obtain ⟨rfl, rfl⟩ := Prod.mk.inj (Option.some.inj h)
    exact .inr (.inr (.inl ⟨milliseconds, rfl, rfl, rfl⟩))
  | read blocking =>
    by_cases hwaits : blocking ∧ t.waiting = [] ∧ t.hungUp = false
    · rw [use, if_pos hwaits] at h
      cases h
    · rw [use_read hwaits] at h
      obtain ⟨rfl, rfl⟩ := Prod.mk.inj (Option.some.inj h)
      exact .inr (.inr (.inr ⟨blocking, rfl, rfl, rfl⟩))

/-- **One use conserves keys**: what it reads, followed by what then waits, is what waited before,
followed by what is typed. -/
theorem use_conserves (h : t.use u = some (a, next)) :
    heard [a] ++ next.waiting = t.waiting ++ sent [u] := by
  rcases use_cases h with ⟨keys, rfl, rfl, hup, rfl⟩ | ⟨rfl, rfl, rfl⟩ | ⟨_, rfl, rfl, rfl⟩ |
    ⟨_, rfl, rfl, rfl⟩
  · simp [heard, sent, waiting_send, hup]
  · simp [heard, sent, hangUp, waiting]
  · simp [heard, sent, waiting_poll]
  · rw [t.take_eq.2]
    cases t.waiting <;> simp [heard, sent]

theorem use_hungUp (h : t.use u = some (a, next)) :
    next.hungUp = true ↔ t.hungUp = true ∨ u = .hangUp := by
  rcases use_cases h with ⟨keys, rfl, -, hup, rfl⟩ | ⟨rfl, -, rfl⟩ | ⟨_, rfl, -, rfl⟩ |
    ⟨_, rfl, -, rfl⟩
  · simp [send, hup]
  · simp [hangUp]
  · simp [poll_hungUp]
  · simp [take_hungUp]

/-- **Either terminal gives the same answer** when the same keys wait. -/
theorem use_eq_queue {q : QueueTerminal} (hq : q.input = t.waiting)
    (h : t.use u = some (a, next)) : (q.use u).1 = a ∧ (q.use u).2.input = next.waiting := by
  rcases use_cases h with ⟨keys, rfl, rfl, hup, rfl⟩ | ⟨rfl, rfl, rfl⟩ | ⟨_, rfl, rfl, rfl⟩ |
    ⟨_, rfl, rfl, rfl⟩
  · rw [waiting_send, if_neg (by simp [hup]), ← hq]
    exact ⟨rfl, rfl⟩
  · exact ⟨rfl, hq⟩
  · rw [waiting_poll, ← hq]
    exact ⟨rfl, rfl⟩
  · rw [t.take_eq.2, ← hq, ← q.take_eq.1, ← q.take_eq.2]
    exact ⟨rfl, rfl⟩

/-! ## Sessions -/

theorem run_cons {uses : List Use} {answers : List Answer} {last : KeyboardTerminal}
    (h : t.run (u :: uses) = some (answers, last)) :
    ∃ a next rest, t.use u = some (a, next) ∧ next.run uses = some (rest, last) ∧
      answers = a :: rest := by
  rw [run] at h
  cases huse : t.use u with
  | none => simp [huse] at h
  | some r =>
    obtain ⟨a, next⟩ := r
    simp only [huse] at h
    obtain ⟨⟨rest, last'⟩, hrest, hr⟩ := Option.map_eq_some_iff.1 h
    obtain ⟨rfl, rfl⟩ := Prod.mk.inj hr
    exact ⟨a, next, rest, rfl, hrest, rfl⟩

variable {uses : List Use} {answers : List Answer} {last : KeyboardTerminal}

/-- **A session conserves keys.** -/
theorem run_conserves (h : t.run uses = some (answers, last)) :
    heard answers ++ last.waiting = t.waiting ++ sent uses := by
  induction uses generalizing t answers with
  | nil =>
    obtain ⟨rfl, rfl⟩ := Prod.mk.inj (Option.some.inj h)
    simp
  | cons u uses ih =>
    obtain ⟨a, next, rest, huse, hrest, rfl⟩ := run_cons h
    rw [heard_cons, List.append_assoc, ih hrest, ← List.append_assoc, use_conserves huse,
      List.append_assoc, ← sent_cons]

theorem run_hungUp (h : t.run uses = some (answers, last)) :
    last.hungUp = true ↔ t.hungUp = true ∨ .hangUp ∈ uses := by
  induction uses generalizing t answers with
  | nil =>
    obtain ⟨rfl, rfl⟩ := Prod.mk.inj (Option.some.inj h)
    simp
  | cons u uses ih =>
    obtain ⟨a, next, rest, huse, hrest, rfl⟩ := run_cons h
    rw [ih hrest, use_hungUp huse, or_assoc, List.mem_cons, eq_comm (a := u)]

/-- **A queue that is used in the same way gives the same answers.** -/
theorem run_eq_queue {q : QueueTerminal} (hq : q.input = t.waiting)
    (h : t.run uses = some (answers, last)) :
    (q.run uses).1 = answers ∧ (q.run uses).2.input = last.waiting := by
  induction uses generalizing t q answers with
  | nil =>
    obtain ⟨rfl, rfl⟩ := Prod.mk.inj (Option.some.inj h)
    exact ⟨rfl, hq⟩
  | cons u uses ih =>
    obtain ⟨a, next, rest, huse, hrest, rfl⟩ := run_cons h
    obtain ⟨hanswer, hnext⟩ := use_eq_queue hq huse
    obtain ⟨hanswers, hlast⟩ := ih hnext hrest
    exact ⟨by rw [← hanswer, ← hanswers]; rfl, hlast⟩

/-- A session does not come to its end exactly when one of its uses does not. -/
theorem run_eq_none_iff :
    t.run uses = none ↔ ∃ before u after answers now, uses = before ++ u :: after ∧
      t.run before = some (answers, now) ∧ now.use u = none := by
  induction uses generalizing t with
  | nil => simp [run]
  | cons u uses ih =>
    cases huse : t.use u with
    | none =>
      simp only [run, huse, true_iff]
      exact ⟨[], u, uses, [], t, rfl, rfl, huse⟩
    | some r =>
      obtain ⟨a, next⟩ := r
      simp only [run, huse, Option.map_eq_none_iff, ih]
      constructor
      · rintro ⟨before, v, after, answers, now, rfl, hbefore, hnone⟩
        refine ⟨u :: before, v, after, a :: answers, now, rfl, ?_, hnone⟩
        simp [run, huse, hbefore]
      · rintro ⟨before, v, after, answers, now, huses, hbefore, hnone⟩
        cases before with
        | nil =>
          obtain ⟨rfl, rfl⟩ := List.cons.inj huses
          obtain ⟨-, rfl⟩ := Prod.mk.inj (Option.some.inj hbefore)
          rw [huse] at hnone
          cases hnone
        | cons w before =>
          obtain ⟨rfl, rfl⟩ := List.cons.inj huses
          obtain ⟨b, next', rest, huse', hrest, rfl⟩ := run_cons hbefore
          obtain ⟨rfl, rfl⟩ := Prod.mk.inj (Option.some.inj (huse.symm.trans huse'))
          exact ⟨before, v, after, rest, now, rfl, hrest, hnone⟩

theorem heard_append_waiting (h : run {} uses = some (answers, last)) :
    heard answers ++ last.waiting = sent uses := run_conserves h

theorem waiting_eq_nil_iff (h : run {} uses = some (answers, last)) :
    last.waiting = [] ↔ heard answers = sent uses := by
  rw [← heard_append_waiting h, List.self_eq_append_right]

theorem hungUp_iff (h : run {} uses = some (answers, last)) :
    last.hungUp = true ↔ .hangUp ∈ uses := by
  simpa using run_hungUp h

/-- **Where a session stops**: at someone who would type on a keyboard that is gone, and at a read
that waits for a key while all that were typed have been read and the keyboard is there. -/
theorem use_after_eq_none_iff (h : run {} uses = some (answers, last)) :
    last.use u = none ↔ (.hangUp ∈ uses ∧ ∃ keys, u = .send keys) ∨
      (u = .read true ∧ heard answers = sent uses ∧ .hangUp ∉ uses) := by
  rw [use_eq_none_iff, hungUp_iff h, waiting_eq_nil_iff h, ← Bool.not_eq_true, hungUp_iff h]

theorem head?_waiting (h : run {} uses = some (answers, last)) :
    last.waiting.head? = (sent uses)[(heard answers).length]? := by
  rw [← heard_append_waiting h, List.getElem?_append_right (Nat.le_refl _), Nat.sub_self,
    List.head?_eq_getElem?]

/-- What holds of a new terminal after a session with these answers. -/
structure Fifo (uses : List Use) (answers : List Answer) (t : KeyboardTerminal) : Prop where
  /-- What was read, the key that is kept and the channel are together what was typed. -/
  conserved : heard answers ++ t.pending.toList ++ t.channel = sent uses
  /-- A queue gives the same answers, and has the same keys left. -/
  queue : ∃ q, QueueTerminal.run {} uses = (answers, q) ∧ q.input = t.pending.toList ++ t.channel
  /-- The next poll finds a key exactly when one that was typed has not been read. -/
  poll : ∀ milliseconds, (t.use (.poll milliseconds)).map Prod.fst =
    some (.ready (decide (heard answers ≠ sent uses)))
  /-- The next read gives the oldest key that has not been read, or none when there is none. It
  does not end when it waits for a key, all that were typed have been read and the keyboard is
  there. -/
  read : ∀ blocking, (t.use (.read blocking)).map Prod.fst =
    if blocking ∧ heard answers = sent uses ∧ .hangUp ∉ uses then none
    else some (.character (.ok (sent uses)[(heard answers).length]?))

/-- **Keys come out as they were typed.** A session with a new terminal fails to go on only where
someone would type on a keyboard that is gone, or where a read waits for a key of an empty channel
with the keyboard still there. After any other, what was read, the key that is kept and what is in
the channel are together what was typed, in that order; a poll tells whether anything is left, a read
gives the oldest key that is; and a queue that is used in the same way gives the same answers. -/
theorem fifo (uses : List Use) :
    (run {} uses = none ↔ ∃ before u after answers t, uses = before ++ u :: after ∧
      run {} before = some (answers, t) ∧
      ((.hangUp ∈ before ∧ ∃ keys, u = .send keys) ∨
        (u = .read true ∧ heard answers = sent before ∧ .hangUp ∉ before))) ∧
    ∀ answers t, run {} uses = some (answers, t) → Fifo uses answers t := by
  constructor
  · rw [run_eq_none_iff]
    constructor
    · rintro ⟨before, u, after, answers, t, huses, hbefore, hnone⟩
      exact ⟨before, u, after, answers, t, huses, hbefore, (use_after_eq_none_iff hbefore).1 hnone⟩
    · rintro ⟨before, u, after, answers, t, huses, hbefore, hstops⟩
      exact ⟨before, u, after, answers, t, huses, hbefore, (use_after_eq_none_iff hbefore).2 hstops⟩
  · intro answers t h
    refine ⟨?_, ?_, ?_, ?_⟩
    · rw [List.append_assoc]
      exact heard_append_waiting h
    · obtain ⟨hanswers, hleft⟩ := run_eq_queue (q := {}) rfl h
      exact ⟨(QueueTerminal.run {} uses).2, by rw [← hanswers], hleft⟩
    · intro milliseconds
      rw [use_poll, Option.map_some, Option.some.injEq, Answer.ready.injEq, Bool.eq_iff_iff,
        decide_eq_true_eq, Ne, ← waiting_eq_nil_iff h]
      simp
    · intro blocking
      split
      · rename_i hstops
        rw [(use_after_eq_none_iff h).2 (.inr ⟨by rw [hstops.1], hstops.2⟩), Option.map_none]
      · rename_i hgoes
        have hread : ¬ (blocking ∧ t.waiting = [] ∧ t.hungUp = false) := by
          rwa [waiting_eq_nil_iff h, ← Bool.not_eq_true, hungUp_iff h]
        rw [use_read hread, Option.map_some, head?_waiting h]

/-- Two keys are typed, one is waited for, the keyboard goes away, and both are read. -/
theorem fifo_overHangUp :
    let uses : List Use := [.send [1, 2], .poll 0, .hangUp, .read false, .read true]
    let answers : List Answer := [.done, .ready true, .done, .character (.ok (some 1)),
      .character (.ok (some 2))]
    ∃ t, run {} uses = some (answers, t) ∧ heard answers ++ t.pending.toList ++ t.channel = [1, 2] ∧
      (t.use (.read true)).map Prod.fst = some (.character (.ok none)) := by
  intro uses answers
  have hrun : ∃ t, run {} uses = some (answers, t) := ⟨_, rfl⟩
  obtain ⟨t, hrun⟩ := hrun
  have hfifo := (fifo uses).2 answers t hrun
  exact ⟨t, hrun, hfifo.conserved, hfifo.read true⟩

end KeyboardTerminal

end PeripheralBus.Line
