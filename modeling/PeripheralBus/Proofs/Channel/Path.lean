import Mathlib.Data.List.Basic
import PeripheralBus.Channel.Program

/-!
# Channel programs as paths

The run of a channel program is a **path** of activities, each taken at the moment when an order is
about to be fetched. `Activity.run` counts steps and collects events; a path says where the program
has been.

* `Activity.order?`: the order that is executed next.
* `Activity.Path`: the activities on the way from one to another.
* `step_cases`: the three things that a step can be; `step_running`, `step_ends`: those that go on,
  and those that end the program.
* `run_eq_some_iff`: a run ends within a limit exactly when a path shorter than the limit leads to
  an activity whose order ends it, and its events are those of the steps on the path.
* `Path.invariant`, `Path.exists_step_of_ne`: what every step keeps holds all along a path, and
  what is different at its end was changed by a step.
* `Path.moved_once`: what some steps move, always in one way that does nothing twice.
-/

namespace PeripheralBus

open Pack

variable {S : Type} [Cabinet S]

namespace Activity

/-- The three words from which the next order is read. -/
def words (s : Activity S) : OrderWords := s.machine.memory.orderWords s.registers.address

/-- The order that is executed next, if one is: neither a flagged order nor an unknown code. -/
def order? (s : Activity S) : Option Order :=
  if s.words.flagged then none else (Order.ofWords s.words).toOption

/-- The activities from one to another: the orders of those in the list were fetched in between. -/
inductive Path (device : UInt8) : Activity S → List (Activity S) → Activity S → Prop
  | nil (s : Activity S) : Path device s [] s
  | cons {s next t : Activity S} {visited : List (Activity S)} :
      (s.step device).2 = .running next → Path device next visited t →
      Path device s (s :: visited) t

/-- The program comes from one activity to another. -/
def Reaches (device : UInt8) (s t : Activity S) : Prop := ∃ visited, Path device s visited t

/-- The events of the steps from some activities. -/
def eventsOf (device : UInt8) (visited : List (Activity S)) : List Event :=
  visited.flatMap fun s => (s.step device).1

variable {device : UInt8} {s t : Activity S}

theorem order?_eq_some_iff {o : Order} :
    s.order? = some o ↔ s.words.flagged = false ∧ Order.ofWords s.words = .ok o := by
  unfold order?
  cases hf : s.words.flagged with
  | true => simp
  | false => cases ho : Order.ofWords s.words <;> simp [Except.toOption]

/-! ## One step -/

/-- A flagged order is stepped over. -/
theorem step_of_flagged (device : UInt8) (h : s.words.flagged = true) :
    (s.step device).2 = .running (s.stepOver (Order.sizeOfCode s.words.code)) ∧
      Event.packEvents (s.step device).1 = [] := by
  have h' : (s.machine.memory.orderWords s.registers.address).flagged = true := h
  unfold step
  simp [h', Registers.conditionHolds, words, say]

/-- A code that belongs to no order ends the program. -/
theorem step_of_error (device : UInt8) {code : UInt8} (hf : s.words.flagged = false)
    (h : Order.ofWords s.words = .error code) :
    (s.step device).2 = s.finish (.error (.unrecognizedOrder code s.registers.address)) ∧
      Event.packEvents (s.step device).1 = [] := by
  have hf' : (s.machine.memory.orderWords s.registers.address).flagged = false := hf
  have h' : Order.ofWords (s.machine.memory.orderWords s.registers.address) = .error code := h
  unfold step
  simp [hf', h', say]

/-- Any other order is counted and performed. -/
theorem step_of_order (device : UInt8) {o : Order} (h : s.order? = some o) :
    (s.step device).2 = (s.countExecuted.perform device o).2 ∧
      Event.packEvents (s.step device).1 =
        Event.packEvents (s.countExecuted.perform device o).1 := by
  obtain ⟨hf, ho⟩ := order?_eq_some_iff.1 h
  have hf' : (s.machine.memory.orderWords s.registers.address).flagged = false := hf
  have ho' : Order.ofWords (s.machine.memory.orderWords s.registers.address) = .ok o := ho
  unfold step
  simp [hf', ho', say]

/-- **What the next step is**: stepping over, an unknown code, or an order. -/
theorem step_cases (s : Activity S) :
    s.words.flagged = true ∨
      (s.words.flagged = false ∧ ∃ code, Order.ofWords s.words = .error code) ∨
      ∃ o, s.order? = some o := by
  cases hf : s.words.flagged with
  | true => exact .inl rfl
  | false =>
    cases ho : Order.ofWords s.words with
    | error code => exact .inr (.inl ⟨rfl, code, rfl⟩)
    | ok o => exact .inr (.inr ⟨o, order?_eq_some_iff.2 ⟨hf, ho⟩⟩)

/-- **How a program goes on**: it steps over an order, or performs one. -/
theorem step_running {next : Activity S} (h : (s.step device).2 = .running next) :
    (s.order? = none ∧ next = s.stepOver (Order.sizeOfCode s.words.code)) ∨
      ∃ o, s.order? = some o ∧ (s.countExecuted.perform device o).2 = .running next := by
  rcases step_cases s with hf | ⟨hf, code, he⟩ | ⟨o, ho⟩
  · rw [(step_of_flagged device hf).1, Progress.running.injEq] at h
    exact .inl ⟨if_pos hf, h.symm⟩
  · rw [(step_of_error device hf he).1] at h
    simp [finish] at h
  · rw [(step_of_order device ho).1] at h
    exact .inr ⟨o, ho, h⟩

/-- **How a program ends**: at a code that belongs to no order, or by an order. -/
theorem step_ends {last : Ended S} (h : (s.step device).2 = .ended last) :
    (∃ code, s.words.flagged = false ∧ Order.ofWords s.words = .error code ∧
      last = ⟨.error (.unrecognizedOrder code s.registers.address), s.machine, s.controller⟩) ∨
      ∃ o, s.order? = some o ∧ (s.countExecuted.perform device o).2 = .ended last := by
  rcases step_cases s with hf | ⟨hf, code, he⟩ | ⟨o, ho⟩
  · rw [(step_of_flagged device hf).1] at h
    simp at h
  · rw [(step_of_error device hf he).1, finish, Progress.ended.injEq] at h
    exact .inl ⟨code, hf, he, h.symm⟩
  · rw [(step_of_order device ho).1] at h
    exact .inr ⟨o, ho, h⟩

/-! ## Paths -/

theorem Reaches.refl (s : Activity S) : Reaches device s s := ⟨[], .nil s⟩

theorem Reaches.head {next : Activity S} (h : (s.step device).2 = .running next)
    (ht : Reaches device next t) : Reaches device s t := by
  obtain ⟨visited, hp⟩ := ht
  exact ⟨s :: visited, .cons h hp⟩

theorem Reaches.trans {r : Activity S} (hr : Reaches device s r) (ht : Reaches device r t) :
    Reaches device s t := by
  obtain ⟨visited, hp⟩ := hr
  induction hp with
  | nil => exact ht
  | cons hstep _ ih => exact (ih ht).head hstep

/-- **What every step keeps holds all along a path.** -/
theorem Path.invariant {P : Activity S → Prop}
    (keeps : ∀ a next, P a → (a.step device).2 = .running next → P next)
    {visited : List (Activity S)} (hp : Path device s visited t) (hs : P s) :
    P t ∧ ∀ a ∈ visited, P a := by
  induction hp with
  | nil s => exact ⟨hs, by simp⟩
  | cons hstep _ ih =>
    obtain ⟨ht, hv⟩ := ih (keeps _ _ hs hstep)
    refine ⟨ht, ?_⟩
    intro a ha
    rcases List.mem_cons.1 ha with rfl | ha
    · exact hs
    · exact hv a ha

/-- What is different at the end of a path was changed by a step on it. -/
theorem Path.exists_step_of_ne {α : Type} (f : Activity S → α) {visited : List (Activity S)}
    (hp : Path device s visited t) (h : f t ≠ f s) :
    ∃ a ∈ visited, ∃ next, (a.step device).2 = .running next ∧ f next ≠ f a := by
  induction hp with
  | nil s => exact absurd rfl h
  | @cons s next t visited hstep _ ih =>
    by_cases hnext : f next = f s
    · rw [← hnext] at h
      obtain ⟨a, ha, hchange⟩ := ih h
      exact ⟨a, List.mem_cons_of_mem s ha, hchange⟩
    · exact ⟨s, List.mem_cons_self, next, hstep, hnext⟩

/-- **What is moved once.** Let some steps move a value, in a way that changes nothing when it is
repeated, and all others leave it. At the end of a path it is as it was, or was moved. -/
theorem Path.moved_once {α : Type} {Moves : Activity S → Prop} {f : Activity S → α} {g : α → α}
    (htwice : ∀ x, g (g x) = g x) {visited : List (Activity S)} (hp : Path device s visited t)
    (hsteps : ∀ a ∈ visited, ∀ next, (a.step device).2 = .running next →
      (Moves a ∧ f next = g (f a)) ∨ (¬ Moves a ∧ f next = f a)) :
    ((¬ ∃ a ∈ visited, Moves a) ∧ f t = f s) ∨ ((∃ a ∈ visited, Moves a) ∧ f t = g (f s)) := by
  induction hp with
  | nil s => exact .inl ⟨by simp, rfl⟩
  | @cons s next t visited hstep _ ih =>
    rw [List.exists_mem_cons_iff]
    have hrest := ih fun a ha => hsteps a (List.mem_cons_of_mem s ha)
    rcases hsteps s List.mem_cons_self next hstep with ⟨hmoves, hnext⟩ | ⟨hno, hnext⟩
    · refine .inr ⟨.inl hmoves, ?_⟩
      rcases hrest with ⟨-, ht⟩ | ⟨-, ht⟩
      · rw [ht, hnext]
      · rw [ht, hnext, htwice]
    · rwa [or_iff_right hno, ← hnext]

/-- The activities of a path are reached. -/
theorem Path.reaches {visited : List (Activity S)} (hp : Path device s visited t) :
    ∀ a ∈ visited, Reaches device s a := by
  induction hp with
  | nil => simp
  | cons hstep _ ih =>
    intro a ha
    rcases List.mem_cons.1 ha with rfl | ha
    · exact .refl a
    · exact (ih a ha).head hstep

/-- A program that ends has reached nothing but the activities on its path. -/
theorem Path.mem_of_reaches {visited : List (Activity S)} (hp : Path device s visited t)
    {last : Ended S} (hlast : (t.step device).2 = .ended last) {a : Activity S}
    (ha : Reaches device s a) : a ∈ visited ++ [t] := by
  induction hp with
  | nil s =>
    obtain ⟨between, hbetween⟩ := ha
    cases hbetween with
    | nil => exact List.mem_singleton_self _
    | cons hstep _ =>
      rw [hlast] at hstep
      cases hstep
  | @cons s next t visited hstep _ ih =>
    obtain ⟨between, hbetween⟩ := ha
    cases hbetween with
    | nil => exact List.mem_cons_self
    | cons hstep' hrest =>
      obtain rfl := Progress.running.inj (hstep'.symm.trans hstep)
      exact List.mem_cons_of_mem s (ih hlast ⟨_, hrest⟩)

/-- **A run is a path to an activity whose order ends it.** -/
theorem run_eq_some_iff (limit : Nat) (events all : Array Event) (s : Activity S)
    (last : Ended S) :
    run device limit events s = some (all, last) ↔
      ∃ visited t, Path device s visited t ∧ (t.step device).2 = .ended last ∧
        visited.length < limit ∧
        all.toList = events.toList ++ eventsOf device (visited ++ [t]) := by
  induction limit generalizing events s with
  | zero => simp [run]
  | succ limit ih =>
    rcases hstep : s.step device with ⟨more, ⟨next⟩ | ⟨ended⟩⟩
    · simp only [run, hstep, ih]
      constructor
      · rintro ⟨visited, t, hp, ht, hlen, hall⟩
        refine ⟨s :: visited, t, .cons (by rw [hstep]) hp, ht, by simpa using hlen, ?_⟩
        simpa [eventsOf, hstep] using hall
      · rintro ⟨visited, t, hp, ht, hlen, hall⟩
        cases hp with
        | nil => rw [hstep] at ht; simp at ht
        | @cons _ next' _ visited h hp =>
          obtain rfl : next = next' := by rw [hstep] at h; simpa using h
          refine ⟨visited, t, hp, ht, by simpa using hlen, ?_⟩
          simpa [eventsOf, hstep] using hall
    · simp only [run, hstep, Option.some.injEq, Prod.mk.injEq]
      constructor
      · rintro ⟨rfl, rfl⟩
        exact ⟨[], s, .nil s, by rw [hstep], by simp, by simp [eventsOf, hstep]⟩
      · rintro ⟨visited, t, hp, ht, -, hall⟩
        cases hp with
        | nil =>
          rw [hstep] at ht
          refine ⟨?_, by simpa using ht⟩
          apply Array.ext'
          simpa [eventsOf, hstep] using hall.symm
        | cons h _ => rw [hstep] at h; simp at h

end Activity

/-- **A controller's run, as a path.** -/
theorem Controller.run_eq_some_iff {c : Controller S} {limit : Nat} {m : Machine} {device : UInt8}
    {address : Word} {events : List Event} {last : Ended S} :
    c.run limit m device address = some (events, last) ↔
      ∃ visited t, Activity.Path device ⟨m, c, { address }⟩ visited t ∧
        (t.step device).2 = .ended last ∧ visited.length < limit ∧
        events = Activity.eventsOf device (visited ++ [t]) := by
  simp only [Controller.run, Option.map_eq_some_iff, Prod.mk.injEq, Prod.exists]
  constructor
  · rintro ⟨all, ended, h, rfl, rfl⟩
    obtain ⟨visited, t, hp, ht, hlen, hall⟩ := (Activity.run_eq_some_iff ..).1 h
    exact ⟨visited, t, hp, ht, hlen, by simpa using hall⟩
  · rintro ⟨visited, t, hp, ht, hlen, rfl⟩
    refine ⟨(Activity.eventsOf device (visited ++ [t])).toArray, last, ?_, by simp, rfl⟩
    exact (Activity.run_eq_some_iff ..).2 ⟨visited, t, hp, ht, hlen, by simp⟩

end PeripheralBus
