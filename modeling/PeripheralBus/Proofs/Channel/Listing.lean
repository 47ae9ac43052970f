import Mathlib.Tactic.IntervalCases
import PeripheralBus.Pack.MemoryCabinet
import PeripheralBus.Proofs.Channel.Codec
import PeripheralBus.Proofs.Channel.Effects

/-!
# Programs as listings

A **listing** is a channel program before it is put into memory: the orders by address, each with
its execute-if flag. `Listing.run` carries it out without looking at a single word. The words of a
listing in memory and the listing itself run alike as long as the program stays inside the listing
and writes no cell of it (`run_listing`).

* `Listing.Loaded`: the words of every order stand in memory from its address on.
* `step_listing`: fetching, reading and performing the words at an address of a loaded listing is
  carrying out its order there.
* `Loaded.step`: a step that writes no cell of a listing leaves it loaded.
* `Closed.reaches`: a listing that leads nowhere else and stores nowhere into itself is never left
  and never damaged.
* `ofOrders`, `order?_of_has`: orders in a row, and what is executed where memory has their words.
-/

namespace PeripheralBus

open Pack Activity

variable {S : Type} [Cabinet S]

/-- How many words an order takes, by what it is. -/
def Order.wordCount : Order → Word
  | .format _ | .read _ | .write _ => 3
  | _ => 2

/-- The orders of a program by address, each with its execute-if flag. -/
abbrev Listing := Word → Option (Order × Bool)

namespace Listing

/-- Carries out an order that is not flagged. -/
def execute (device : UInt8) (s : Activity S) (o : Order) : List PackEvent × Progress S :=
  let here := s.registers.address
  let next (events : List Event) (s : Activity S) : List PackEvent × Progress S :=
    (Event.packEvents events, .running (s.goto (here + o.wordCount)))
  match o with
  | .halt =>
    let r := s.registers
    ([], .ended ⟨.ok ⟨here, r.status, r.unit, r.executed, r.skipped⟩, s.machine, s.controller⟩)
  | .interrupt vector =>
    ([], .ended ⟨.error (.interruptOrder vector here), s.machine, s.controller⟩)
  | .jump target => ([], .running (s.goto target))
  | .seek .. | .stall => next [] s
  | .format _ | .write _ => next [] (if s.controller.mount.isOpen then s else s.becomeNotReady)
  | .selectUnit field => let (events, s) := s.selectUnit device field; next events s
  | .read sector =>
    match s.read sector with
    | (events, .ok s) => next events s
    | (events, .error (fault, c)) => (Event.packEvents events, .ended ⟨.error fault, s.machine, c⟩)
  | .storeStatus address => next [] (s.write address s.registers.status)
  | .storeAddress address => next [] (s.write address here)
  | .selectDma channels channel =>
    next [] { s with registers := { s.registers with
      dmaChannels := channels
      dmaChannel := channel } }

/-- Carries out the order at the current address or steps over it, if there is one. -/
def step (l : Listing) (device : UInt8) (s : Activity S) : Option (List PackEvent × Progress S) :=
  match l s.registers.address with
  | none => none
  | some (o, true) => some ([], .running (s.stepOver o.wordCount))
  | some (o, false) => some (execute device s.countExecuted o)

/-- Carries out orders until the program ends, at most `limit` of them. -/
def run (l : Listing) (device : UInt8) :
    ℕ → List PackEvent → Activity S → Option (List PackEvent × Ended S)
  | 0, _, _ => none
  | limit + 1, events, s =>
    match l.step device s with
    | none => none
    | some (more, .ended last) => some (events ++ more, last)
    | some (more, .running next) => l.run device limit (events ++ more) next

/-- The words of every order stand in memory from its address on, around the end of memory if need
be. -/
def Loaded (l : Listing) (m : Memory) : Prop :=
  ∀ address o flag, l address = some (o, flag) →
    ∀ (i : ℕ) word, (o.toWords flag)[i]? = some word → m.read (address + UInt16.ofNat i) = word

/-- The cells that hold a word of the listing. -/
def Holds (l : Listing) (a : Word) : Prop :=
  ∃ address o flag, ∃ i < (o.toWords flag).length,
    l address = some (o, flag) ∧ a = address + UInt16.ofNat i

/-- Every field of every order has room in its place. -/
def Fits (l : Listing) : Prop := ∀ address o flag, l address = some (o, flag) → o.Fits

variable {l : Listing} {device : UInt8} {s : Activity S}

theorem wordCount_eq_size (o : Order) : o.wordCount = o.size := by cases o <;> rfl

/-- Where an order of a loaded listing starts, memory holds its words. -/
theorem Loaded.toWords_prefixed {m : Memory} (h : l.Loaded m) {address : Word} {o : Order}
    {flag : Bool} (ho : l address = some (o, flag)) :
    o.toWords flag <+: (m.orderWords address).toList := by
  have hcell := h address o flag ho
  have hlen : (o.toWords flag).length ≤ 3 := by
    rw [Order.length_toWords, ← wordCount_eq_size]
    cases o <;> simp [Order.wordCount]
  rw [List.prefix_iff_getElem?]
  intro i hi
  have hword := hcell i _ (List.getElem?_eq_getElem hi)
  have hi3 : i < 3 := by omega
  match i, hi3 with
  | 0, _ => simpa [OrderWords.toList, Memory.orderWords] using hword
  | 1, _ => simpa [OrderWords.toList, Memory.orderWords] using hword
  | 2, _ => simpa [OrderWords.toList, Memory.orderWords] using hword

/-- Carrying out an order is performing it, messages aside. -/
theorem execute_eq (o : Order) :
    execute device s o =
      (Event.packEvents (s.perform device o).1, (s.perform device o).2) := by
  have hadvance (t : Activity S) (ht : t.registers.address = s.registers.address) :
      t.goto (s.registers.address + o.wordCount) = t.advance o.size := by
    rw [wordCount_eq_size, advance, ht]
  cases o with
  | halt => simp [execute, perform, finish, say]
  | interrupt | jump => rfl
  | seek | stall => simp [execute, perform, hadvance]
  | format | write =>
    simp only [execute, perform, refuse]
    cases s.controller.mount.isOpen <;> simp [hadvance, becomeNotReady, dmaMessage, noUnitWarning]
  | storeStatus | storeAddress =>
    simp [execute, perform, hadvance, Activity.write, say]
  | selectDma => simp [execute, perform, hadvance]
  | selectUnit field =>
    have ht : (s.selectUnit device field).2.registers.address = s.registers.address := by
      rw [selectUnit_registers]
    simp [execute, perform, hadvance _ ht]
  | read sector =>
    rcases hread : s.read sector with ⟨events, ⟨fault, c⟩ | t⟩
    · simp [execute, perform, hread]
    · have ht : t.registers.address = s.registers.address := by
        rw [read_registers (congrArg Prod.snd hread)]
      simp [execute, perform, hread, hadvance _ ht]

/-- At an address of a loaded listing the next order is the listing's. -/
theorem Loaded.order?_eq (h : l.Loaded s.machine.memory) (hfits : l.Fits) {o : Order}
    (ho : l s.registers.address = some (o, false)) : s.order? = some o := by
  have hwords : o.toWords false <+: s.words.toList := h.toWords_prefixed ho
  rw [order?_eq_some_iff, Order.ofWords_of_toWords hwords,
    Order.narrowed_of_fits (hfits _ _ _ ho)]
  exact ⟨(Order.code_of_toWords hwords).2, rfl⟩

/-! ## Orders in a row -/

/-- The listing of orders in a row from an address on, none of them flagged. -/
def ofOrders (address : Word) : List Order → Listing
  | [] => fun _ => none
  | o :: rest => fun a =>
    if a = address then some (o, false) else ofOrders (address + o.size) rest a

/-- The words of orders in a row. -/
def wordsOf (orders : List Order) : List Word := orders.flatMap fun o => o.toWords false

theorem loaded_ofOrders {m : Memory} {address : Word} {orders : List Order}
    (h : m.Has address (wordsOf orders)) : (ofOrders address orders).Loaded m := by
  induction orders generalizing address with
  | nil => simp [Loaded, ofOrders]
  | cons first rest ih =>
    have hwords : wordsOf (first :: rest) = first.toWords false ++ wordsOf rest := rfl
    rw [hwords] at h
    intro a o flag ho i word hword
    simp only [ofOrders] at ho
    split at ho
    · rename_i ha
      obtain ⟨rfl, rfl⟩ := Prod.mk.inj (Option.some.inj ho)
      have hi := (List.getElem?_eq_some_iff.1 hword).1
      rw [ha]
      exact h i word (by rw [List.getElem?_append_left hi, hword])
    · refine ih ?_ a o flag ho i word hword
      -- the words of the other orders stand behind those of the first one
      intro j other hother
      have hplace : address + first.size + UInt16.ofNat j =
          address + UInt16.ofNat ((first.toWords false).length + j) := by
        rw [Order.length_toWords, UInt16.ofNat_add, UInt16.ofNat_toNat, UInt16.add_assoc]
      rw [hplace]
      refine h _ other ?_
      rw [List.getElem?_append_right (Nat.le_add_right _ _), Nat.add_sub_cancel_left, hother]

theorem fits_ofOrders {address : Word} {orders : List Order} (h : ∀ o ∈ orders, o.Fits) :
    (ofOrders address orders).Fits := by
  induction orders generalizing address with
  | nil => simp [Fits, ofOrders]
  | cons first rest ih =>
    intro a o flag ho
    simp only [ofOrders] at ho
    split at ho
    · obtain ⟨rfl, -⟩ := Prod.mk.inj (Option.some.inj ho)
      exact h first List.mem_cons_self
    · exact ih (fun o ho => h o (List.mem_cons_of_mem first ho)) a o flag ho

/-- Where memory has the words of orders in a row, these orders are executed. -/
theorem order?_of_has {base : Word} {orders : List Order} {o : Order}
    (h : s.machine.memory.Has base (wordsOf orders)) (hfits : ∀ o ∈ orders, o.Fits)
    (ho : ofOrders base orders s.registers.address = some (o, false)) : s.order? = some o :=
  (loaded_ofOrders h).order?_eq (fits_ofOrders hfits) ho

/-! ## Listings at work -/

/-- **One order.** At an address of a loaded listing a step carries out the listing's order. -/
theorem step_listing (device : UInt8) (hfits : l.Fits) (hloaded : l.Loaded s.machine.memory)
    (hhere : (l s.registers.address).isSome) :
    l.step device s = some (Event.packEvents (s.step device).1, (s.step device).2) := by
  obtain ⟨⟨o, flag⟩, ho⟩ := Option.isSome_iff_exists.1 hhere
  cases flag with
  | true =>
    have hwords : o.toWords true <+: s.words.toList := hloaded.toWords_prefixed ho
    obtain ⟨hcode, hflag⟩ := Order.code_of_toWords hwords
    obtain ⟨hnext, hevents⟩ := step_of_flagged device hflag
    rw [hnext, hevents, hcode, Listing.step, ho]
    simp [wordCount_eq_size, Order.size]
  | false =>
    have horder := hloaded.order?_eq hfits ho
    obtain ⟨hnext, hevents⟩ := step_of_order device horder
    rw [Listing.step, ho, hnext, hevents]
    exact congrArg some (execute_eq o)

/-- **A step that writes no cell of a listing leaves it loaded.** -/
theorem Loaded.step {next : Activity S} (h : l.Loaded s.machine.memory)
    (hnext : (s.step device).2 = .running next) (hkeeps : ∀ a, Writes device s a → ¬ l.Holds a) :
    l.Loaded next.machine.memory := by
  intro address o flag ho i word hword
  have hi : i < (o.toWords flag).length := (List.getElem?_eq_some_iff.1 hword).1
  have hcell : ¬ Writes device s (address + UInt16.ofNat i) :=
    fun hw => hkeeps _ hw ⟨address, o, flag, i, hi, ho, rfl⟩
  rw [step_memory hnext hcell]
  exact h address o flag ho i word hword

/-! ## Listings that keep to themselves -/

/-- Where the program goes on after an entry at an address, if it does. -/
def follower (address : Word) : Order × Bool → Option Word
  | (.halt, false) | (.interrupt _, false) => none
  | (.jump target, false) => some target
  | (o, _) => some (address + o.wordCount)

/-- A listing that leads to its own addresses only and stores into none of its cells. Its read
orders are flagged, for where they write is up to the DMA registers. -/
structure Closed (l : Listing) : Prop where
  follower : ∀ address entry next, l address = some entry → follower address entry = some next →
    (l next).isSome
  status : ∀ address a, l address = some (.storeStatus a, false) → ¬ l.Holds a
  address : ∀ address a, l address = some (.storeAddress a, false) → ¬ l.Holds a
  read : ∀ address sector, l address ≠ some (.read sector, false)

/-- A step goes where the listing says. -/
theorem step_follower {next : Activity S} {events : List PackEvent}
    (h : l.step device s = some (events, .running next)) :
    ∃ entry, l s.registers.address = some entry ∧
      follower s.registers.address entry = some next.registers.address := by
  unfold Listing.step at h
  split at h
  · simp at h
  · rename_i o ho
    simp only [Option.some.injEq, Prod.mk.injEq, Progress.running.injEq] at h
    exact ⟨(o, true), ho, by rw [← h.2]; cases o <;> rfl⟩
  · rename_i o ho
    refine ⟨(o, false), ho, ?_⟩
    simp only [Option.some.injEq] at h
    cases o with
    | read sector =>
      simp only [execute] at h
      split at h
      · simp only [Prod.mk.injEq, Progress.running.injEq] at h
        rw [← h.2]
        rfl
      · simp at h
    | halt | interrupt => simp [execute] at h
    | _ =>
      simp only [execute, Prod.mk.injEq, Progress.running.injEq] at h
      rw [← h.2]
      rfl

/-- At an address of a closed listing nothing is written into it. -/
theorem Closed.not_holds (hl : l.Closed) (hfits : l.Fits) (hloaded : l.Loaded s.machine.memory)
    (hhere : (l s.registers.address).isSome) {a : Word} (hw : Writes device s a) :
    ¬ l.Holds a := by
  obtain ⟨⟨o, flag⟩, ho⟩ := Option.isSome_iff_exists.1 hhere
  cases flag with
  | true =>
    have hflag := (Order.code_of_toWords (hloaded.toWords_prefixed ho)).2
    have hnone : s.order? = none := if_pos hflag
    cases hw with
    | status h | address h | transfer h => simp [hnone] at h
  | false =>
    have horder := hloaded.order?_eq hfits ho
    cases hw with
    | status h =>
      obtain rfl : o = .storeStatus a := by simpa [horder] using h
      exact hl.status _ _ ho
    | address h =>
      obtain rfl : o = .storeAddress a := by simpa [horder] using h
      exact hl.address _ _ ho
    | @transfer sector _ _ h =>
      obtain rfl : o = .read sector := by simpa [horder] using h
      exact absurd ho (hl.read _ _)

/-- **A closed listing is never left and never damaged.** -/
theorem Closed.reaches (hl : l.Closed) (hfits : l.Fits) {t : Activity S}
    (hloaded : l.Loaded s.machine.memory) (hhere : (l s.registers.address).isSome)
    (ht : Reaches device s t) :
    (l t.registers.address).isSome ∧ ∀ a, Writes device t a → ¬ l.Holds a := by
  obtain ⟨visited, hp⟩ := ht
  have hinv : l.Loaded t.machine.memory ∧ (l t.registers.address).isSome := by
    refine (hp.invariant (P := fun r => l.Loaded r.machine.memory ∧ (l r.registers.address).isSome)
      ?_ ⟨hloaded, hhere⟩).1
    rintro r next ⟨hr, hsome⟩ hnext
    have hstep := step_listing device hfits hr hsome
    rw [hnext] at hstep
    obtain ⟨entry, hentry, hfollow⟩ := step_follower hstep
    exact ⟨hr.step hnext fun a => hl.not_holds hfits hr hsome,
      hl.follower _ _ _ hentry hfollow⟩
  exact ⟨hinv.2, fun a => hl.not_holds hfits hinv.1 hinv.2⟩

/-! ## Runs -/

/-- A run of a loaded listing's words, from any point and after any events. -/
theorem run_listing_from (hfits : l.Fits) (limit : ℕ) (events : Array Event) (s : Activity S)
    (hloaded : l.Loaded s.machine.memory)
    (hcovers : ∀ t, Reaches device s t → (l t.registers.address).isSome)
    (hkeeps : ∀ t a, Reaches device s t → Writes device t a → ¬ l.Holds a) :
    (Activity.run device limit events s).map (fun r => (Event.packEvents r.1.toList, r.2)) =
      l.run device limit (Event.packEvents events.toList) s := by
  induction limit generalizing events s with
  | zero => rfl
  | succ limit ih =>
    have hstep := step_listing device hfits hloaded (hcovers s (.refl s))
    rw [Listing.run, hstep, Activity.run]
    rcases hs : s.step device with ⟨more, next | last⟩
    · have hnext : (s.step device).2 = .running next := by rw [hs]
      show (Activity.run device limit (events ++ more) next).map _ =
        l.run device limit (Event.packEvents events.toList ++ Event.packEvents more) next
      rw [← Event.packEvents_append, ← Array.toList_appendList]
      exact ih _ next (hloaded.step hnext fun a => hkeeps s a (.refl s))
        (fun t ht => hcovers t (ht.head hnext)) (fun t a ht => hkeeps t a (ht.head hnext))
    · simp

/-- **A listing and its words run alike.** Take orders at some addresses, all their fields in range,
and a machine whose memory holds their words there. If the program comes to no other address, and
no order that it executes writes a cell of the listing, then the run of the words is the run of the
listing: one ends within a limit exactly when the other does, with the same result, machine and
controller, and with the same opening, closing and positioning of images on the way. -/
theorem run_listing {c : Controller S} {m : Machine} {address : Word} (hfits : l.Fits)
    (hloaded : l.Loaded m.memory)
    (hcovers : ∀ t, Reaches device ⟨m, c, { address }⟩ t → (l t.registers.address).isSome)
    (hkeeps : ∀ t a, Reaches device ⟨m, c, { address }⟩ t → Writes device t a → ¬ l.Holds a)
    (limit : ℕ) :
    (c.run limit m device address).map (fun r => (Event.packEvents r.1, r.2)) =
      l.run device limit [] ⟨m, c, { address }⟩ := by
  rw [Controller.run, Option.map_map]
  exact run_listing_from hfits limit #[] _ hloaded hcovers hkeeps

/-- A listing around the end of memory: a flagged read order across it, then a store, a jump over
unused words, and a halt. -/
def aroundTheEnd : Listing := fun a =>
  if a = 0o177776 then some (.read ⟨1, 2, 3, 4⟩, true)
  else if a = 1 then some (.storeStatus 0o400, false)
  else if a = 3 then some (.jump 0o20, false)
  else if a = 0o20 then some (.halt, false)
  else none

/-- Memory with the words of `aroundTheEnd`. -/
def aroundTheEndMemory : Memory :=
  (((Memory.zero.writeAll 0o177776 (Order.toWords (.read ⟨1, 2, 3, 4⟩) true)).writeAll 1
    (Order.toWords (.storeStatus 0o400) false)).writeAll 3
      (Order.toWords (.jump 0o20) false)).writeAll 0o20 (Order.toWords .halt false)

theorem aroundTheEnd_cases {a : Word} {o : Order} {flag : Bool}
    (h : aroundTheEnd a = some (o, flag)) :
    (a = 0o177776 ∧ o = .read ⟨1, 2, 3, 4⟩ ∧ flag = true) ∨
    (a = 1 ∧ o = .storeStatus 0o400 ∧ flag = false) ∨
    (a = 3 ∧ o = .jump 0o20 ∧ flag = false) ∨ (a = 0o20 ∧ o = .halt ∧ flag = false) := by
  unfold aroundTheEnd at h
  split_ifs at h with h1 h2 h3 h4 <;> simp_all

theorem aroundTheEnd_holds {a : Word} (h : aroundTheEnd.Holds a) :
    a.toNat < 0o22 ∨ 0o177776 ≤ a.toNat := by
  obtain ⟨address, o, flag, i, hi, ho, rfl⟩ := h
  have hcases := aroundTheEnd_cases ho
  rw [Order.length_toWords] at hi
  rcases hcases with ⟨rfl, rfl, -⟩ | ⟨rfl, rfl, -⟩ | ⟨rfl, rfl, -⟩ | ⟨rfl, rfl, -⟩ <;>
    simp [Order.size, Order.sizeOfCode, Order.code] at hi <;>
    interval_cases i <;> simp

theorem aroundTheEnd_fits : aroundTheEnd.Fits := by
  intro address o flag ho
  rcases aroundTheEnd_cases ho with ⟨-, rfl, -⟩ | ⟨-, rfl, -⟩ | ⟨-, rfl, -⟩ | ⟨-, rfl, -⟩ <;>
    simp [Order.Fits, Sector.Fits]

theorem aroundTheEnd_closed : aroundTheEnd.Closed where
  follower := by
    rintro address ⟨o, flag⟩ next ho hnext
    rcases aroundTheEnd_cases ho with ⟨rfl, rfl, rfl⟩ | ⟨rfl, rfl, rfl⟩ | ⟨rfl, rfl, rfl⟩ |
      ⟨rfl, rfl, rfl⟩ <;> simp [follower, Order.wordCount] at hnext <;> subst hnext <;> rfl
  status := by
    intro address a ho hh
    have hplace := aroundTheEnd_holds hh
    rcases aroundTheEnd_cases ho with ⟨-, h, -⟩ | ⟨-, h, -⟩ | ⟨-, h, -⟩ | ⟨-, h, -⟩ <;> simp at h
    subst h
    simp at hplace
  address := by
    intro address a ho
    rcases aroundTheEnd_cases ho with ⟨-, h, -⟩ | ⟨-, h, -⟩ | ⟨-, h, -⟩ | ⟨-, h, -⟩ <;> simp at h
  read := by
    intro address sector ho
    rcases aroundTheEnd_cases ho with ⟨-, h, h'⟩ | ⟨-, h, -⟩ | ⟨-, h, -⟩ | ⟨-, h, -⟩ <;> simp_all

theorem aroundTheEnd_loaded : aroundTheEnd.Loaded aroundTheEndMemory := by
  intro address o flag ho i word hword
  rcases aroundTheEnd_cases ho with ⟨rfl, rfl, rfl⟩ | ⟨rfl, rfl, rfl⟩ | ⟨rfl, rfl, rfl⟩ |
    ⟨rfl, rfl, rfl⟩
  all_goals
    have hi := (List.getElem?_eq_some_iff.1 hword).1
    simp only [Order.toWords, Order.operandWords, Sector.operandWords, List.length_cons,
      List.length_nil] at hi
    interval_cases i <;>
      simp [Order.toWords, Order.operandWords, Sector.operandWords] at hword <;> subst hword <;>
      simp [aroundTheEndMemory, Order.toWords, Order.operandWords, Sector.operandWords,
        Memory.writeAll, Memory.read_write]

theorem result_aroundTheEnd (m : Machine) (c : Controller MemoryCabinet) :
    (aroundTheEnd.run 0o26 4 [] ⟨m, c, { address := 0o177776 }⟩).map (fun r => (r.1, r.2.result)) =
      some ([], .ok ⟨0o20, statusReady, none, 3, 1⟩) := by
  simp [Listing.run, Listing.step, aroundTheEnd, Listing.execute, Activity.stepOver,
    Activity.goto, Order.wordCount, Activity.countExecuted, Activity.write]

/-- The words of the listing around the end of memory run as the listing does. -/
theorem run_aroundTheEnd :
    ((⟨{}, {}, {}⟩ : Controller MemoryCabinet).run 4 { memory := aroundTheEndMemory } 0o26
        0o177776).map (fun r => (Event.packEvents r.1, r.2.result)) =
      some ([], .ok ⟨0o20, statusReady, none, 3, 1⟩) := by
  -- the memory stays a name, for nothing below depends on its words
  have hrun (m : Machine) (c : Controller MemoryCabinet) (hm : aroundTheEnd.Loaded m.memory) :
      (c.run 4 m 0o26 0o177776).map (fun r => (Event.packEvents r.1, r.2.result)) =
        some ([], .ok ⟨0o20, statusReady, none, 3, 1⟩) := by
    have hkept (t : Activity MemoryCabinet)
        (ht : Reaches 0o26 ⟨m, c, { address := 0o177776 }⟩ t) :=
      aroundTheEnd_closed.reaches aroundTheEnd_fits hm (by simp [aroundTheEnd]) ht
    rw [← result_aroundTheEnd m c, ← run_listing aroundTheEnd_fits hm (fun t ht => (hkept t ht).1)
      (fun t a ht => (hkept t ht).2 a) 4, Option.map_map]
    rfl
  exact hrun { memory := aroundTheEndMemory } ⟨{}, {}, {}⟩ aroundTheEnd_loaded

end Listing

end PeripheralBus
