import Mathlib.Data.Fintype.Card
import Mathlib.Logic.Function.Iterate
import PeripheralBus.Proofs.Channel.Ending
import PeripheralBus.Proofs.Channel.Listing

/-!
# Programs that change no memory

Where a program goes on is decided by memory and by nothing else: not by the status, the unit, the
DMA registers or the open image. So a program that changes no memory visits the addresses that one
function gives one after the other. If it came to an address for the second time, it would come to
it over and over, and never to a halt in between. A program of this kind that halts has fetched no
order twice, and there are not more addresses than a word has values.

* `Memory.follower`: where a program goes on from the order at an address.
* `step_position`: **a step goes on there**, and counts one more order.
* `Path.visits`: the addresses of a path on which no memory changes.
* `Path.nodup_addresses`: **no order is fetched twice on the way to a halt**.
* `Controller.halts_within`: programs that change no memory halt within as many orders as there are
  addresses, or never.
-/

namespace PeripheralBus

open Pack

variable {S : Type} [Cabinet S]

/-! ## Words that follow one another -/

/-- What follows the second of two equal words has followed the first already. -/
theorem iterate_of_eq {f : Word → Word} {a : Word} {i j n : ℕ} (h : f^[i] a = f^[j] a)
    (hn : j ≤ n) : f^[n - j + i] a = f^[n] a := by
  calc f^[n - j + i] a = f^[n - j] (f^[i] a) := Function.iterate_add_apply ..
    _ = f^[n - j] (f^[j] a) := by rw [h]
    _ = f^[n - j + j] a := (Function.iterate_add_apply ..).symm
    _ = f^[n] a := by rw [Nat.sub_add_cancel hn]

/-- There are not more different words than a word has values. -/
theorem length_le_of_nodup {words : List Word} (h : words.Nodup) : words.length ≤ 65536 := by
  have hfin : (words.map UInt16.toFin).Nodup := h.map fun _ _ => UInt16.toFin_inj.1
  simpa using hfin.length_le_card

/-! ## One step -/

/-- **Where a program goes on** from the order at an address: at the target of a jump, else behind
the order. -/
def Memory.follower (m : Memory) (here : Word) : Word :=
  let w := m.orderWords here
  match if w.flagged then none else (Order.ofWords w).toOption with
  | some (.jump target) => target
  | _ => here + Order.sizeOfCode w.code

/-- The address of the next order, and how many orders were fetched before it. -/
def Registers.position (r : Registers) : Word × ℕ := (r.address, r.executed + r.skipped)

namespace Activity

variable {device : UInt8} {s t : Activity S}

/-- The order behind one of this size is the next. -/
theorem advance_position (s : Activity S) (size : Word) :
    (s.advance size).registers.position =
      (s.registers.position.1 + size, s.registers.position.2) := rfl

theorem countExecuted_position (s : Activity S) :
    s.countExecuted.registers.position =
      (s.registers.position.1, s.registers.position.2 + 1) := by
  simp only [countExecuted, Registers.position, Prod.mk.injEq, true_and]
  omega

theorem follower_eq (s : Activity S) :
    s.machine.memory.follower s.registers.address =
      match s.order? with
      | some (.jump target) => target
      | _ => s.registers.address + Order.sizeOfCode s.words.code := rfl

/-- The code in memory gives the size of the order that is read from it. -/
theorem size_of_order {o : Order} (h : s.order? = some o) :
    Order.sizeOfCode s.words.code = o.size := by
  rw [Order.size, Order.code_of_ofWords (order?_eq_some_iff.1 h).2]

/-- **A step goes on where memory says**, and counts one more order. -/
theorem step_position {next : Activity S} (h : (s.step device).2 = .running next) :
    next.registers.position =
      (s.machine.memory.follower s.registers.address, s.registers.position.2 + 1) := by
  rcases step_running h with ⟨hnone, rfl⟩ | ⟨o, ho, hperform⟩
  · rw [follower_eq, hnone]
    rfl
  · rw [follower_eq, ho, size_of_order ho]
    -- every order but a jump goes on behind itself, from the position that it left untouched
    have hbehind {u : Activity S} (hu : u.registers.position = s.countExecuted.registers.position) :
        (u.advance o.size).registers.position =
          (s.registers.address + o.size, s.registers.position.2 + 1) := by
      rw [advance_position, hu, countExecuted_position]
      rfl
    cases o with
    | halt | interrupt => simp [perform, finish] at hperform
    | jump target =>
      simp only [perform, Progress.running.injEq] at hperform
      rw [← hperform]
      exact congrArg (Prod.mk target) (congrArg Prod.snd s.countExecuted_position)
    | selectUnit field =>
      simp only [perform, Progress.running.injEq] at hperform
      rw [← hperform]
      exact hbehind (by rw [selectUnit_registers]; rfl)
    | format sector | write sector =>
      simp only [perform, Progress.running.injEq] at hperform
      rw [← hperform]
      exact hbehind (by rw [refuse_registers]; rfl)
    | read sector =>
      obtain ⟨after, hread, rfl⟩ := running_of_read hperform
      exact hbehind (by rw [read_registers hread]; rfl)
    | _ =>
      simp only [perform, Progress.running.injEq] at hperform
      rw [← hperform]
      exact hbehind rfl

/-! ## Programs -/

/-- The next order changes no word of memory. An order that ends the program never does. -/
def KeepsMemory (device : UInt8) (s : Activity S) : Prop :=
  ∀ next, (s.step device).2 = .running next →
    ∀ a, next.machine.memory.read a = s.machine.memory.read a

/-- The same order comes next wherever memory and the address are the same. -/
theorem order?_congr (hmemory : s.machine.memory = t.machine.memory)
    (haddress : s.registers.address = t.registers.address) : s.order? = t.order? := by
  unfold order? words
  rw [hmemory, haddress]

/-- From the activities of a path the program goes on. -/
theorem Path.running {visited : List (Activity S)} (hp : Path device s visited t) :
    ∀ r ∈ visited, ∃ next, (r.step device).2 = .running next := by
  induction hp with
  | nil => simp
  | cons hstep _ ih => exact List.forall_mem_cons.2 ⟨⟨_, hstep⟩, ih⟩

/-- Every order on a path is counted once. -/
theorem Path.count_eq {visited : List (Activity S)} (hp : Path device s visited t) :
    t.registers.position.2 = s.registers.position.2 + visited.length := by
  induction hp with
  | nil => rfl
  | cons hstep _ ih =>
    rw [ih, step_position hstep, List.length_cons]
    omega

/-- **The addresses of a path on which no memory changes** follow one another by the memory at its
start. -/
theorem Path.visits {visited : List (Activity S)} (hp : Path device s visited t)
    (hkeeps : ∀ r ∈ visited, r.KeepsMemory device) {k : ℕ} {r : Activity S}
    (hr : (visited ++ [t])[k]? = some r) :
    r.machine.memory = s.machine.memory ∧
      r.registers.address = s.machine.memory.follower^[k] s.registers.address := by
  induction hp generalizing k with
  | nil s =>
    obtain ⟨hk, rfl⟩ := List.getElem?_eq_some_iff.1 hr
    obtain rfl : k = 0 := by simpa using hk
    exact ⟨rfl, rfl⟩
  | @cons s next t visited hstep _ ih =>
    obtain ⟨hfirst, hrest⟩ := List.forall_mem_cons.1 hkeeps
    cases k with
    | zero =>
      obtain rfl : s = r := by simpa using hr
      exact ⟨rfl, rfl⟩
    | succ k =>
      obtain ⟨hmemory, haddress⟩ := ih hrest hr
      have hkept : next.machine.memory = s.machine.memory := Memory.ext (hfirst next hstep)
      have hnext : next.registers.address = s.machine.memory.follower s.registers.address :=
        congrArg Prod.fst (step_position hstep)
      rw [hmemory, haddress, hkept, hnext, Function.iterate_succ_apply]
      exact ⟨rfl, rfl⟩

/-- **No order is fetched twice on the way to a halt**, if no memory changes. -/
theorem Path.nodup_addresses {visited : List (Activity S)} (hp : Path device s visited t)
    (hkeeps : ∀ r ∈ visited, r.KeepsMemory device) (ht : t.order? = some .halt) :
    ((visited ++ [t]).map (·.registers.address)).Nodup := by
  unfold List.Nodup
  rw [List.pairwise_map, List.pairwise_iff_getElem]
  intro i j hi hj hij heq
  have hlen : (visited ++ [t]).length = visited.length + 1 := by simp
  have hat (k : ℕ) (hk : k < (visited ++ [t]).length) :=
    hp.visits hkeeps (List.getElem?_eq_getElem hk)
  have hlast : (visited ++ [t])[visited.length]? = some t := by simp
  obtain ⟨hmemory, haddress⟩ := hp.visits hkeeps hlast
  rw [(hat i hi).2, (hat j hj).2] at heq
  -- so the address of the halt came up before the end, and the program went on from there
  have hsooner : visited.length - j + i < visited.length := by omega
  obtain ⟨hmemory', haddress'⟩ := hat (visited.length - j + i) (by omega)
  rw [iterate_of_eq heq (by omega), ← haddress] at haddress'
  have hhalt : (visited ++ [t])[visited.length - j + i].order? = some .halt := by
    rw [order?_congr (hmemory'.trans hmemory.symm) haddress', ht]
  rw [List.getElem_append_left hsooner] at hhalt
  obtain ⟨next, hnext⟩ := hp.running _ (List.getElem_mem hsooner)
  rw [step_of_halt device hhalt] at hnext
  simp [finish] at hnext

end Activity

variable {device : UInt8} {c : Controller S} {m : Machine} {address : Word}

/-- **Programs that change no memory halt soon or never.** Take a program that, as far as it goes,
changes the value of no memory word. If it halts, it has fetched no order twice, and so it has
executed and stepped over at most 65536 orders in all. If it comes to an address for the second
time, it does not halt. -/
theorem Controller.halts_within
    (hkeeps : ∀ s, Activity.Reaches device ⟨m, c, { address }⟩ s → s.KeepsMemory device) :
    (∀ limit events last done, c.run limit m device address = some (events, last) →
      last.result = .ok done →
        (∃ visited t, Activity.Path device ⟨m, c, { address }⟩ visited t ∧
          (t.step device).2 = .ended last ∧
          ((visited ++ [t]).map (·.registers.address)).Nodup ∧
          done.executed + done.skipped = (visited ++ [t]).length) ∧
        done.executed + done.skipped ≤ 65536 ∧
        c.run 65536 m device address = some (events, last)) ∧
    ∀ s next t, Activity.Reaches device ⟨m, c, { address }⟩ s →
      (s.step device).2 = .running next → Activity.Reaches device next t →
      t.registers.address = s.registers.address →
      ∀ limit events last done, c.run limit m device address = some (events, last) →
        last.result ≠ .ok done := by
  constructor
  · intro limit events last done hrun hok
    obtain ⟨visited, t, hp, hlast, -, hevents⟩ := run_eq_some_iff.1 hrun
    obtain ⟨hhalt, rfl⟩ := Activity.halt_of_step_ok hlast hok
    have hnodup := hp.nodup_addresses (fun r hr => hkeeps r (hp.reaches r hr)) hhalt
    have hlength : (visited ++ [t]).length ≤ 65536 := by
      simpa using length_le_of_nodup hnodup
    have hcount : t.completion.executed + t.completion.skipped = (visited ++ [t]).length := by
      have hposition : t.registers.executed + t.registers.skipped = 0 + visited.length := hp.count_eq
      rw [List.length_append, List.length_singleton]
      show t.registers.executed + 1 + t.registers.skipped = visited.length + 1
      omega
    refine ⟨⟨visited, t, hp, hlast, hnodup, hcount⟩, hcount.trans_le hlength, ?_⟩
    rw [List.length_append, List.length_singleton] at hlength
    exact run_eq_some_iff.2 ⟨visited, t, hp, hlast, hlength, hevents⟩
  · intro s next t hs hstep ht hsame limit events last done hrun hok
    obtain ⟨visited, u, hp, hlast, -, -⟩ := run_eq_some_iff.1 hrun
    obtain ⟨hhalt, -⟩ := Activity.halt_of_step_ok hlast hok
    have hnodup := hp.nodup_addresses (fun r hr => hkeeps r (hp.reaches r hr)) hhalt
    -- a halting run fetches at each address once, but `t` has counted more orders than `s`
    obtain rfl : t = s := List.inj_on_of_nodup_map hnodup
      (hp.mem_of_reaches hlast (hs.trans (ht.head hstep))) (hp.mem_of_reaches hlast hs) hsame
    obtain ⟨between, hbetween⟩ := ht
    have hcount := (Activity.Path.cons hstep hbetween).count_eq
    rw [List.length_cons] at hcount
    omega

/-- A jump over a halt order and an order that is not used, a store of what is there already, and a
jump back to the halt order. -/
def jumpingBack : List Order := [.jump 6, .halt, .stall, .storeAddress 0o400, .jump 2]

/-- Memory with these orders, and what they store where they store it. -/
def jumpingBackMemory : Memory :=
  (Memory.zero.write 0o400 6).writeAll 0 (Listing.wordsOf jumpingBack)

theorem jumpingBackMemory_has : jumpingBackMemory.Has 0 (Listing.wordsOf jumpingBack) :=
  Memory.has_writeAll (by decide)

theorem jumpingBackMemory_write : jumpingBackMemory.write 0o400 6 = jumpingBackMemory := by
  have hread : jumpingBackMemory.read 0o400 = 6 := by
    rw [jumpingBackMemory, Memory.read_writeAll_of_ne (by decide), Memory.read_write]
    rfl
  apply Memory.ext
  intro a
  rw [Memory.read_write]
  split
  · rename_i ha
    rw [ha, hread]
  · rfl

theorem Controller.halts_within_jumpingBack : ∃ events last done,
    (⟨{}, {}, {}⟩ : Controller MemoryCabinet).run 65536 { memory := jumpingBackMemory } 0o26 0 =
        some (events, last) ∧
      last.result = .ok done ∧ done.executed + done.skipped ≤ 65536 := by
  have horder (o : Order) {u : Activity MemoryCabinet}
      (hu : u.machine.memory = jumpingBackMemory)
      (ho : Listing.ofOrders 0 jumpingBack u.registers.address = some (o, false)) :
      u.order? = some o :=
    Listing.order?_of_has (hu ▸ jumpingBackMemory_has) (by simp [jumpingBack, Order.Fits]) ho
  let first : Activity MemoryCabinet :=
    ⟨{ memory := jumpingBackMemory }, ⟨{}, {}, {}⟩, { address := 0 }⟩
  let second := first.countExecuted.goto 6
  let third := (second.countExecuted.write 0o400 6).advance 2
  let fourth := third.countExecuted.goto 2
  have hthird : third.machine.memory = jumpingBackMemory := jumpingBackMemory_write
  have hfirst : (first.step 0o26).2 = .running second :=
    (Activity.step_of_order 0o26 (horder (.jump 6) rfl rfl)).1
  have hsecond : (second.step 0o26).2 = .running third :=
    (Activity.step_of_order 0o26 (horder (.storeAddress 0o400) rfl rfl)).1
  have hnext : (third.step 0o26).2 = .running fourth :=
    (Activity.step_of_order 0o26 (horder (.jump 2) hthird rfl)).1
  have hlast : (fourth.step 0o26).2 = fourth.finish (.ok fourth.completion) :=
    Activity.step_of_halt 0o26 (horder .halt hthird rfl)
  have hp : Activity.Path 0o26 first [first, second, third] fourth :=
    .cons hfirst (.cons hsecond (.cons hnext (.nil fourth)))
  have hkeeps (r : Activity MemoryCabinet) (hr : Activity.Reaches 0o26 first r) :
      r.KeepsMemory 0o26 := by
    intro next hstep
    have hmem := hp.mem_of_reaches hlast hr
    simp only [List.cons_append, List.nil_append, List.mem_cons, List.not_mem_nil, or_false] at hmem
    rcases hmem with rfl | rfl | rfl | rfl
    · obtain rfl := Progress.running.inj (hfirst.symm.trans hstep)
      exact fun _ => rfl
    · obtain rfl := Progress.running.inj (hsecond.symm.trans hstep)
      rw [hthird]
      exact fun _ => rfl
    · obtain rfl := Progress.running.inj (hnext.symm.trans hstep)
      exact fun _ => rfl
    · rw [hlast] at hstep
      simp [Activity.finish] at hstep
  have hrun : first.controller.run 4 first.machine 0o26 0 = some (_, _) :=
    run_eq_some_iff.2 ⟨_, fourth, hp, hlast, by decide, rfl⟩
  obtain ⟨-, hbound, hwithin⟩ := (halts_within hkeeps).1 4 _ _ fourth.completion hrun rfl
  exact ⟨_, _, _, hwithin, rfl, hbound⟩

end PeripheralBus
