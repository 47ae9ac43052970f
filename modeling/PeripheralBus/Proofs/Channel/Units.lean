import PeripheralBus.Proofs.Channel.RoundTrip
import PeripheralBus.Proofs.Channel.Selection

/-!
# The units that a program addresses

A controller has four units, and the field of a select order names one of them by the bit that is
set. The field is not checked: it is shifted, and only the value four is folded back to three. So a
field of several bits, of which one is the highest, names a unit **beyond the fourth**, and its
image is asked of the cabinet under a name that belongs to none of the four.

* `unitField?`: the field of the select order that is executed next.
* `toNat_unitNumber`, `unitNumber_lt_four_iff`: the unit of a field, and the fields of the four
  units.
* `step_unit`, `Path.unit_eq`: the unit in the registers is that of the latest select order.
* `step_opens`: an image is asked for only by a select order, and for its unit.
* `run_units`: the units that a run addresses are those of its select orders.
* `run_beyondFour`: a run that addresses a sixth unit.
-/

namespace PeripheralBus

open Pack

variable {S : Type} [Cabinet S]

/-! ## The unit of a field -/

namespace Pack

/-- **The unit of a field**: half the field, with four folded back to three. -/
theorem toNat_unitNumber (field : UInt8) :
    (unitNumber field).toNat = if field.toNat % 16 / 2 = 4 then 3 else field.toNat % 16 / 2 := by
  have hlow : (field &&& 0o17).toNat = field.toNat % 16 := by
    rw [UInt8.toNat_and]
    exact Nat.and_two_pow_sub_one_eq_mod field.toNat 4
  have hshift : ((field &&& 0o17) >>> 1).toNat = field.toNat % 16 / 2 := by
    rw [UInt8.toNat_shiftRight, hlow]
    exact Nat.shiftRight_eq_div_pow _ 1
  have hfour : (field &&& 0o17) >>> 1 = 4 ↔ field.toNat % 16 / 2 = 4 := by
    rw [← UInt8.toNat_inj, hshift]
    rfl
  unfold unitNumber
  by_cases h : field.toNat % 16 / 2 = 4
  · rw [if_pos h, if_pos (hfour.2 h)]
    rfl
  · rw [if_neg h, if_neg (mt hfour.1 h), hshift]

/-- No field names unit four, nor one beyond seven. -/
theorem unitNumber_range (field : UInt8) : unitNumber field < 8 ∧ unitNumber field ≠ 4 := by
  rw [UInt8.lt_iff_toNat_lt, ne_eq, ← UInt8.toNat_inj, toNat_unitNumber]
  simp only [UInt8.reduceToNat]
  split <;> omega

/-- **The fields of the four units**: those below ten, in which the highest bit is not set together
with one of the two below it. -/
theorem unitNumber_lt_four_iff {field : UInt8} (hfield : field < 16) :
    unitNumber field < 4 ↔ field < 10 := by
  rw [UInt8.lt_iff_toNat_lt] at hfield ⊢
  rw [UInt8.lt_iff_toNat_lt, toNat_unitNumber]
  simp only [UInt8.reduceToNat] at hfield ⊢
  split <;> omega

end Pack

namespace Activity

variable {device : UInt8} {s t : Activity S}

/-- The unit field of the order that is executed next, if that one selects a unit. -/
def unitField? (s : Activity S) : Option UInt8 :=
  match s.order? with
  | some (.selectUnit field) => some field
  | _ => none

theorem unitField?_eq_some_iff {field : UInt8} :
    s.unitField? = some field ↔ s.order? = some (.selectUnit field) := by
  unfold unitField?
  split <;> simp_all

/-- A field has four bits. -/
theorem unitField_lt {field : UInt8} (h : s.unitField? = some field) : field < 16 := by
  have horder := order?_eq_some_iff.1 (unitField?_eq_some_iff.1 h)
  exact Order.fits_of_ofWords horder.2

/-! ## One order -/

/-- **What a step does to the unit in the registers**: a select order sets it. -/
theorem step_unit {next : Activity S} (h : (s.step device).2 = .running next) :
    next.registers.unit = (s.unitField?.map unitNumber).or s.registers.unit := by
  rcases step_running h with ⟨hnone, rfl⟩ | ⟨o, ho, hperform⟩
  · simp [unitField?, hnone, stepOver]
  · cases o with
    | halt | interrupt => simp [perform, finish] at hperform
    | selectUnit field =>
      simp only [perform, Progress.running.injEq] at hperform
      rw [unitField?_eq_some_iff.2 ho, ← hperform]
      show (s.countExecuted.selectUnit device field).2.registers.unit = some (unitNumber field)
      rw [selectUnit_registers]
    | format sector | write sector =>
      simp only [perform, Progress.running.injEq] at hperform
      simp only [unitField?, ho, ← hperform]
      show (s.countExecuted.refuse _).2.registers.unit = s.registers.unit
      rw [refuse_registers]
      rfl
    | read sector =>
      obtain ⟨after, hread, rfl⟩ := running_of_read hperform
      simp only [unitField?, ho]
      show after.registers.unit = s.registers.unit
      rw [read_registers hread]
      rfl
    | _ =>
      simp only [perform, Progress.running.injEq] at hperform
      simp only [unitField?, ho, ← hperform]
      rfl

/-- **Who asks for an image**: a select order, for its own unit. -/
theorem step_opens {name : String} {succeeded : Bool}
    (h : .opening name succeeded ∈ Event.packEvents (s.step device).1) :
    ∃ field, s.unitField? = some field ∧ name = unitName device (unitNumber field) := by
  by_cases hselect : ∃ field, s.order? = some (.selectUnit field)
  · obtain ⟨field, ho⟩ := hselect
    rw [(step_of_order device ho).2] at h
    exact ⟨field, unitField?_eq_some_iff.2 ho, Mount.name_of_opening h⟩
  · obtain ⟨other, offset, he⟩ := step_seeking (not_exists.1 hselect) _ h
    cases he

/-! ## Programs -/

/-- The unit fields of the select orders among those that were fetched. -/
def unitFields (visited : List (Activity S)) : List UInt8 := visited.filterMap unitField?

/-- **The unit in the registers** is that of the latest select order, or the one from before. -/
theorem Path.unit_eq {visited : List (Activity S)} (hp : Path device s visited t) :
    t.registers.unit = ((unitFields visited).getLast?.map unitNumber).or s.registers.unit := by
  induction hp with
  | nil s => rfl
  | @cons s next t visited hstep _ ih =>
    rw [ih, step_unit hstep]
    cases hfield : s.unitField? with
    | none => simp [unitFields, hfield]
    | some field =>
      -- a later select order, if there is one, counts more than this one
      cases hlater : (unitFields visited).getLast? with
      | none => simp_all [unitFields]
      | some later => simp_all [unitFields, List.getLast?_cons]

end Activity

namespace Controller

variable {c : Controller S} {limit : ℕ} {m : Machine} {device : UInt8} {address : Word}
  {events : List Event} {last : Ended S}

/-- **The units that a program addresses are those of its select orders.** Each image that a run
asks for has the name of the unit that an order named which the program came to, and the unit in its
result is that of the latest of these orders. This is one of the four units exactly when the field
of the order is below ten; the other fields name the units five, six and seven. So a program that
comes to no such field, for instance to fields of one bit only, asks for no image but those of the
four units and reports no other unit. -/
theorem run_units (h : c.run limit m device address = some (events, last)) :
    let start : Activity S := ⟨m, c, { address }⟩
    (∀ name succeeded, .opening name succeeded ∈ Event.packEvents events →
      ∃ s field, Activity.Reaches device start s ∧ s.unitField? = some field ∧
        name = unitName device (unitNumber field)) ∧
    (∃ visited t, Activity.Path device start visited t ∧ (t.step device).2 = .ended last ∧
      ∀ done, last.result = .ok done →
        done.unit = (Activity.unitFields visited).getLast?.map unitNumber) ∧
    (∀ s field, Activity.Reaches device start s → s.unitField? = some field →
      (unitNumber field < 4 ↔ field < 10) ∧ unitNumber field < 8 ∧ unitNumber field ≠ 4) ∧
    ((∀ s field, Activity.Reaches device start s → s.unitField? = some field → field < 10) →
      (∀ name succeeded, .opening name succeeded ∈ Event.packEvents events →
        ∃ unit < 4, name = unitName device unit) ∧
      ∀ done unit, last.result = .ok done → done.unit = some unit → unit < 4) := by
  obtain ⟨visited, t, hp, hlast, -, rfl⟩ := run_eq_some_iff.1 h
  intro start
  have hopens : ∀ name succeeded, .opening name succeeded ∈
      Event.packEvents (Activity.eventsOf device (visited ++ [t])) →
      ∃ s field, Activity.Reaches device start s ∧ s.unitField? = some field ∧
        name = unitName device (unitNumber field) := by
    intro name succeeded he
    rw [Activity.packEvents_eventsOf] at he
    obtain ⟨s, hs, he⟩ := List.mem_flatMap.1 he
    obtain ⟨field, hfield, hname⟩ := Activity.step_opens he
    refine ⟨s, field, ?_, hfield, hname⟩
    rcases List.mem_append.1 hs with hs | hs
    · exact hp.reaches s hs
    · rw [List.mem_singleton.1 hs]
      exact ⟨visited, hp⟩
  have hunit : ∀ done, last.result = .ok done →
      done.unit = (Activity.unitFields visited).getLast?.map unitNumber := by
    intro done hok
    obtain ⟨-, rfl⟩ := Activity.halt_of_step_ok hlast hok
    rw [Activity.completion, hp.unit_eq, Option.or_none]
  refine ⟨hopens, ⟨visited, t, hp, hlast, hunit⟩, ?_, ?_⟩
  · intro s field _ hfield
    exact ⟨unitNumber_lt_four_iff (Activity.unitField_lt hfield), unitNumber_range field⟩
  · intro hbelow
    have hfour : ∀ s field, Activity.Reaches device start s → s.unitField? = some field →
        unitNumber field < 4 := by
      intro s field hs hfield
      exact (unitNumber_lt_four_iff (Activity.unitField_lt hfield)).2 (hbelow s field hs hfield)
    constructor
    · intro name succeeded he
      obtain ⟨s, field, hs, hfield, hname⟩ := hopens name succeeded he
      exact ⟨unitNumber field, hfour s field hs hfield, hname⟩
    · intro done unit hok hdone
      rw [hunit done hok, Option.map_eq_some_iff] at hdone
      obtain ⟨field, hlatest, rfl⟩ := hdone
      obtain ⟨s, hs, hfield⟩ := List.mem_filterMap.1 (List.mem_of_getLast? hlatest)
      exact hfour s field (hp.reaches s hs) hfield

end Controller

/-- The field `1000` names the fourth unit, and no image of a fifth is asked for. -/
theorem run_units_fourth : ∃ events last done,
    oneUnit.run 2 (selecting 0o10) 0o26 0 = some (events, last) ∧
      last.result = .ok done ∧ done.unit = some 3 ∧
      ∀ name succeeded, .opening name succeeded ∈ Event.packEvents events →
        ∃ unit < 4, name = unitName 0o26 unit := by
  obtain ⟨hs, ht, hp⟩ := path_selecting oneUnit 0o26 0o10 (by decide) rfl
  have hlast := Activity.step_of_halt 0o26 ht
  have hrun := Controller.run_eq_some_iff.2 ⟨_, _, hp, hlast, Nat.lt_succ_self 1, rfl⟩
  refine ⟨_, _, _, hrun, rfl, rfl, ((Controller.run_units hrun).2.2.2 ?_).1⟩
  intro a field ha hfield
  rw [Activity.unitField?_eq_some_iff] at hfield
  -- of the two orders that the program comes to, the second selects nothing
  rcases List.mem_append.1 (hp.mem_of_reaches hlast ha) with ha | ha
  · rw [List.mem_singleton.1 ha, hs] at hfield
    cases hfield
    decide
  · rw [List.mem_singleton.1 ha, ht] at hfield
    cases hfield

/-- **A program that addresses a sixth unit.** The field `1010` has two bits. The cabinet is asked
for a unit that is none of the four, and the result tells of it. -/
theorem run_beyondFour : ∃ events last done,
    oneUnit.run 2 (selecting 0o12) 0o26 0 = some (events, last) ∧
      .opening (unitName 0o26 5) false ∈ Event.packEvents events ∧
      (∀ unit < 4, unitName 0o26 5 ≠ unitName 0o26 unit) ∧
      last.result = .ok done ∧ done.unit = some 5 := by
  obtain ⟨hs, ht, hp⟩ := path_selecting oneUnit 0o26 0o12 (by decide) rfl
  have hlast := Activity.step_of_halt 0o26 ht
  have hrun := Controller.run_eq_some_iff.2 ⟨_, _, hp, hlast, Nat.lt_succ_self 1, rfl⟩
  refine ⟨_, _, _, hrun, ?_, ?_, rfl, rfl⟩
  · rw [Activity.packEvents_eventsOf]
    refine List.mem_flatMap.2 ⟨_, List.mem_append_left _ List.mem_cons_self, ?_⟩
    rw [(Activity.step_of_order 0o26 hs).2]
    exact List.mem_cons_self
  · intro unit hunit hname
    obtain ⟨-, rfl⟩ := unitName_inj.1 hname
    exact absurd hunit (by decide)

end PeripheralBus
