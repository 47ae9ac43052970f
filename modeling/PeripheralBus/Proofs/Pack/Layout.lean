import Mathlib.Order.CompletePartialOrder
import Mathlib.Order.Interval.Set.Disjoint
import PeripheralBus.Proofs.Pack.Geometry
import PeripheralBus.Proofs.Text.Numeral

/-!
# The layout of a pack

The number of a record is a number of three digits: its track, its head and its record within the
track, the latter two to the base of how many there are. So records are numbered in the order of these
digits, and since each takes the same number of bytes, they lie one behind the other in that order.
A head that the geometry lacks, or a record behind the end of a track, would be a digit that is too
large for its base, and another record has its number.

* `Place`: where a record is; `Place.On`: the places that a geometry has and an order can name.
* `Place.Before`: the order of tracks, then heads, then records.
* `before_iff_number_lt`: **records are numbered in the order of their places**.
* `Geometry.sectors_ordered`: **so are their bytes**, and the bytes of two records have nothing in
  common.
-/

namespace PeripheralBus.Pack

open Numeral

/-- Where a record is on a pack. -/
structure Place where
  track : Word
  head : UInt8
  /-- The number within the track. It is a byte, as an order has it. -/
  record : UInt8
  deriving DecidableEq, Repr

namespace Place

/-- The place comes before another one: on a lower track, or on the same track under a lower head,
or under the same head with a lower record. -/
def Before (p q : Place) : Prop :=
  p.track < q.track ∨ p.track = q.track ∧ (p.head < q.head ∨ p.head = q.head ∧ p.record < q.record)

/-- **The place is on the packs of a geometry**, and an order can name it. -/
structure On (p : Place) (g : Geometry) : Prop where
  track_le : p.track.toNat ≤ 1023
  head_le : p.head.toNat ≤ 63
  head_lt : p.head.toNat < g.heads.toNat
  record_lt : p.record.toNat < g.sectorsPerTrack.toNat

/-- The number of the surface at a place: the tracks under all heads, counted from the start. -/
def surface (p : Place) (g : Geometry) : ℕ := p.track.toNat * g.heads.toNat + p.head.toNat

/-- The number of the record at a place. -/
def number (p : Place) (g : Geometry) : ℕ := g.exactNumber p.track p.head p.record

variable {p q : Place} {g : Geometry}

theorem number_eq (p : Place) (g : Geometry) :
    p.number g = p.surface g * g.sectorsPerTrack.toNat + p.record.toNat := by
  rw [number, Geometry.exactNumber, surface, Nat.add_mul]

/-- **Records are numbered in the order of their places.** -/
theorem before_iff_number_lt (hp : p.On g) (hq : q.On g) :
    p.Before q ↔ p.number g < q.number g := by
  -- the number has two digits, and the first of them, the surface, has two digits itself
  have hlt : p.surface g < q.surface g ↔ p.track.toNat < q.track.toNat ∨
      p.track.toNat = q.track.toNat ∧ p.head.toNat < q.head.toNat :=
    digits_lt_iff hp.head_lt hq.head_lt
  have hgt : q.surface g < p.surface g ↔ q.track.toNat < p.track.toNat ∨
      q.track.toNat = p.track.toNat ∧ q.head.toNat < p.head.toNat :=
    digits_lt_iff hq.head_lt hp.head_lt
  have hsame : p.surface g = q.surface g ↔ p.track = q.track ∧ p.head = q.head := by
    rw [← UInt16.toNat_inj, ← UInt8.toNat_inj]
    omega
  rw [number_eq, number_eq, digits_lt_iff hp.record_lt hq.record_lt, hlt, hsame, Before,
    UInt16.lt_iff_toNat_lt, UInt8.lt_iff_toNat_lt, UInt8.lt_iff_toNat_lt, UInt16.toNat_inj,
    and_or_left, or_assoc, and_assoc]

/-- Of two places one comes before the other. -/
theorem before_or_before (h : p ≠ q) : p.Before q ∨ q.Before p := by
  obtain ⟨track, head, record⟩ := p
  obtain ⟨track', head', record'⟩ := q
  rw [ne_eq, Place.mk.injEq, ← UInt16.toNat_inj, ← UInt8.toNat_inj, ← UInt8.toNat_inj] at h
  simp only [Before, UInt16.lt_iff_toNat_lt, UInt8.lt_iff_toNat_lt, ← UInt16.toNat_inj,
    ← UInt8.toNat_inj]
  omega

end Place

namespace Geometry

variable {g : Geometry} {p q : Place}

/-- A place comes before another one exactly when the record there ends before the other starts. -/
theorem before_iff_ends (hbytes : 0 < g.sectorBytes.toNat) (hp : p.On g) (hq : q.On g) :
    p.Before q ↔
      p.number g * g.sectorBytes.toNat + g.sectorBytes.toNat ≤ q.number g * g.sectorBytes.toNat := by
  rw [Place.before_iff_number_lt hp hq, ← Nat.succ_mul, Nat.mul_le_mul_right_iff hbytes]
  exact Nat.succ_le_iff.symm

/-- **Records do not overlap, and lie in the order of their places.** Take a geometry without a
flaw and any two places on its packs. The records there have offsets. The first ends before the
second one starts exactly when its place comes before the other. So records at different places have
no byte in common, and records with one offset are at one place. -/
theorem sectors_ordered (hg : g.flaw? = none) (hp : p.On g) (hq : q.On g) :
    ∃ start start' : UInt64, g.byteOffset? p.track p.head p.record = some start ∧
      g.byteOffset? q.track q.head q.record = some start' ∧
      (p.Before q ↔ start.toNat + g.sectorBytes.toNat ≤ start'.toNat) ∧
      (p ≠ q → Disjoint (Set.Ico start.toNat (start.toNat + g.sectorBytes.toNat))
        (Set.Ico start'.toNat (start'.toNat + g.sectorBytes.toNat))) ∧
      (start = start' → p = q) := by
  have hbytes : 0 < g.sectorBytes.toNat := toNat_pos_of_ne_zero (g.flaw?_eq_none_iff.1 hg).2.2.1
  obtain ⟨start, hstart, heq, -⟩ := byteOffset?_of_flawless hg hp.track_le hp.head_le p.record
  obtain ⟨start', hstart', heq', -⟩ := byteOffset?_of_flawless hg hq.track_le hq.head_le q.record
  have hbefore : p.Before q ↔ start.toNat + g.sectorBytes.toNat ≤ start'.toNat := by
    rw [heq, heq']
    exact before_iff_ends hbytes hp hq
  have hafter : q.Before p ↔ start'.toNat + g.sectorBytes.toNat ≤ start.toNat := by
    rw [heq, heq']
    exact before_iff_ends hbytes hq hp
  -- so at different places one of the records ends before the other one starts
  have hapart : p ≠ q → start.toNat + g.sectorBytes.toNat ≤ start'.toNat ∨
      start'.toNat + g.sectorBytes.toNat ≤ start.toNat := fun hne =>
    (Place.before_or_before hne).imp hbefore.1 hafter.1
  refine ⟨start, start', hstart, hstart', hbefore, ?_, ?_⟩
  · intro hne
    have hends := hapart hne
    rw [Set.Ico_disjoint_Ico]
    omega
  · rintro rfl
    by_contra hne
    have hends := hapart hne
    omega

/-- The last record of a track lies before the first one of the next track. -/
theorem sectors_ordered_nextTrack :
    ({} : Geometry).flaw? = none ∧ (⟨0, 39, 8⟩ : Place).On {} ∧ (⟨1, 0, 0⟩ : Place).On {} ∧
      ∃ start start' : UInt64, ({} : Geometry).byteOffset? 0 39 8 = some start ∧
        ({} : Geometry).byteOffset? 1 0 0 = some start' ∧ start.toNat + 2080 ≤ start'.toNat := by
  have hg : ({} : Geometry).flaw? = none := by decide
  have hp : (⟨0, 39, 8⟩ : Place).On {} := ⟨by decide, by decide, by decide, by decide⟩
  have hq : (⟨1, 0, 0⟩ : Place).On {} := ⟨by decide, by decide, by decide, by decide⟩
  obtain ⟨start, start', hstart, hstart', hbefore, -⟩ := sectors_ordered hg hp hq
  exact ⟨hg, hp, hq, start, start', hstart, hstart', hbefore.1 (.inl (by decide))⟩

end Geometry

end PeripheralBus.Pack
