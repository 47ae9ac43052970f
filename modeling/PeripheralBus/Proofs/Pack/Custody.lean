import Mathlib.Data.List.Basic
import PeripheralBus.Event

/-!
# One image at a time

The log of what happens to unit images tells which of them are open at each moment: an opening that
succeeds adds an image, a closing takes one away. A log keeps to one image at a time when nothing is
opened before the image that is open has been closed, and nothing is closed or positioned that is
not open.

* `openAfter`: the images that a log leaves open.
* `OneAtATime`, `Settled`: what is asked of a log at every moment, and at its end.
* `Custody`: a log that leads from one open image, or none, to another, entry by entry. Such logs
  can be joined and cut.
* `Custody.oneAtATime`, `Custody.settled`: a log that starts and ends with no image open is as
  asked.
-/

namespace PeripheralBus.Pack

/-- The images that are open after a log, if these were open before it. -/
def openFrom : List String → List PackEvent → List String
  | names, [] => names
  | names, .opening name true :: rest => openFrom (name :: names) rest
  | names, .opening _ false :: rest => openFrom names rest
  | names, .closed name :: rest => openFrom (names.erase name) rest
  | names, .seeking _ _ :: rest => openFrom names rest

/-- The images that a log leaves open. -/
def openAfter (log : List PackEvent) : List String := openFrom [] log

/-- Neither an opening nor a closing. -/
def IsSeeking (e : PackEvent) : Prop := ∃ name offset, e = .seeking name offset

/-- **At every moment** of a log at most one image is open, none when one is to be opened, and the
one that is closed or positioned. -/
structure OneAtATime (log : List PackEvent) : Prop where
  alone : ∀ past, past <+: log → (openAfter past).length ≤ 1
  opening : ∀ past name succeeded, past ++ [.opening name succeeded] <+: log → openAfter past = []
  closing : ∀ past name, past ++ [.closed name] <+: log → openAfter past = [name]
  seeking : ∀ past name offset, past ++ [.seeking name offset] <+: log → openAfter past = [name]

/-- **At the end** of a log no image is open: every image was closed after it had been opened,
before another opening was tried, and was closed as many times as it was opened. -/
structure Settled (log : List PackEvent) : Prop where
  openAfter : openAfter log = []
  closed : ∀ past name rest, log = past ++ .opening name true :: rest →
    ∃ between after, rest = between ++ .closed name :: after ∧ ∀ e ∈ between, IsSeeking e
  balanced : ∀ name, log.count (.opening name true) = log.count (.closed name)

/-- A log that leads from one open image, or none, to another. -/
inductive Custody : Option String → List PackEvent → Option String → Prop
  | nil (o : Option String) : Custody o [] o
  | opened {name : String} {rest : List PackEvent} {o : Option String} :
      Custody (some name) rest o → Custody none (.opening name true :: rest) o
  | failed {name : String} {rest : List PackEvent} {o : Option String} :
      Custody none rest o → Custody none (.opening name false :: rest) o
  | closed {name : String} {rest : List PackEvent} {o : Option String} :
      Custody none rest o → Custody (some name) (.closed name :: rest) o
  | seeking {name : String} {offset : UInt64} {rest : List PackEvent} {o : Option String} :
      Custody (some name) rest o → Custody (some name) (.seeking name offset :: rest) o

namespace Custody

variable {o o' o'' : Option String} {log more past rest : List PackEvent}

theorem append (h : Custody o log o') (h' : Custody o' more o'') :
    Custody o (log ++ more) o'' := by
  induction h with
  | nil => exact h'
  | opened _ ih => exact .opened (ih h')
  | failed _ ih => exact .failed (ih h')
  | closed _ ih => exact .closed (ih h')
  | seeking _ ih => exact .seeking (ih h')

/-- A log can be cut anywhere. -/
theorem split (h : Custody o (past ++ rest) o') :
    ∃ between, Custody o past between ∧ Custody between rest o' := by
  induction past generalizing o with
  | nil => exact ⟨o, .nil o, h⟩
  | cons e past ih =>
    rw [List.cons_append] at h
    cases h with
    | opened h => obtain ⟨between, hpast, hrest⟩ := ih h; exact ⟨between, .opened hpast, hrest⟩
    | failed h => obtain ⟨between, hpast, hrest⟩ := ih h; exact ⟨between, .failed hpast, hrest⟩
    | closed h => obtain ⟨between, hpast, hrest⟩ := ih h; exact ⟨between, .closed hpast, hrest⟩
    | seeking h => obtain ⟨between, hpast, hrest⟩ := ih h; exact ⟨between, .seeking hpast, hrest⟩

/-- The image that a log leads to is the one it leaves open. -/
theorem openFrom_eq (h : Custody o log o') : openFrom o.toList log = o'.toList := by
  induction h with
  | nil => rfl
  | opened _ ih => simpa [openFrom] using ih
  | failed _ ih => simpa [openFrom] using ih
  | closed _ ih => simpa [openFrom] using ih
  | seeking _ ih => simpa [openFrom] using ih

/-- Where a log is cut, the image that is open then is the one that the first part leaves open. -/
theorem cut (h : Custody none log o') (hcut : log = past ++ rest) :
    ∃ between, openAfter past = between.toList ∧ Custody between rest o' := by
  subst hcut
  obtain ⟨between, hpast, hrest⟩ := h.split
  exact ⟨between, hpast.openFrom_eq, hrest⟩

/-- **A log that starts with no image open keeps to one at a time.** -/
theorem oneAtATime (h : Custody none log o') : OneAtATime log where
  alone := by
    rintro past ⟨rest, hcut⟩
    obtain ⟨between, hopen, -⟩ := h.cut hcut.symm
    rw [hopen]
    cases between <;> simp
  opening := by
    rintro past name succeeded ⟨rest, hcut⟩
    rw [List.append_assoc] at hcut
    obtain ⟨between, hopen, hrest⟩ := h.cut hcut.symm
    cases hrest <;> exact hopen
  closing := by
    rintro past name ⟨rest, hcut⟩
    rw [List.append_assoc] at hcut
    obtain ⟨between, hopen, hrest⟩ := h.cut hcut.symm
    cases hrest
    exact hopen
  seeking := by
    rintro past name offset ⟨rest, hcut⟩
    rw [List.append_assoc] at hcut
    obtain ⟨between, hopen, hrest⟩ := h.cut hcut.symm
    cases hrest
    exact hopen

/-- The image that is open is closed before anything else is opened. -/
theorem closed_next {name : String} (h : Custody (some name) log none) :
    ∃ between after, log = between ++ .closed name :: after ∧ ∀ e ∈ between, IsSeeking e := by
  induction log with
  | nil => cases h
  | cons e rest ih =>
    cases h with
    | closed _ => exact ⟨[], rest, rfl, by simp⟩
    | @seeking _ offset _ _ h =>
      obtain ⟨between, after, rfl, hbetween⟩ := ih h
      refine ⟨.seeking name offset :: between, after, rfl, ?_⟩
      intro e he
      rcases List.mem_cons.1 he with rfl | he
      · exact ⟨name, offset, rfl⟩
      · exact hbetween e he

/-- Openings and closings of an image, the one open before counted as opened and the one open at the
end as closed. -/
theorem count_eq (h : Custody o log o') (name : String) :
    o.toList.count name + log.count (.opening name true) =
      log.count (.closed name) + o'.toList.count name := by
  induction h with
  | nil => simp
  | opened _ ih | failed _ ih | closed _ ih | seeking _ ih =>
    simp [List.count_cons] at ih ⊢
    omega

/-- **A log that starts and ends with no image open has closed all that it opened.** -/
theorem settled (h : Custody none log none) : Settled log where
  openAfter := h.openFrom_eq
  closed := by
    intro past name rest hcut
    obtain ⟨between, -, hrest⟩ := h.cut hcut
    cases hrest with
    | opened hrest => exact hrest.closed_next
  balanced := by
    intro name
    simpa using h.count_eq name

end Custody

end PeripheralBus.Pack
