import PeripheralBus.Event
import PeripheralBus.Pack.Cabinet

/-!
# The mounted image

A controller has at most one image open. Selecting the image that is open does nothing; selecting
another one closes the open image first, so a failed opening leaves nothing open.

* `Mount.select`: makes the image of a name the open one.
* `Mount.release`: closes the open image.
* `Mount.seek`, `Mount.read`: use the open image.
-/

namespace PeripheralBus.Pack

variable {S : Type} [Cabinet S]

/-- An open image and the name under which it was opened. -/
structure Mounted (S : Type) [Cabinet S] where
  name : String
  image : Cabinet.Image S

/-- The place for one open image. -/
structure Mount (S : Type) [Cabinet S] where
  mounted : Option (Mounted S) := none

/-- What selecting an image leads to. -/
structure Selection (S : Type) [Cabinet S] where
  /-- Whether the image is open now. -/
  ready : Bool
  mount : Mount S
  cabinet : S
  events : List Event

namespace Mount

/-- Whether an image is open. -/
def isOpen (m : Mount S) : Bool := m.mounted.isSome

/-- The name of the open image. -/
def name? (m : Mount S) : Option String := m.mounted.map (·.name)

theorem isOpen_eq (m : Mount S) : m.isOpen = m.name?.isSome := by
  simp [isOpen, name?]

/-- What dropping the place does: the open image is closed without a message. -/
def dropEvents (m : Mount S) : List Event :=
  match m.mounted with
  | some old => [.pack (.closed old.name)]
  | none => []

/-- What closing the open image, if any, brings with it. -/
def closingEvents (m : Mount S) : List Event :=
  match m.mounted with
  | some old => [.debug .mount ("closing " ++ old.name), .pack (.closed old.name)]
  | none => []

/-- Closes the open image, if any. -/
def release (m : Mount S) : List Event × Mount S := (m.closingEvents, {})

@[simp] theorem name?_release (m : Mount S) : m.release.2.name? = none := rfl

/-- Makes the image of this name the open one. -/
def select (m : Mount S) (cabinet : S) (name : String) : Selection S :=
  if m.name? = some name then ⟨true, m, cabinet, []⟩
  else
    match Cabinet.openImage cabinet name with
    | (.ok image, cabinet) =>
      ⟨true, ⟨some ⟨name, image⟩⟩, cabinet,
        m.closingEvents ++ [.pack (.opening name true), .debug .mount ("opened " ++ name)]⟩
    | (.error e, cabinet) =>
      ⟨false, {}, cabinet,
        m.closingEvents ++ [.pack (.opening name false),
          .warn .mount ("unable to open " ++ name ++ ": " ++ e.message)]⟩

/-- After a selection the image of this name is open, or none. -/
theorem name?_select (m : Mount S) (cabinet : S) (name : String) :
    (m.select cabinet name).mount.name? =
      if (m.select cabinet name).ready then some name else none := by
  unfold select
  split
  · simpa using ‹_›
  · split <;> simp [name?]

/-- Moves the open image to an offset. Nothing happens when none is open. -/
def seek (m : Mount S) (offset : UInt64) : Except Host.Error Unit × Mount S :=
  match m.mounted with
  | some u =>
    let (result, image) := Cabinet.seek u.image offset
    (result, ⟨some { u with image }⟩)
  | none => (.ok (), m)

/-- One read call on the open image; no bytes when none is open. -/
def read (m : Mount S) (count : Nat) : Except Host.Error (List UInt8) × Mount S :=
  match m.mounted with
  | some u =>
    let (result, image) := Cabinet.read u.image count
    (result, ⟨some { u with image }⟩)
  | none => (.ok [], m)

end Mount

end PeripheralBus.Pack
