import PeripheralBus.Fault
import PeripheralBus.Pack.Mount

/-!
# Disk controllers

A disk controller has a cabinet of unit images, a place for the one that is open, and the
geometry of its drives.

* `Controller.fetch`: exactly so many bytes of the open image from an offset.
-/

namespace PeripheralBus

open Pack

/-- A disk controller. -/
structure Controller (S : Type) [Cabinet S] where
  cabinet : S
  mount : Mount S := {}
  geometry : Geometry := {}

namespace Pack.Mounted

variable {S : Type} [Cabinet S]

/-- Reads exactly `count` bytes from an offset on. -/
def fetch (u : Mounted S) (offset : UInt64) (count : Nat) :
    Except Fault (List UInt8) × Mounted S :=
  match Cabinet.seek u.image offset with
  | (.error e, image) => (.error (.host e), { u with image })
  | (.ok (), image) =>
    match Cabinet.fill image count with
    | (.error e, image) => (.error (.host e), { u with image })
    | (.ok bytes, image) =>
      if bytes.length = count then (.ok bytes, { u with image })
      else (.error (.shortRead u.name count bytes.length), { u with image })

end Pack.Mounted

namespace Controller

variable {S : Type} [Cabinet S]

/-- The name of the open image. -/
def openName? (c : Controller S) : Option String := c.mount.name?

/-- Closes the open image. -/
def release (c : Controller S) : List Event × Controller S :=
  let (events, mount) := c.mount.release
  (events, { c with mount })

end Controller

end PeripheralBus
