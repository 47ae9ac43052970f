import PeripheralBus.Host.Content
import PeripheralBus.Host.Error

/-!
# Cabinets of unit images

A cabinet hands out unit images by name. What an open image does is up to the cabinet: it can be
positioned, and a read call answers with some of the bytes from there on, with none at the end.

* `Cabinet`: what every cabinet offers.
* `Cabinet.fill`: read calls until enough bytes have come or the image ends.
-/

namespace PeripheralBus.Pack

/-- A source of unit images with open images of its own kind. -/
class Cabinet (S : Type) where
  /-- An open image. -/
  Image : Type
  /-- Opens an image for reading. -/
  openImage : S → String → Except Host.Error Image × S
  /-- Moves to an offset from the start. -/
  seek : Image → UInt64 → Except Host.Error Unit × Image
  /-- One read call for at most so many bytes; no bytes mean the end. -/
  read : Image → Nat → Except Host.Error (List UInt8) × Image

namespace Cabinet

variable {S : Type} [Cabinet S]

/-- Reads until `count` bytes have come or a call brings none. Each call asks for what is still
missing. -/
def fill (image : Image S) (count : Nat) : Except Host.Error (List UInt8) × Image S :=
  if count = 0 then (.ok [], image)
  else
    match read image count with
    | (.error e, after) => (.error e, after)
    | (.ok bytes, after) =>
      match bytes.take count with
      | [] => (.ok [], after)
      | b :: more =>
        let (rest, last) := fill after (count - (more.length + 1))
        (rest.map fun bs => b :: (more ++ bs), last)
termination_by count
decreasing_by omega

end Cabinet

/-- Two kinds of cabinet side by side. -/
instance {A B : Type} [Cabinet A] [Cabinet B] : Cabinet (A ⊕ B) where
  Image := Cabinet.Image A ⊕ Cabinet.Image B
  openImage
    | .inl a, name => let (r, a) := Cabinet.openImage a name; (r.map .inl, .inl a)
    | .inr b, name => let (r, b) := Cabinet.openImage b name; (r.map .inr, .inr b)
  seek
    | .inl i, offset => let (r, i) := Cabinet.seek i offset; (r, .inl i)
    | .inr i, offset => let (r, i) := Cabinet.seek i offset; (r, .inr i)
  read
    | .inl i, count => let (r, i) := Cabinet.read i count; (r, .inl i)
    | .inr i, count => let (r, i) := Cabinet.read i count; (r, .inr i)

end PeripheralBus.Pack
