import PeripheralBus.Pack.Cabinet

/-!
# Images that fail

A cabinet for trying out how a controller copes with bad media: images that cannot be opened or
positioned, that bring their bytes in small portions, or whose read calls fail from some call on.
-/

namespace PeripheralBus.Pack

/-- An image and what is wrong with it. -/
structure FaultyImage where
  content : Host.Content
  /-- Opening fails with this text. -/
  openFault : Option String := none
  /-- Positioning fails with this text. -/
  seekFault : Option String := none
  /-- A read call brings at most so many bytes. -/
  portion : Option Nat := none
  /-- Read calls fail with this text, from the call of this number on; the first call is one. -/
  readFault : Option (Nat × String) := none

/-- Images by name. -/
structure FaultyCabinet where
  images : List (String × FaultyImage) := []

namespace FaultyCabinet

/-- An open image: the place of the next byte and the number of read calls so far. -/
structure Open where
  image : FaultyImage
  place : Nat := 0
  calls : Nat := 0

/-- One read call. -/
def Open.read (o : Open) (count : Nat) : Except Host.Error (List UInt8) × Open :=
  let o := { o with calls := o.calls + 1 }
  let bytes := o.image.content.slice o.place (min count (o.image.portion.getD count))
  let served := (.ok bytes, { o with place := o.place + bytes.length })
  match o.image.readFault with
  | some (call, text) => if call ≤ o.calls then (.error (.other text), o) else served
  | none => served

instance : Cabinet FaultyCabinet where
  Image := Open
  openImage s name :=
    match s.images.lookup name with
    | none => (.error (.noImage name), s)
    | some image =>
      match image.openFault with
      | some text => (.error (.other text), s)
      | none => (.ok { image }, s)
  seek o offset :=
    match o.image.seekFault with
    | some text => (.error (.other text), o)
    | none => (.ok (), { o with place := offset.toNat })
  read := Open.read

end FaultyCabinet

end PeripheralBus.Pack
