import PeripheralBus.Pack.Cabinet

/-!
# Images in memory

A cabinet that holds its images itself. An open image keeps the content it had when it was opened.

* `MemoryCabinet.put`: adds or replaces an image.
* `MemoryCabinet.content?`: the content under a name.
-/

namespace PeripheralBus.Pack

/-- Images by name. Of two entries of one name the first counts. -/
structure MemoryCabinet where
  images : List (String × Host.Content) := []

namespace MemoryCabinet

/-- Adds an image, or replaces the one of this name. -/
def put (s : MemoryCabinet) (name : String) (content : Host.Content) : MemoryCabinet :=
  ⟨(name, content) :: s.images.filter (·.1 ≠ name)⟩

/-- A cabinet of these images; the last of one name counts. -/
def ofList (images : List (String × Host.Content)) : MemoryCabinet :=
  images.foldl (fun s i => s.put i.1 i.2) {}

/-- The content of the image of a name. -/
def content? (s : MemoryCabinet) (name : String) : Option Host.Content := s.images.lookup name

/-- Whether there is an image of this name. -/
def contains (s : MemoryCabinet) (name : String) : Bool := (s.content? name).isSome

/-- An open image: its content and the place of the next byte. -/
structure Open where
  content : Host.Content
  place : Nat := 0

/-- The next bytes of an open image, and the image after them. -/
def Open.read (image : Open) (count : Nat) : List UInt8 × Open :=
  let bytes := image.content.slice image.place count
  (bytes, { image with place := image.place + bytes.length })

instance : Cabinet MemoryCabinet where
  Image := Open
  openImage s name :=
    match s.content? name with
    | some content => (.ok { content }, s)
    | none => (.error (.noImage name), s)
  seek image offset := (.ok (), { image with place := offset.toNat })
  read image count := let (bytes, after) := image.read count; (.ok bytes, after)

end MemoryCabinet

end PeripheralBus.Pack
