import PeripheralBus.Host.Files
import PeripheralBus.Host.Path
import PeripheralBus.Pack.Cabinet

/-!
# Images in a directory

A cabinet whose images are the files of a directory of the host, opened for reading. A directory can
be opened and positioned like a file, but not read.
-/

namespace PeripheralBus.Pack

/-- A directory of the host. -/
structure DirectoryCabinet where
  root : String
  files : Host.Files

namespace DirectoryCabinet

/-- An open file: what it is and the place of the next byte. -/
structure Open where
  node : Host.Node
  place : Nat := 0

/-- The furthest place in a file of the host: its file systems number blocks of 4096 bytes with
32 bits. -/
def furthestInFile : Nat := 0xffffffff * 4096

/-- The furthest place in a directory of the host. -/
def furthestInDirectory : Nat := 0x7fffffffffffffff

/-- The furthest place that an open file can be moved to. -/
def Open.furthest (image : Open) : Nat :=
  match image.node with
  | .file _ => furthestInFile
  | .directory => furthestInDirectory

instance : Cabinet DirectoryCabinet where
  Image := Open
  openImage s name := ((s.files (Host.join s.root name)).map fun node => { node }, s)
  seek image offset :=
    if offset.toNat ≤ image.furthest then (.ok (), { image with place := offset.toNat })
    else (.error .invalidArgument, image)
  read image count :=
    match image.node with
    | .file content =>
      let bytes := content.slice image.place count
      (.ok bytes, { image with place := image.place + bytes.length })
    | .directory => (.error .isDirectory, image)

end DirectoryCabinet

end PeripheralBus.Pack
