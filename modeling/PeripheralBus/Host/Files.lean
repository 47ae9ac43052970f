import PeripheralBus.Host.Content
import PeripheralBus.Host.Error

/-!
# Files of the host

The program sees the host's files as a function from paths to what is there.

* `Files.content`, `Files.text`: a file read whole.
-/

namespace PeripheralBus.Host

/-- What a path leads to. -/
inductive Node where
  | file (content : Content)
  | directory

/-- The host's files: what opening a path gives. -/
abbrev Files := String → Except Error Node

namespace Files

/-- No files at all. -/
def none : Files := fun _ => .error .notFound

/-- Files of which these paths are known. -/
def ofList (known : List (String × Except Error Node)) : Files := fun path =>
  (known.lookup path).getD (.error .notFound)

/-- The bytes of a file. -/
def content (files : Files) (path : String) : Except Error Content :=
  match files path with
  | .ok (.file c) => .ok c
  | .ok .directory => .error .isDirectory
  | .error e => .error e

/-- The bytes of a file that holds UTF-8. -/
def text (files : Files) (path : String) : Except Error (List UInt8) := do
  let bytes := (← files.content path).toList
  if (String.fromUTF8? ⟨bytes.toArray⟩).isSome then .ok bytes else .error .notUtf8

end Files

end PeripheralBus.Host
