/-!
# Errors of the host

What can go wrong when files, unit images or terminals of the host are used.
-/

namespace PeripheralBus.Host

/-- An error of the host. -/
inductive Error where
  /-- A part of the path does not exist. -/
  | notFound
  /-- A part of the path that should be a directory is a file. -/
  | notDirectory
  /-- A directory was read. -/
  | isDirectory
  /-- A position outside the range of a file. -/
  | invalidArgument
  /-- The path, or a part of it, is longer than the host allows. -/
  | nameTooLong
  /-- The path holds a zero byte. -/
  | zeroInPath
  /-- A text file does not hold UTF-8. -/
  | notUtf8
  /-- A memory cabinet has no image of this name. -/
  | noImage (name : String)
  /-- Any other error, by its wording. -/
  | other (wording : String)
  deriving DecidableEq, Repr

/-- The wording of an error. -/
def Error.message : Error → String
  | .notFound => "No such file or directory (os error 2)"
  | .notDirectory => "Not a directory (os error 20)"
  | .isDirectory => "Is a directory (os error 21)"
  | .invalidArgument => "Invalid argument (os error 22)"
  | .nameTooLong => "File name too long (os error 36)"
  | .zeroInPath => "file name contained an unexpected NUL byte"
  | .notUtf8 => "stream did not contain valid UTF-8"
  | .noImage name => s!"no image named {name}"
  | .other wording => wording

end PeripheralBus.Host
