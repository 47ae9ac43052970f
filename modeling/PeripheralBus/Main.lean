import PeripheralBus.CommandLine.Paths
import PeripheralBus.CommandLine.Report

/-!
# The program

Looks at the files that the command line leads to, carries it out and prints what comes of it. No
keys are typed.
-/

namespace PeripheralBus

/-- How many orders a channel program may take before the program gives up waiting for its end. -/
def orderLimit : Nat := UInt64.size

/-- What a path leads to on this host. -/
def lookAt (path : String) : IO (String × Except Host.Error Host.Node) := do
  try
    return (path, .ok (.file (.ofByteArray (← IO.FS.readBinFile path))))
  catch e =>
    return (path, match e with
      | .noFileOrDirectory .. => .error .notFound
      -- A directory can be opened but not read: only a failure to open names the path.
      | .inappropriateType none .. => .ok .directory
      | .inappropriateType .. => .error .notDirectory
      | e => .error (.other (toString e)))

/-- The files that a command line leads to. -/
def filesFor (arguments : List String) : IO Host.Files := do
  match CommandLine.Arguments.parse arguments with
  | .error _ => return Host.Files.none
  | .ok a =>
    let named ← a.paths.mapM lookAt
    match CommandLine.configurationFor a (Host.Files.ofList named) with
    | .error _ => return Host.Files.ofList named
    | .ok c => return Host.Files.ofList (named ++ (← (CommandLine.unitPaths c).mapM lookAt))

end PeripheralBus

open PeripheralBus in
/-- Carries out the command line. -/
def main (arguments : List String) : IO UInt32 := do
  let files ← filesFor arguments
  match CommandLine.Outcome.ofArguments orderLimit arguments files {} with
  | none => return 1
  | some outcome =>
    let stdout ← IO.getStdout
    stdout.write ⟨outcome.screen.toArray⟩
    stdout.flush
    IO.eprint outcome.diagnostics
    return outcome.code.toUInt32
