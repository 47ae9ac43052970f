import PeripheralBus.CommandLine.Arguments
import PeripheralBus.Configuration.Basic
import PeripheralBus.Host.Path
import PeripheralBus.Pack.Naming

/-!
# The files that a run can ask for

All files that a command line leads to can be named before the run, so they can be looked at
beforehand.

* `Arguments.paths`: the files that the command line names.
* `unitPaths`: the unit images that the configured disk controllers can select.
-/

namespace PeripheralBus.CommandLine

/-- The configuration and the image. -/
def Arguments.paths (a : Arguments) : List String := a.configuration.toList ++ a.image.toList

/-- The images of all units of all disk controllers. -/
def unitPaths (c : Configuration) : List String :=
  let disks : List UInt8 := match c.deviceMap with
    | .ok map => (map.filter fun (e : UInt8 × DeviceKind) => e.2 = .disk).map Prod.fst
    | .error _ => []
  disks.flatMap fun device => (List.range 8).map fun unit =>
    Host.join c.diskDirectory (Pack.unitName device (UInt8.ofNat unit))

end PeripheralBus.CommandLine
