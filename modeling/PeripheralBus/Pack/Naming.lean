import PeripheralBus.Text.Octal

/-!
# Unit names

A controller has up to four units. An order names one by a field of four bits, of which one is
set; the unit's image has a name made of the controller's address and the unit number.

* `unitNumber`: the unit of a field.
* `unitName`: the name of a unit's image.
-/

namespace PeripheralBus.Pack

/-- The unit that a field selects: the field shifted right once, with four folded back to three. -/
def unitNumber (field : UInt8) : UInt8 :=
  let shifted := (field &&& 0o17) >>> 1
  if shifted = 4 then 3 else shifted

/-- The name of the image of a controller's unit: the address in octal, the unit in decimal. -/
def unitName (device unit : UInt8) : String :=
  "dev" ++ Octal.text device.toNat ++ "u" ++ toString unit.toNat

end PeripheralBus.Pack
