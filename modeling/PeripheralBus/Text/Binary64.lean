/-!
# Numbers with a fraction

The text of a finite binary64 number: the fewest digits that read back as the number, of those the
nearest to it, written positionally between 10^-5 and 10^16 and with an exponent elsewhere.

* `Binary64.shortest`: digits and scale, by exact arithmetic on the interval of reals that round
  to the number.
* `Binary64.text`: the written form.
-/

namespace PeripheralBus.Binary64

/-- A positive number as `significand * 2 ^ exponent`, and whether its lower neighbour is half as
far away as its upper one. -/
structure Parts where
  significand : Nat
  exponent : Int
  narrowBelow : Bool

/-- The weight of the bit that a normal significand does not write down. -/
def leadingBit : Nat := 0x10000000000000

/-- The parts of the number with these 64 bits, without its sign. -/
def Parts.ofBits (bits : UInt64) : Parts :=
  let fraction : Nat := bits.toNat % leadingBit
  let scale : Nat := bits.toNat / leadingBit % 0x800
  if scale = 0 then ⟨fraction, -1074, false⟩
  else ⟨leadingBit + fraction, Int.ofNat scale - 1075, fraction = 0 && 1 < scale⟩

/-- Compares `a * 10 ^ p` with `b * 2 ^ e`. -/
def compareScaled (a : Nat) (p : Int) (b : Nat) (e : Int) : Ordering :=
  compare (a * Nat.pow 10 p.toNat * Nat.pow 2 (-e).toNat)
    (b * Nat.pow 2 e.toNat * Nat.pow 10 (-p).toNat)

/-- Whether `d * 10 ^ p` rounds to the number. Both ends of the interval count when the
significand is even. -/
def Parts.roundsTo (x : Parts) (d : Nat) (p : Int) : Bool :=
  let low :=
    compareScaled d p (4 * x.significand - (if x.narrowBelow then 1 else 2)) (x.exponent - 2)
  let high := compareScaled d p (4 * x.significand + 2) (x.exponent - 2)
  if x.significand % 2 = 0 then low.isGE && high.isLE else low.isGT && high.isLT

/-- The multiple of `10 ^ p` next below the number, in units of `10 ^ p`. -/
def Parts.floorAt (x : Parts) (p : Int) : Nat :=
  (x.significand * Nat.pow 2 x.exponent.toNat * Nat.pow 10 (-p).toNat) /
    (Nat.pow 10 p.toNat * Nat.pow 2 (-x.exponent).toNat)

/-- A multiple of `10 ^ p` that rounds to the number, the nearer one if there are two; at equal
distance the even one. -/
def Parts.onGrid? (x : Parts) (p : Int) : Option Nat :=
  let d := x.floorAt p
  match x.roundsTo d p, x.roundsTo (d + 1) p with
  | false, false => none
  | true, false => some d
  | false, true => some (d + 1)
  | true, true =>
    match compareScaled (2 * d + 1) p (2 * x.significand) x.exponent with
    | .lt => some (d + 1)
    | .gt => some d
    | .eq => some (if d % 2 = 0 then d else d + 1)

/-- The shortest decimal that rounds to the number, as digits and a power of ten: the first hit
from coarse grids to fine ones. -/
def Parts.shortest (x : Parts) : Nat × Int :=
  let hit := (List.range 650).findSome? fun i : Nat =>
    let p := 310 - Int.ofNat i
    (x.onGrid? p).map fun d => (d, p)
  hit.getD (0, 0)

/-- An exponent, always with its sign. -/
def exponentText (e : Int) : List Char :=
  (if e < 0 then '-' else '+') :: Nat.toDigits 10 e.natAbs

/-- Writes the digits of `d * 10 ^ p`. -/
def written (d : Nat) (p : Int) : List Char :=
  let digits := Nat.toDigits 10 d
  let count : Int := digits.length
  let point := count + p
  if 0 ≤ p ∧ point ≤ 16 then digits ++ List.replicate p.toNat '0' ++ ['.', '0']
  else if 0 < point ∧ point ≤ 16 then
    digits.take point.toNat ++ ['.'] ++ digits.drop point.toNat
  else if -5 < point ∧ point ≤ 0 then
    ['0', '.'] ++ List.replicate (-point).toNat '0' ++ digits
  else
    let tail := exponentText (point - 1)
    match digits with
    | [] => tail
    | [c] => c :: 'e' :: tail
    | c :: more => c :: '.' :: (more ++ 'e' :: tail)

/-- The text of a finite number. -/
def text (x : Float) : String :=
  let bits := x.toBits
  let parts := Parts.ofBits bits
  let sign := if 0x8000000000000000 ≤ bits.toNat then ['-'] else []
  if parts.significand = 0 then String.ofList (sign ++ ['0', '.', '0'])
  else
    let (d, p) := parts.shortest
    String.ofList (sign ++ written d p)

end PeripheralBus.Binary64
