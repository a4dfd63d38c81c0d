import EvictionGate.Asn1.Element

/-!
# The curve of the keys

The curve `y² = x³ - 3x + b` over the field of a prime of 256 bits, with its base point.
A point is written with one byte for its form and then its coordinates; a compressed one
has only the first, and the form says which root the other is.
-/

namespace EvictionGate.Tls.Curve

/-- The prime of the field. -/
def prime : Nat := 0xffffffff00000001000000000000000000000000ffffffffffffffffffffffff

/-- The number of points. -/
def order : Nat := 0xffffffff00000000ffffffffffffffffbce6faada7179e84f3b9cac2fc632551

/-- The coefficient of `x`, which is `-3`. -/
def linear : Nat := prime - 3

/-- The constant `b`. -/
def constant : Nat := 0x5ac635d8aa3a93e7b3ebbd55769886bc651d06b0cc53b0f63bce3c3e27d2604b

/-- The bytes of a coordinate. -/
def coordinateBytes : Nat := 32

/-- A point of the curve, or the one at infinity. -/
inductive Point
  | infinity
  | affine (x y : Nat)
  deriving DecidableEq, Repr

/-- The base point. -/
def base : Point :=
  .affine 0x6b17d1f2e12c4247f8bce6e563a440f277037d812deb33a0f4a13945d898c296
    0x4fe342e2fe1a7f9b8ee7eb4a7c0f9e162bce33576b315ececbb6406837bf51f5

/-- A power in the field. -/
def power (a e : Nat) : Nat :=
  if e = 0 then 1
  else
    let root := power a (e / 2)
    let square := root * root % prime
    if e % 2 = 0 then square else square * a % prime
termination_by e

/-- The inverse of a number that is not zero in the field. -/
def inverse (a : Nat) : Nat := power a (prime - 2)

/-- The difference of two numbers of the field. -/
def minus (a b : Nat) : Nat := (a + (prime - b % prime)) % prime

/-- The right side of the equation. -/
def rightSide (x : Nat) : Nat := (x * x * x + linear * x + constant) % prime

/-- Whether two numbers of the field are a point. -/
def holds (x y : Nat) : Bool := y * y % prime = rightSide x

/-- A root of a number of the field; the prime is three more than a multiple of four. -/
def root? (a : Nat) : Option Nat :=
  let r := power a ((prime + 1) / 4)
  if r * r % prime = a then some r else none

/-- The third point on the line through two points with that slope, reflected. -/
def meet (slope x y x' : Nat) : Point :=
  let x'' := minus (slope * slope) (x + x')
  .affine x'' (minus (slope * minus x x'') y)

/-- The sum of two points. -/
def Point.add : Point → Point → Point
  | .infinity, q => q
  | p, .infinity => p
  | .affine x y, .affine x' y' =>
    if x = x' then
      if (y + y') % prime = 0 then .infinity
      else meet ((3 * x * x + linear) * inverse (2 * y % prime) % prime) x y x
    else meet (minus y' y * inverse (minus x' x) % prime) x y x'

/-- The sum of a number of copies of a point. -/
def Point.times (n : Nat) (p : Point) : Point :=
  if n = 0 then .infinity
  else
    let half := Point.times (n / 2) p
    let double := half.add half
    if n % 2 = 0 then double else double.add p
termination_by n

/-- The point of a secret number. -/
def publicPoint (secret : Nat) : Point :=
  base.times (secret % order)

/-- The point with a first coordinate and a second that is odd or even. -/
def withParity? (x parity : Nat) : Option Point := do
  let y ← root? (rightSide x)
  return .affine x (if y % 2 = parity then y else prime - y)

/-- The point that bytes write. -/
def Point.ofBytes? : List UInt8 → Option Point
  | [] => none
  | form :: bytes =>
    let x := Asn1.number (bytes.take coordinateBytes)
    let y := Asn1.number (bytes.drop coordinateBytes)
    let isPair := bytes.length = 2 * coordinateBytes && x < prime && y < prime && holds x y
    match form.toNat with
    | 0 => if bytes.isEmpty then some .infinity else none
    | 2 | 3 =>
      if bytes.length = coordinateBytes && x < prime then withParity? x (form.toNat % 2) else none
    | 4 => if isPair then some (.affine x y) else none
    | 6 | 7 => if isPair && y % 2 = form.toNat % 2 then some (.affine x y) else none
    | _ => none

end EvictionGate.Tls.Curve
