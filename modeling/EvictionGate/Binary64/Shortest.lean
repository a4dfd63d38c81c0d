import EvictionGate.Binary64.Basic

/-!
# The shortest decimal of a binary64 magnitude

Every decimal that lies nearer to a magnitude than to any other reads back as that
magnitude; the two ends of that interval belong to it iff the mantissa is even. Among
these decimals the shortest has the fewest digits, and of two with equally many it is the
nearer one; of two equally near the one whose last digit is even.

The decimals with one digit, with two, and so on, are the grids of the powers of ten.
If a point of a grid lies in the interval, then so does one of the magnitude's two
neighbours on that grid, so that only those are looked at.
-/

namespace EvictionGate.Binary64

/-- A decimal number: `digits * 10 ^ scale`. -/
structure Decimal where
  digits : Nat
  scale : Int
  deriving DecidableEq, Repr

/-- A power of ten. -/
def pow10 (n : Nat) : Nat := Nat.pow 10 n

/-- The interval of a magnitude in quarters of its last place: the distances to the
lower end and to the upper end. Below a power of two the neighbours stand closer. -/
def reach (x : Binary64) : Nat × Nat :=
  if x.mantissa = pow2 (precision - 1) && minExponent < x.exponent then (1, 2) else (2, 2)

/-- Whether `n / d` reads back as a magnitude that is not nothing. -/
def readsBack (x : Binary64) (n d : Nat) : Bool :=
  let (below, above) := x.reach
  let point := 4 * n * pow2 (-x.exponent).toNat
  let unit := d * pow2 x.exponent.toNat
  let low := (4 * x.mantissa - below) * unit
  let high := (4 * x.mantissa + above) * unit
  if x.mantissa % 2 = 0 then low ≤ point && point ≤ high else low < point && point < high

/-- The neighbours of a magnitude on the grid of `10 ^ scale`, nearer first. -/
def neighbours (x : Binary64) (scale : Int) : Nat × Nat :=
  let n := x.num * pow10 (-scale).toNat
  let d := x.den * pow10 scale.toNat
  let low := n / d
  let twice := 2 * (n % d)
  if twice < d || (twice = d && low % 2 = 0) then (low, low + 1) else (low + 1, low)

/-- The neighbour on one grid that reads back, if there is one. -/
def onGrid? (x : Binary64) (scale : Int) : Option Decimal :=
  let hits (n : Nat) := x.readsBack (n * pow10 scale.toNat) (pow10 (-scale).toNat)
  let (first, second) := x.neighbours scale
  if hits first then some ⟨first, scale⟩
  else if hits second then some ⟨second, scale⟩
  else none

/-- The first of the grids, from a coarse one to the finer ones, that holds a decimal
of the magnitude. -/
def search (x : Binary64) : Nat → Int → Decimal
  | 0, scale => ⟨(x.neighbours scale).1, scale⟩
  | steps + 1, scale =>
    match x.onGrid? scale with
    | some d => d
    | none => x.search steps (scale - 1)

/-- The most digits that a magnitude needs. -/
def maxDigits : Nat := 17

/-- The scale of a magnitude's first digit, or one more. -/
def topScale (x : Binary64) : Int :=
  let digits (n : Nat) : Int := (Nat.toDigits 10 n).length
  digits x.num - digits x.den

/-- A decimal without the zeros at its end. -/
def Decimal.stripped (d : Decimal) : Decimal :=
  let written := Nat.toDigits 10 d.digits
  let zeros := (written.reverse.takeWhile (· = '0')).length
  if d.digits = 0 then ⟨0, 0⟩ else ⟨d.digits / pow10 zeros, d.scale + zeros⟩

/-- The shortest decimal that reads back as a magnitude. -/
def shortest (x : Binary64) : Decimal :=
  if x.mantissa = 0 then ⟨0, 0⟩
  else (x.search (maxDigits + 1) x.topScale).stripped

end EvictionGate.Binary64
