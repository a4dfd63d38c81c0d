/-!
# Binary64 magnitudes

The finite magnitudes of the binary64 format are the numbers `mantissa * 2 ^ exponent`
with at most 53 bits of mantissa and an exponent of at least `-1074`. The result of an
operation is the magnitude nearest to the exact quotient or product; a tie goes to the
even mantissa, and a result beyond the greatest magnitude is none. Signs are kept by
those who use them.
-/

namespace EvictionGate

/-- A finite magnitude: `mantissa * 2 ^ exponent`. -/
structure Binary64 where
  mantissa : Nat
  exponent : Int
  deriving DecidableEq, Repr

namespace Binary64

/-- A power of two. -/
def pow2 (n : Nat) : Nat := Nat.pow 2 n

/-- The bits of a mantissa. -/
def precision : Nat := 53

/-- The least exponent. -/
def minExponent : Int := -1074

/-- The greatest exponent of a mantissa that uses all its bits. -/
def maxExponent : Int := 971

/-- The magnitude that is nothing. -/
def zero : Binary64 := ⟨0, minExponent⟩

/-- The quotient of two numbers, rounded to the nearest; a tie goes to the even one. -/
def roundDiv (n d : Nat) : Nat :=
  let q := n / d
  let twice := 2 * (n % d)
  if twice < d || (twice == d && q % 2 == 0) then q else q + 1

/-- The exponent of the greatest power of two that is no more than `n / d`. -/
def log2Div (n d : Nat) : Int :=
  let guess : Int := (n.log2 : Int) - d.log2
  if d * pow2 guess.toNat ≤ n * pow2 (-guess).toNat then guess else guess - 1

/-- The exponent of the magnitudes around `n / d`. -/
def exponentFor (n d : Nat) : Int :=
  max minExponent (log2Div n d - (precision - 1 : Nat))

/-- The magnitude nearest to `n / d`; none beyond the greatest. -/
def nearest (n d : Nat) : Option Binary64 :=
  if n = 0 then some zero
  else
    let e := exponentFor n d
    let m := roundDiv (n * pow2 (-e).toNat) (d * pow2 e.toNat)
    let x : Binary64 := if m = pow2 precision then ⟨pow2 (precision - 1), e + 1⟩ else ⟨m, e⟩
    if x.exponent ≤ maxExponent then some x else none

/-- The numerator of a magnitude as a fraction. -/
def num (x : Binary64) : Nat := x.mantissa * pow2 x.exponent.toNat

/-- The denominator of a magnitude as a fraction. -/
def den (x : Binary64) : Nat := pow2 (-x.exponent).toNat

/-- The product of two magnitudes. -/
def mul (x y : Binary64) : Option Binary64 :=
  nearest (x.num * y.num) (x.den * y.den)

/-- The quotient of two magnitudes, the second of which is not nothing. -/
def div (x y : Binary64) : Option Binary64 :=
  nearest (x.num * y.den) (x.den * y.num)

end Binary64

end EvictionGate
