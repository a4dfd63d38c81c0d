import EvictionGate.Binary64.Shortest

/-!
# JSON numbers

A `Numeral` is a number as it is written, a `Number` is what is kept of it. Only a
numeral without fraction and exponent is an integer of 64 bits, and `-0` is none.
Everything else is kept as a binary64 number, on condition that it lies in the range of
those; a numeral that is merely skipped has no range. A kept number is written as the
shortest decimal that reads back.
-/

namespace EvictionGate.Json

/-- A number as it is written: its digits, most significant first. -/
structure Numeral where
  negative : Bool
  whole : List Nat
  fraction : Option (List Nat)
  exponent : Option Int
  deriving DecidableEq

/-- A number as it is kept. -/
inductive Number
  | integer (value : Int)
  | real (negative : Bool) (magnitude : Binary64)
  deriving DecidableEq

/-- The number of values of 64 bits. -/
def wordCount : Nat := 18446744073709551616

/-- The value of a row of decimal digits. -/
def ofDigits (digits : List Nat) : Nat :=
  digits.foldl (fun n d => n * 10 + d) 0

/-- As many of the leading digits as fit 64 bits, after `start`, and the rest. -/
def leading : Nat → List Nat → Nat × List Nat
  | start, [] => (start, [])
  | start, d :: ds =>
    if start * 10 + d < wordCount then leading (start * 10 + d) ds else (start, d :: ds)

/-- The greatest power of ten whose nearest binary64 number is used at once. -/
def maxScale : Nat := 308

/-- A power of ten, rounded. -/
def tenTo (n : Nat) : Binary64 :=
  (Binary64.nearest (Nat.pow 10 n) 1).getD .zero

/-- A magnitude divided by a power of ten, in steps of at most `maxScale`; after two
such steps nothing is left. -/
def scaleDown (x : Binary64) (n : Nat) : Option Binary64 :=
  if n ≤ maxScale then x.div (tenTo n)
  else if n ≤ 2 * maxScale then
    (x.div (tenTo maxScale)).bind fun x => x.div (tenTo (n - maxScale))
  else some .zero

/-- A magnitude multiplied by a power of ten. -/
def scaleUp (x : Binary64) (n : Nat) : Option Binary64 :=
  if x.mantissa = 0 then some x
  else if n ≤ maxScale then x.mul (tenTo n)
  else none

namespace Numeral

/-- The binary64 magnitude of a numeral; none if it is out of range. The digits that fit
64 bits and the power of ten are rounded separately, and then once more. -/
def magnitude? (n : Numeral) : Option Binary64 := do
  let fraction := n.fraction.getD []
  let (head, skipped) := leading 0 n.whole
  let (significand, rest) := leading head fraction
  let exponent : Int :=
    n.exponent.getD 0 + skipped.length - (fraction.length - rest.length : Nat)
  let x ← Binary64.nearest significand 1
  if exponent < 0 then scaleDown x (-exponent).toNat else scaleUp x exponent.toNat

/-- The integer a numeral writes, if it is written as one and fits 64 bits. -/
def integer? (n : Numeral) : Option Int :=
  let magnitude := ofDigits n.whole
  if n.fraction.isSome || n.exponent.isSome then none
  else if n.negative then
    if magnitude = 0 || wordCount / 2 < magnitude then none else some (-(magnitude : Int))
  else if magnitude < wordCount then some magnitude
  else none

/-- What is kept of a numeral; none if it is out of range. -/
def keep? (n : Numeral) : Option Number :=
  match n.integer? with
  | some z => some (.integer z)
  | none => n.magnitude?.map (.real n.negative)

end Numeral

/-- How a decimal is written: the scales of a first digit for which its point is put in
its place, and the sign of an exponent that is not negative. -/
structure DecimalStyle where
  leastPlain : Int
  mostPlain : Int
  plus : List Char

/-- A number is written out while its first digit stands between the fifth place after
the point and the sixteenth before it; else its exponent bears a sign. -/
def Number.style : DecimalStyle := ⟨-5, 15, ['+']⟩

/-- The text of a decimal. One that is written out has a digit on either side of its
point. -/
def DecimalStyle.chars (style : DecimalStyle) (d : Binary64.Decimal) : List Char :=
  let digits := Nat.toDigits 10 d.digits
  let first := d.scale + digits.length - 1
  let zeros (n : Int) : List Char := List.replicate n.toNat '0'
  if first < style.leastPlain || style.mostPlain < first then
    let sign := if first < 0 then ['-'] else style.plus
    let exponent := 'e' :: sign ++ Nat.toDigits 10 first.natAbs
    match digits with
    | d :: e :: ds => d :: '.' :: e :: ds ++ exponent
    | ds => ds ++ exponent
  else if 0 ≤ d.scale then digits ++ zeros d.scale ++ ['.', '0']
  else if 0 ≤ first then
    digits.take (first + 1).toNat ++ '.' :: digits.drop (first + 1).toNat
  else '0' :: '.' :: zeros (-first - 1) ++ digits

/-- The text of a number. -/
def Number.chars : Number → List Char
  | .integer z => (toString z).toList
  | .real negative magnitude =>
    (if negative then ['-'] else []) ++ Number.style.chars magnitude.shortest

end EvictionGate.Json
