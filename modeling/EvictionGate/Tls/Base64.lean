/-!
# Base64

The body of a PEM block. Blanks between the characters do not matter; a hyphen ends
the data; up to two pads may end it, and pads counted, the characters come in fours.
-/

namespace EvictionGate.Tls.Base64

/-- The value of a character of the alphabet. -/
def sextet? (b : UInt8) : Option Nat :=
  if 0x41 ≤ b && b ≤ 0x5A then some (b.toNat - 0x41)
  else if 0x61 ≤ b && b ≤ 0x7A then some (b.toNat - 0x61 + 26)
  else if 0x30 ≤ b && b ≤ 0x39 then some (b.toNat - 0x30 + 52)
  else if b == 0x2B then some 62
  else if b == 0x2F then some 63
  else none

/-- Whether a byte is a blank between characters. -/
def isSpace (b : UInt8) : Bool :=
  b == 0x20 || b == 0x09 || b == 0x0A || b == 0x0D

/-- The values of the characters and the number of pads after them. -/
def sextets? : List UInt8 → Option (List Nat × Nat)
  | [] => some ([], 0)
  | b :: bs =>
    if isSpace b then sextets? bs
    else if b == 0x2D then some ([], 0)
    else if b == 0x3D then
      match sextets? bs with
      | some ([], pads) => some ([], pads + 1)
      | _ => none
    else match sextet? b, sextets? bs with
      | some v, some (vs, pads) => some (v :: vs, pads)
      | _, _ => none

/-- The bytes that four values make; of fewer, only the whole bytes. -/
def bytesOf : List Nat → List UInt8
  | a :: b :: c :: d :: rest =>
    UInt8.ofNat (a * 4 + b / 16) :: UInt8.ofNat (b % 16 * 16 + c / 4)
      :: UInt8.ofNat (c % 4 * 64 + d) :: bytesOf rest
  | [a, b, c] => [UInt8.ofNat (a * 4 + b / 16), UInt8.ofNat (b % 16 * 16 + c / 4)]
  | [a, b] => [UInt8.ofNat (a * 4 + b / 16)]
  | _ => []

/-- The data that a text encodes. -/
def decode? (text : List UInt8) : Option (List UInt8) :=
  match sextets? text with
  | some (vs, pads) => if pads ≤ 2 && (vs.length + pads) % 4 = 0 then some (bytesOf vs) else none
  | none => none

end EvictionGate.Tls.Base64
