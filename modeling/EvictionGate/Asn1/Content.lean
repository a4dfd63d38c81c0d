import EvictionGate.Asn1.Element

/-!
# Contents

What a content has to be for its kind. Most kinds of text may come in pieces, as a
constructed element whose parts are joined; the pieces may be in pieces themselves, up
to a depth.

`Element.contentAs?` is the content of an element of a universal kind, if it is sound.
-/

namespace EvictionGate.Asn1

namespace Kind

def boolean : Nat := 1
def integer : Nat := 2
def bits : Nat := 3
def octets : Nat := 4
def null : Nat := 5
def name : Nat := 6
def enumerated : Nat := 10
def utf8Text : Nat := 12
def sequence : Nat := 16
def set : Nat := 17
def printableText : Nat := 19
def teletexText : Nat := 20
def asciiText : Nat := 22
def shortTime : Nat := 23
def longTime : Nat := 24
def visibleText : Nat := 26
def wideText : Nat := 28
def basicText : Nat := 30

end Kind

/-- The kinds that never come in pieces. -/
def wholeKinds : List Nat :=
  [Kind.boolean, Kind.integer, Kind.null, Kind.name, Kind.enumerated]

/-- How deep pieces may be in pieces. -/
def maxPieceDepth : Nat := 5

/-- The pieces of a content, joined. -/
def joined? : Nat → Element → Option (List UInt8)
  | depth, e => do
    let pieces ← (← e.parts?).mapM fun piece =>
      if piece.isConstructed then
        match depth with
        | 0 => none
        | depth + 1 => joined? depth piece
      else some piece.content
    return pieces.flatten

/-- Whether bytes are a number in two's complement with no byte too many. -/
def isInteger : List UInt8 → Bool
  | [] => false
  | [_] => true
  | a :: b :: _ =>
    if a = 0 then 0x80 ≤ b
    else if a = 0xFF then b < 0x80
    else true

/-- Whether the groups of a name each begin with no empty one; `inside` says whether the
byte before is of the same group. -/
def hasPlainGroups (inside : Bool) : List UInt8 → Bool
  | [] => true
  | b :: rest => (inside || b != 0x80) && hasPlainGroups (0x80 ≤ b) rest

/-- Whether bytes name something registered: groups of seven bits, the last one ended. -/
def isName (bs : List UInt8) : Bool :=
  bs.getLast?.any (· < 0x80) && hasPlainGroups false bs

/-- Whether bytes are a count of unused bits and the bytes they are missing from. -/
def isBits : List UInt8 → Bool
  | [] => false
  | unused :: _ => unused ≤ 7

/-- Whether a content is one of its kind. -/
def isSound (kind : Nat) (content : List UInt8) : Bool :=
  if kind = Kind.boolean then content.length = 1
  else if kind = Kind.integer || kind = Kind.enumerated then isInteger content
  else if kind = Kind.bits then isBits content
  else if kind = Kind.null then content.isEmpty
  else if kind = Kind.name then isName content
  else if kind = Kind.shortTime then 13 ≤ content.length
  else if kind = Kind.longTime then 15 ≤ content.length
  else if kind = Kind.wideText then content.length % 4 = 0
  else if kind = Kind.basicText then content.length % 2 = 0
  else true

/-- The content of an element of a universal kind, its pieces joined. -/
def Element.raw? (kind : Nat) (e : Element) : Option (List UInt8) :=
  if kind = Kind.sequence || kind = Kind.set then
    if e.isConstructed then some e.content else none
  else if e.isConstructed then
    if wholeKinds.contains kind then none else joined? maxPieceDepth e
  else some e.content

/-- The content of an element of a universal kind, if it is sound. -/
def Element.contentAs? (kind : Nat) (e : Element) : Option (List UInt8) := do
  let content ← e.raw? kind
  if isSound kind content then some content else none

/-- The bytes of bits, without those that are unused. -/
def bitBytes : List UInt8 → List UInt8
  | [] => []
  | unused :: bytes =>
    match bytes.getLast? with
    | none => []
    | some last =>
      let step := Nat.pow 2 unused.toNat
      bytes.dropLast ++ [UInt8.ofNat (last.toNat / step * step)]

/-- The number that two's complement writes. -/
def signed (bs : List UInt8) : Int :=
  match bs with
  | [] => 0
  | a :: _ =>
    if a < 0x80 then (number bs : Int) else (number bs : Int) - (Nat.pow 256 bs.length : Nat)

end EvictionGate.Asn1
