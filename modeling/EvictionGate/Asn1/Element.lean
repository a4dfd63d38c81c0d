/-!
# Elements of an encoding

An encoding is made of elements: an identifier, a length and a content. A length is a
number of bytes, written short or long and with zeros before it as one likes, or it is
open: then the content goes on up to two zero bytes, its end mark, that belong to no
element inside.

`element?` finds the extent of the first element; an element is not looked into before
its kind is known.
-/

namespace EvictionGate.Asn1

/-- Who defines the number of an identifier. -/
inductive Family
  | universal
  | application
  | context
  | personal
  deriving DecidableEq, Repr

/-- What kind an element says it is. -/
structure Identifier where
  family : Family
  number : Nat
  deriving DecidableEq, Repr

/-- A kind that is the same everywhere. -/
def universal (number : Nat) : Identifier := ⟨.universal, number⟩

/-- A kind that has its meaning from where it stands. -/
def context (number : Nat) : Identifier := ⟨.context, number⟩

/-- What stands before a content. -/
structure Header where
  identifier : Identifier
  /-- Whether the content is made of elements. -/
  isConstructed : Bool
  /-- The number of bytes; none if it is open. -/
  length : Option Nat
  deriving DecidableEq, Repr

/-- The family that a first byte names. -/
def familyOf (b : UInt8) : Family :=
  if b < 0x40 then .universal
  else if b < 0x80 then .application
  else if b < 0xC0 then .context
  else .personal

/-- The number that bytes write, most significant first. -/
def number (bs : List UInt8) : Nat :=
  bs.foldl (fun n b => n * 256 + b.toNat) 0

/-- The greatest number of an identifier whose last seven bits are missing. -/
def maxStem : Nat := 16777215

/-- A number in groups of seven bits, all but the last marked, after a stem. -/
def groups? (stem : Nat) : List UInt8 → Option (Nat × List UInt8)
  | [] => none
  | b :: rest =>
    if b < 0x80 then some (stem * 128 + b.toNat, rest)
    else
      let stem := stem * 128 + (b.toNat - 0x80)
      if maxStem < stem then none else groups? stem rest

/-- The number of an identifier, in the first byte or after it. -/
def tagNumber? (first : UInt8) (rest : List UInt8) : Option (Nat × List UInt8) :=
  let low := first.toNat % 32
  if low = 31 then groups? 0 rest else some (low, rest)

/-- The most significant bytes of a length. -/
def maxLengthBytes : Nat := 8

/-- A length, and what comes after it. After a long one there has to be something. -/
def length? : List UInt8 → Option (Option Nat × List UInt8)
  | [] => none
  | b :: rest =>
    if b < 0x80 then some (some b.toNat, rest)
    else if b = 0x80 then some (none, rest)
    else
      let count := b.toNat - 0x80
      if rest.length ≤ count then none
      else
        let significant := (rest.take count).dropWhile (· == 0)
        if maxLengthBytes < significant.length then none
        else some (some (number significant), rest.drop count)

/-- The header of the first element, and what comes after it. -/
def header? : List UInt8 → Option (Header × List UInt8)
  | [] => none
  | first :: rest => do
    let (number, rest) ← tagNumber? first rest
    let (length, rest) ← length? rest
    let isConstructed := first.toNat / 32 % 2 = 1
    match length with
    | some n => if rest.length < n then none
    | none => if !isConstructed then none
    some (⟨⟨familyOf first, number⟩, isConstructed, length⟩, rest)

/-- An element. -/
structure Element where
  identifier : Identifier
  /-- The number of bytes before the content. -/
  headerSize : Nat
  isConstructed : Bool
  /-- Whether the content says itself where it ends; the end mark is part of it then. -/
  isOpen : Bool
  content : List UInt8
  deriving DecidableEq, Repr

/-- How many bytes `depth` open contents go on, all of them in one another; none if
one of them does not end. `fuel` is a bound on the elements inside. -/
def extent? : Nat → Nat → List UInt8 → Option Nat
  | _, 0, _ => some 0
  | 0, _, _ => none
  | fuel + 1, depth + 1, bs =>
    match bs with
    | 0 :: 0 :: rest => (extent? fuel depth rest).map (· + 2)
    | _ =>
      match header? bs with
      | none => none
      | some (h, rest) =>
        let taken := bs.length - rest.length
        match h.length with
        | none => (extent? fuel (depth + 2) rest).map (· + taken)
        | some n => (extent? fuel (depth + 1) (rest.drop n)).map (· + taken + n)

/-- The first element, and what comes after it. -/
def element? (bs : List UInt8) : Option (Element × List UInt8) := do
  let (h, rest) ← header? bs
  let n ← match h.length with
    | some n => some n
    | none => extent? (rest.length + 1) 1 rest
  let e : Element :=
    { identifier := h.identifier, headerSize := bs.length - rest.length
      isConstructed := h.isConstructed, isOpen := h.length.isNone, content := rest.take n }
  return (e, rest.drop n)

/-- The elements up to the end of a content, at most `fuel` of them. An end mark has to
be there if the content is open, and cannot if it is not. -/
def elementsUpTo (isOpen : Bool) : Nat → List UInt8 → Option (List Element)
  | _, [] => if isOpen then none else some []
  | 0, _ => none
  | fuel + 1, bs =>
    match bs with
    | 0 :: 0 :: _ => if isOpen then some [] else none
    | _ => do
      let (e, rest) ← element? bs
      return e :: (← elementsUpTo isOpen fuel rest)

/-- The elements that an element is made of. -/
def Element.parts? (e : Element) : Option (List Element) :=
  elementsUpTo e.isOpen e.content.length e.content

end EvictionGate.Asn1
