import EvictionGate.Asn1.Element

/-!
# Fields of messages

A message is made of fields: bytes, numbers of a few bytes, and contents that have the
number of their bytes before them. `Field` reads one from the front of what is left.
-/

namespace EvictionGate.Tls

/-- What is read from the front of what is left. -/
abbrev Field (α : Type) := StateT (List UInt8) Option α

namespace Field

/-- So many bytes. -/
def bytes (count : Nat) : Field (List UInt8) := fun bs =>
  if bs.length < count then none else some (bs.take count, bs.drop count)

/-- A number of so many bytes, most significant first. -/
def number (size : Nat) : Field Nat := do
  return Asn1.number (← bytes size)

/-- A content after the number of its bytes. -/
def counted (size : Nat) : Field (List UInt8) := do
  bytes (← number size)

/-- A content after the number of its bytes that is not empty. -/
def filled (size : Nat) : Field (List UInt8) := do
  let content ← counted size
  if content.isEmpty then failure else return content

/-- A field with nothing after it. -/
def whole? (f : Field α) (bs : List UInt8) : Option α :=
  match f.run bs with
  | some (a, []) => some a
  | _ => none

/-- At most `count` fields of one kind, up to the end. -/
def manyUpTo? (f : Field α) : Nat → List UInt8 → Option (List α)
  | _, [] => some []
  | 0, _ => none
  | count + 1, bs => do
    let (a, rest) ← f.run bs
    return a :: (← f.manyUpTo? count rest)

/-- Fields of one kind up to the end; none of them is empty. -/
def many? (f : Field α) (bs : List UInt8) : Option (List α) :=
  f.manyUpTo? bs.length bs

end Field

end EvictionGate.Tls
