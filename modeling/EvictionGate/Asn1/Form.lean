import EvictionGate.Asn1.Content

/-!
# Forms

A form says which identifiers its elements have and what is read from one. A sequence
reads its fields one after another from its parts: a field that may be missing is
missing if the next part has another identifier, and no part may be left at the end.
-/

namespace EvictionGate.Asn1

/-- What elements of one kind look like and hold. -/
structure Form (α : Type) where
  /-- Whether an element with this identifier is one. -/
  accepts : Identifier → Bool
  /-- What an element with such an identifier holds. -/
  read? : Element → Option α

/-- Fields read from what is left of the parts of a sequence. -/
abbrev Fields (α : Type) := StateT (List Element) Option α

namespace Form

/-- What an element holds. -/
def get? (f : Form α) (e : Element) : Option α :=
  if f.accepts e.identifier then f.read? e else none

/-- What the first element of an encoding holds, and what comes after it. -/
def first? (f : Form α) (bs : List UInt8) : Option (α × List UInt8) := do
  let (e, rest) ← element? bs
  return (← f.get? e, rest)

/-- What the first element of an encoding holds, whatever comes after it. -/
def ofBytes? (f : Form α) (bs : List UInt8) : Option α :=
  (f.first? bs).map (·.1)

/-- The elements of a form whose headers are shorter than a number of bytes. -/
def shortOf (size : Nat) (f : Form α) : Form α :=
  ⟨f.accepts, fun e => if e.headerSize < size then f.read? e else none⟩

/-- A form with what it holds seen differently. -/
def map? (f : Form α) (g : α → Option β) : Form β :=
  ⟨f.accepts, fun e => (f.read? e).bind g⟩

/-- Elements of a universal kind. -/
def content (kind : Nat) : Form (List UInt8) :=
  ⟨(· == universal kind), (·.contentAs? kind)⟩

/-- Elements of some universal kinds, and the kind of each. -/
def choice (kinds : List Nat) : Form (Nat × List UInt8) where
  accepts id := id.family = .universal && kinds.contains id.number
  read? e := (e.contentAs? e.identifier.number).map (e.identifier.number, ·)

/-- Elements of any kind. -/
def any : Form Element where
  accepts _ := true
  read? e :=
    if e.identifier.family != .universal || (e.contentAs? e.identifier.number).isSome then some e
    else none

/-- Elements that have their identifier from where they stand. -/
def tagged (n : Nat) (f : Form α) : Form α :=
  ⟨(· == context n), f.read?⟩

/-- Elements inside one that has its identifier from where it stands. -/
def inside (n : Nat) (f : Form α) : Form α where
  accepts := (· == context n)
  read? e :=
    if e.isConstructed then
      match e.parts? with
      | some [part] => f.get? part
      | _ => none
    else none

/-- Elements that hold any number of others. -/
def many (kind : Nat) (f : Form α) : Form (List α) where
  accepts := (· == universal kind)
  read? e := e.parts?.bind fun parts => parts.mapM f.get?

/-- Elements that hold some fields and nothing else. -/
def sequence (fields : Fields α) : Form α where
  accepts := (· == universal Kind.sequence)
  read? e :=
    if e.isConstructed then
      match e.parts?.bind fields.run with
      | some (a, []) => some a
      | _ => none
    else none

end Form

/-- A field that has to be there. -/
def required (f : Form α) : Fields α
  | [] => none
  | e :: rest => (f.get? e).map (·, rest)

/-- A field that may be missing. -/
def optional (f : Form α) : Fields (Option α)
  | [] => some (none, [])
  | e :: rest =>
    if f.accepts e.identifier then (f.read? e).map (some ·, rest) else some (none, e :: rest)

namespace Form

/-- Names of what is registered. -/
def name : Form (List UInt8) := content Kind.name

/-- Integers. -/
def integer : Form Int := (content Kind.integer).map? fun bs => some (signed bs)

/-- Numbers as plain bytes, whatever their first bit. -/
def magnitude : Form Nat :=
  ⟨(· == universal Kind.integer), fun e => (e.raw? Kind.integer).map number⟩

/-- Integers of a machine word; no byte at all is zero. -/
def word : Form Int where
  accepts := (· == universal Kind.integer)
  read? e := (e.raw? Kind.integer).bind fun bs =>
    if bs.isEmpty then some 0
    else if isInteger bs && bs.length ≤ 4 then some (signed bs)
    else none

/-- The bytes of bits. -/
def bits : Form (List UInt8) := (content Kind.bits).map? fun bs => some (bitBytes bs)

/-- Bytes. -/
def octets : Form (List UInt8) := content Kind.octets

end Form

end EvictionGate.Asn1
