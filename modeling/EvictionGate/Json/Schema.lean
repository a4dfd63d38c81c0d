import EvictionGate.Json.Reader
import EvictionGate.Time.Instant

/-!
# Schemas

A schema says what a reader wants of a value: which parts of it, and of which
kind. `Value.conforms` judges a value. `Raw.take?` reads a text by a schema and
gives the value of the parts that the schema names:

* a part that is read needs valid UTF-8, surrogates in pairs, numbers in range and
  no more than `maxDepth` containers around its innermost value;
* a member that the schema does not name is skipped, and only its syntax counts;
* of repeated members every one has to be admitted, and the last one counts.

Reading by `Schema.anything` keeps the whole value.
-/

namespace EvictionGate.Json

/-- What a reader wants of a value. -/
inductive Schema
  /-- Any value. -/
  | anything
  /-- A string. -/
  | text
  /-- A truth value. -/
  | flag
  /-- An integer of so many bits, one of them for the sign. -/
  | integer (bits : Nat)
  /-- An integer of 32 bits or a string. -/
  | integerOrText
  /-- A date-time with its zone. -/
  | instant
  /-- One string only. -/
  | exactly (s : String)
  /-- A value or null. -/
  | optional (s : Schema)
  /-- An array of values of one kind. -/
  | list (item : Schema)
  /-- An object with values of one kind under any names. -/
  | map (value : Schema)
  /-- An object of which the named members are read. -/
  | record (fields : List (String × Schema))

namespace Schema

/-- An object of which each named member may be null instead. -/
def options (fields : List (String × Schema)) : Schema :=
  .record (fields.map fun f => (f.1, .optional f.2))

/-- A schema without the option of a null. -/
def required : Schema → Schema
  | .optional s => s.required
  | s => s

/-- Whether null is admitted. -/
def admitsNull : Schema → Bool
  | .anything => true
  | .optional _ => true
  | _ => false

/-- Whether truth values are admitted. -/
def admitsBool (s : Schema) : Bool :=
  match s.required with
  | .anything => true
  | .flag => true
  | _ => false

/-- Whether an integer fits so many bits, one of them for the sign. -/
def fits (bits : Nat) (z : Int) : Bool :=
  -(Nat.pow 2 (bits - 1) : Int) ≤ z && z < (Nat.pow 2 (bits - 1) : Int)

/-- Whether a number is admitted. -/
def admitsNumber (s : Schema) (n : Number) : Bool :=
  match s.required, n with
  | .anything, _ => true
  | .integer bits, .integer z => fits bits z
  | .integerOrText, .integer z => fits 32 z
  | _, _ => false

/-- Whether a string is admitted. -/
def admitsText (s : Schema) (t : String) : Bool :=
  match s.required with
  | .anything => true
  | .text => true
  | .integerOrText => true
  | .instant => Time.isInstant t
  | .exactly u => t == u
  | _ => false

/-- The schema of an array's items; none if arrays are not admitted. -/
def item? (s : Schema) : Option Schema :=
  match s.required with
  | .anything => some .anything
  | .list item => some item
  | _ => none

/-- Whether objects are admitted. -/
def admitsObjects (s : Schema) : Bool :=
  match s.required with
  | .anything => true
  | .map _ => true
  | .record _ => true
  | _ => false

/-- The schema of an object's member; none if the member is not read. -/
def member? (s : Schema) (name : String) : Option Schema :=
  match s.required with
  | .anything => some .anything
  | .map value => some value
  | .record fields => Dict.get? fields name
  | _ => none

end Schema

namespace Value

mutual

/-- Whether a value is what a schema wants. -/
def conforms : Value → Schema → Bool
  | .null, s => s.admitsNull
  | .bool _, s => s.admitsBool
  | .number n, s => s.admitsNumber n
  | .string t, s => s.admitsText t
  | .array items, s =>
    match s.item? with
    | some item => itemsConform items item
    | none => false
  | .object members, s => s.admitsObjects && membersConform members s

/-- Whether every item of an array is what a schema wants. -/
def itemsConform : List Value → Schema → Bool
  | [], _ => true
  | v :: vs, s => conforms v s && itemsConform vs s

/-- Whether every member of an object is what the object's schema wants of it. -/
def membersConform : List (String × Value) → Schema → Bool
  | [], _ => true
  | (name, v) :: ms, s =>
    (match s.member? name with
      | some t => conforms v t
      | none => true) && membersConform ms s

end

end Value

/-- How many containers may lie around a value that is read. -/
def maxDepth : Nat := 127

namespace Raw

mutual

/-- The value of the parts of a text that a schema names. `room` is the number of
containers that may still be opened. -/
def take? (room : Nat) : Raw → Schema → Option Value
  | .null, s => if s.admitsNull then some .null else none
  | .bool b, s => if s.admitsBool then some (.bool b) else none
  | .number n, s =>
    match n.keep? with
    | some n => if s.admitsNumber n then some (.number n) else none
    | none => none
  | .string pieces, s =>
    match pieceText? pieces with
    | some t => if s.admitsText t then some (.string t) else none
    | none => none
  | .array items, s =>
    match room, s.item? with
    | room + 1, some item => (takeItems? room items item).map .array
    | _, _ => none
  | .object members, s =>
    match room with
    | room + 1 => if s.admitsObjects then (takeMembers? room [] members s).map .object else none
    | 0 => none

/-- The values of an array's items. -/
def takeItems? (room : Nat) : List Raw → Schema → Option (List Value)
  | [], _ => some []
  | r :: rs, s =>
    match take? room r s with
    | none => none
    | some v => (takeItems? room rs s).map (v :: ·)

/-- The values of the members that the object's schema names, over those before them. -/
def takeMembers? (room : Nat) (before : Dict Value) :
    List (List Piece × Raw) → Schema → Option (Dict Value)
  | [], _ => some before
  | (name, r) :: ms, s =>
    match pieceText? name with
    | none => none
    | some name =>
      match s.member? name with
      | none => takeMembers? room before ms s
      | some t =>
        match take? room r t with
        | none => none
        | some v => takeMembers? room (Dict.insert before name v) ms s

end

/-- The whole value of a text. -/
def keep? (room : Nat) (r : Raw) : Option Value :=
  r.take? room .anything

end Raw

/-- The value that a JSON text gives by a schema. -/
def Schema.ofBytes? (s : Schema) (bs : List UInt8) : Option Value :=
  (read? bs).bind fun r => r.take? maxDepth s

/-- The whole value of a JSON text. -/
def Value.ofBytes? (bs : List UInt8) : Option Value :=
  Schema.anything.ofBytes? bs

end EvictionGate.Json
