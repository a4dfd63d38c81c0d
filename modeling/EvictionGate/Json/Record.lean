import EvictionGate.Json.Schema

/-!
# Records

A record is written as an object, or as an array of its fields in order. A field
may not be given twice; members of other names are skipped. Which fields may be
left out is for the reader of the record to say, but an array has to reach as far
as the last field that may not.
-/

namespace EvictionGate.Json

/-- The fields of a record in an object, over those before them. -/
def namedFields? (names : List String) (before : Dict Raw) :
    List (List Piece × Raw) → Option (Dict Raw)
  | [] => some before
  | (name, r) :: ms =>
    match pieceText? name with
    | none => none
    | some name =>
      if names.contains name then
        if Dict.contains before name then none
        else namedFields? names (Dict.insert before name r) ms
      else namedFields? names before ms

/-- The fields of a record. An array has at least `least` of them. -/
def fields? (names : List String) (least : Nat) : Raw → Option (Dict Raw)
  | .object ms => namedFields? names [] ms
  | .array items =>
    if least ≤ items.length && items.length ≤ names.length then some (names.zip items) else none
  | _ => none

/-- The value of a field by a schema; none if it is absent or unfit. -/
def field? (fields : Dict Raw) (name : String) (s : Schema) (room : Nat) : Option Value :=
  (Dict.get? fields name).bind fun r => r.take? room s

/-- The value of a field that may be absent, which is the same as null. -/
def optionalField? (fields : Dict Raw) (name : String) (s : Schema) (room : Nat) : Option Value :=
  match Dict.get? fields name with
  | none => some .null
  | some r => r.take? room (.optional s)

end EvictionGate.Json
