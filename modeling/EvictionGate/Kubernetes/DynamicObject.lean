import EvictionGate.Kubernetes.ObjectMeta

/-!
# Objects of any kind

An object whose kind the gate does not know: its metadata, and the rest of it as it
came. The rest is kept whole, so all of it has to be sound, while the members of
the metadata that no object has are skipped.
-/

namespace EvictionGate

open EvictionGate.Json

/-- An object of any kind. -/
structure DynamicObject where
  metadata : ObjectMeta
  data : Dict Value

namespace DynamicObject

/-- Whether a member belongs to neither the metadata nor the kind of an object. -/
def isData (name : String) : Bool :=
  name != "metadata" && name != "apiVersion" && name != "kind"

/-- The object of a value's members, if their metadata is sound. -/
def ofMembers (ms : Dict Value) : DynamicObject where
  metadata := ((Dict.get? ms "metadata").map ObjectMeta.ofValue).getD .empty
  data := ms.filter fun p => isData p.1

/-- The object in a value. -/
def ofValue? : Value → Option DynamicObject
  | .object ms =>
    match Dict.get? ms "metadata" with
    | some m => if m.conforms ObjectMeta.schema then some (ofMembers ms) else none
    | none => some (ofMembers ms)
  | _ => none

/-- What the members of an object have to look like, except that the metadata is
not repeated. -/
def memberSchema (name : String) : Schema :=
  if name = "metadata" then ObjectMeta.schema else .anything

/-- The members of an object in a JSON text, over those before them. -/
def takeMembers? (before : Dict Value) : List (List Piece × Raw) → Option (Dict Value)
  | [] => some before
  | (name, r) :: ms =>
    match pieceText? name with
    | none => none
    | some name =>
      if name = "metadata" && Dict.contains before name then none
      else match r.take? (maxDepth - 1) (memberSchema name) with
        | none => none
        | some v => takeMembers? (Dict.insert before name v) ms

/-- The object in a JSON text. -/
def ofBytes? (bs : List UInt8) : Option DynamicObject :=
  match read? bs with
  | some (.object ms) => (takeMembers? [] ms).map ofMembers
  | _ => none

/-- An annotation of the object. -/
def annotationAt? (o : DynamicObject) (key : String) : Option String :=
  o.metadata.annotationAt? key

/-- The value reached from the object's data by a path of names. -/
def at? (o : DynamicObject) (path : List String) : Option Value :=
  (Value.object o.data).at? path

end DynamicObject

end EvictionGate
