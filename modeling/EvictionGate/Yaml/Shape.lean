import EvictionGate.Yaml.Value

/-!
# Shapes of values

A shape says what a reader of a document wants of a value. `Shape.fits` judges a value.
A list or a mapping that says nothing is an empty one, and a tag does not matter where a
certain kind of value is wanted.
-/

namespace EvictionGate.Yaml

/-- What a reader wants of a value. -/
inductive Shape
  /-- A text. -/
  | text
  /-- A truth value. -/
  | flag
  /-- One of some texts. -/
  | oneOf (names : List String)
  /-- Any value without tags whose mappings have texts as keys. -/
  | data
  /-- A mapping from texts to texts. -/
  | texts
  /-- A list of values of one shape. -/
  | list (item : Shape)
  /-- A value that may be missing or null. -/
  | optional (s : Shape)
  /-- A value that may be missing, but not null. -/
  | omissible (s : Shape)
  /-- A mapping with texts as keys, some of which are read. -/
  | record (fields : List (String × Shape))

namespace Value

mutual

/-- Whether a value holds no tags, and its mappings have texts as keys. -/
def isData : Value → Bool
  | .list vs => itemsAreData vs
  | .map es => entriesAreData es
  | .tagged _ => false
  | _ => true

/-- Whether every value of a list is data. -/
def itemsAreData : List Value → Bool
  | [] => true
  | v :: vs => isData v && itemsAreData vs

/-- Whether every entry of a mapping is data. -/
def entriesAreData : List (Value × Value) → Bool
  | [] => true
  | (k, v) :: es => k.text?.isSome && isData v && entriesAreData es

end

/-- Whether a value is null. -/
def isNull : Value → Bool
  | .null => true
  | _ => false

/-- Whether a value is a truth value. -/
def isFlag (v : Value) : Bool :=
  match v.bare with
  | .bool _ => true
  | _ => false

/-- Whether a value is a mapping from texts to texts. -/
def isTexts (v : Value) : Bool :=
  v.entries?.any fun es => es.all fun (k, v) => k.text?.isSome && v.text?.isSome

/-- Whether a value is a mapping with texts as keys. -/
def isRecord (v : Value) : Bool :=
  v.entries?.any fun es => es.all fun (k, _) => k.text?.isSome

end Value

namespace Shape

/-- Whether a field may be missing. -/
def mayMiss : Shape → Bool
  | .optional _ => true
  | .omissible _ => true
  | _ => false

mutual

/-- Whether a value is what a shape wants. -/
def fits : Shape → Value → Bool
  | .text, v => v.text?.isSome
  | .flag, v => v.isFlag
  | .oneOf names, v => v.text?.any names.contains
  | .data, v => v.isData
  | .texts, v => v.isTexts
  | .list s, v => v.items?.any fun vs => vs.all (fits s)
  | .optional s, v => v.isNull || fits s v
  | .omissible s, v => fits s v
  | .record fields, v => v.isRecord && fieldsFit fields v

/-- Whether every field of a mapping is what its shape wants. -/
def fieldsFit : List (String × Shape) → Value → Bool
  | [], _ => true
  | (name, s) :: fields, v =>
    (match v.get? name with
      | some w => fits s w
      | none => s.mayMiss) && fieldsFit fields v

end

end Shape

end EvictionGate.Yaml
