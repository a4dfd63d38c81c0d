import EvictionGate.Dict
import EvictionGate.Json.Number

/-!
# JSON values

A value has at most one member of each name; the members of an object are listed
in ascending order of their names.
-/

namespace EvictionGate.Json

/-- A JSON value. -/
inductive Value
  | null
  | bool (b : Bool)
  | number (n : Number)
  | string (s : String)
  | array (items : List Value)
  | object (members : List (String × Value))

instance : Inhabited Value := ⟨.null⟩

namespace Value

/-- The members of an object; none of anything else. -/
def members : Value → Dict Value
  | .object ms => ms
  | _ => []

/-- The member of an object with a name. -/
def get? (v : Value) (name : String) : Option Value :=
  Dict.get? v.members name

/-- The value reached from an object by a path of names. -/
def at? : Value → List String → Option Value
  | v, [] => some v
  | v, name :: path => (v.get? name).bind fun w => w.at? path

/-- The text of a string value. -/
def text? : Value → Option String
  | .string s => some s
  | _ => none

/-- The value of a number that is a natural number. -/
def nat? : Value → Option Nat
  | .number (.integer z) => if 0 ≤ z then some z.toNat else none
  | _ => none

/-- The value of a truth value. -/
def bool? : Value → Option Bool
  | .bool b => some b
  | _ => none

/-- The items of an array; none of anything else. -/
def items : Value → List Value
  | .array vs => vs
  | _ => []

/-- Nothing for an absent text. -/
def ofText? : Option String → Value
  | some s => .string s
  | none => .null

/-- A natural number as a value. -/
def ofNat (n : Nat) : Value :=
  .number (.integer n)

/-- An object of texts. -/
def ofTexts (d : Dict String) : Value :=
  .object (d.map fun p => (p.1, .string p.2))

end Value

end EvictionGate.Json
