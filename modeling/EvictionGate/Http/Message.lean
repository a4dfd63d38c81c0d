import EvictionGate.Text.Blank
import EvictionGate.Text.Utf8

/-!
# HTTP messages

What a handler sees of a request and what it answers, without the framing.
-/

namespace EvictionGate.Http

/-- A header: its name in lower case, and its value as it came. -/
structure Header where
  name : String
  value : List UInt8
  deriving DecidableEq, Repr

/-- The header of a name in any letter case. -/
def Header.named (name : String) (value : List UInt8) : Header :=
  ⟨String.ofList (name.toList.map Char.toLower), value⟩

/-- A request up to its body. -/
structure Request where
  method : String
  path : String
  headers : List Header
  deriving DecidableEq, Repr

/-- A body read to its end, or what broke it. -/
abbrev Body := Except String (List UInt8)

/-- An answer. -/
structure Response where
  status : Nat
  contentType : Option String
  body : String
  deriving DecidableEq, Repr

namespace Response

/-- An answer without a body. -/
def empty (status : Nat) : Response := ⟨status, none, ""⟩

/-- An answer in JSON. -/
def json (text : String) : Response := ⟨200, some "application/json", text⟩

end Response

/-- Whether a byte of a header value can be read as text. -/
def isVisible (b : UInt8) : Bool :=
  (0x20 ≤ b && b ≤ 0x7E) || b == 0x09

/-- The text of a header value, if all of it is visible ASCII. -/
def visibleText? (value : List UInt8) : Option (List Char) :=
  if value.all isVisible then some (value.map fun b => Char.ofNat b.toNat) else none

namespace Request

/-- The value of the first header with a name. -/
def header? (r : Request) (name : String) : Option (List UInt8) :=
  (r.headers.find? fun h => h.name == name).map Header.value

/-- Whether the request says that its body is JSON. The first content type counts;
its parameters, its letter case and the blanks around it do not. -/
def isJson (r : Request) : Bool :=
  match (r.header? "content-type").bind visibleText? with
  | none => false
  | some cs =>
    (Text.trimChars (cs.takeWhile (· ≠ ';'))).map Char.toLower == "application/json".toList

end Request

end EvictionGate.Http
