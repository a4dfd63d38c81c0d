import EvictionGate.Asn1.Form
import EvictionGate.Text.Utf8

/-!
# Names

Whom a certificate is for and who issued it: a list of sets of attributes. Two names are
the same if their sets hold the same attributes in any order; case, and how many blanks
there are in a text, do not matter.
-/

namespace EvictionGate.Tls

open EvictionGate.Asn1

/-- What an attribute is given as. -/
inductive AttributeValue
  | text (chars : List Char)
  | other (kind : Nat) (content : List UInt8)
  deriving DecidableEq

/-- An attribute of a name. -/
structure Attribute where
  name : List UInt8
  value : AttributeValue
  deriving DecidableEq

namespace Attribute

/-- The kinds that a value may have. -/
def valueKinds : List Nat :=
  [3, 7, 8, 9, 10, 11, 12, 13, 14, 15, 16, 18, 19, 20, 22, 28, 29, 30]

/-- The kinds of text with a byte for each character. -/
def byteKinds : List Nat :=
  [Kind.printableText, Kind.teletexText, Kind.asciiText, Kind.visibleText]

/-- The character of a code, unless there is none. -/
def char? (code : Nat) : Option Char :=
  if code.isValidChar then some (Char.ofNat code) else none

/-- The characters that are written with two bytes each. -/
def pairs? : List UInt8 → Option (List Char)
  | a :: b :: rest => do return (← char? (number [a, b])) :: (← pairs? rest)
  | _ => some []

/-- The characters that are written with four bytes each. -/
def quads? : List UInt8 → Option (List Char)
  | a :: b :: c :: d :: rest => do return (← char? (number [a, b, c, d])) :: (← quads? rest)
  | _ => some []

/-- The characters of a text of some kind. -/
def chars? (kind : Nat) (content : List UInt8) : Option (List Char) :=
  if kind = Kind.utf8Text then Text.chars? content
  else if kind = Kind.basicText then pairs? content
  else if kind = Kind.wideText then quads? content
  else some (content.map fun b => Char.ofNat b.toNat)

/-- Whether a character is a blank. -/
def isBlank (c : Char) : Bool :=
  c = ' ' || (9 ≤ c.toNat && c.toNat ≤ 13)

/-- A text in small letters, with one blank for many and none at the ends. -/
def plain (text : List Char) : List Char :=
  let words := text.foldr
    (fun c words =>
      if isBlank c then [] :: words
      else match words with
        | w :: rest => (c.toLower :: w) :: rest
        | [] => [[c.toLower]])
    [[]]
  ((words.filter (!·.isEmpty)).intersperse [' ']).flatten

/-- How a value is written. -/
def valueForm : Form AttributeValue :=
  (Form.choice valueKinds).map? fun (kind, content) =>
    if kind = Kind.utf8Text || kind = Kind.basicText || kind = Kind.wideText
        || byteKinds.contains kind then
      (chars? kind content).map fun text => .text (plain text)
    else some (.other kind content)

/-- How an attribute is written. -/
def form : Form Attribute := .sequence do
  return ⟨← required .name, ← required valueForm⟩

end Attribute

/-- A name. -/
structure Name where
  /-- The sets of attributes; none is empty. -/
  sets : List (List Attribute)
  deriving DecidableEq

namespace Name

/-- How a name is written. -/
def form : Form Name :=
  (Form.many Kind.sequence (.many Kind.set Attribute.form)).map? fun sets =>
    some ⟨sets.filter (!·.isEmpty)⟩

/-- Whether two names are the same. -/
def same (a b : Name) : Bool :=
  a.sets.length = b.sets.length && (a.sets.zip b.sets).all fun (s, t) => s.isPerm t

end Name

end EvictionGate.Tls
