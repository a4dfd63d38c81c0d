import EvictionGate.Json.Value
import EvictionGate.Text.Utf8

/-!
# JSON as it is written

`Raw` is the tree of a JSON text before anything is made of it: strings are bytes
and escapes, numbers are digits, a name may be repeated. Parts that nobody reads
stay in this form, so that only their syntax matters. A string that is read has to
be valid UTF-8 with its surrogates in pairs; one that is not read may hold any bytes.
-/

namespace EvictionGate.Json

/-- A part of a string: a byte that stands for itself, or a code unit given by number. -/
inductive Piece
  | byte (b : UInt8)
  | unit (code : Nat)
  deriving DecidableEq

/-- A JSON text as a tree. -/
inductive Raw
  | null
  | bool (b : Bool)
  | number (n : Numeral)
  | string (pieces : List Piece)
  | array (items : List Raw)
  | object (members : List (List Piece × Raw))

/-- The bytes of a string's pieces: a pair of surrogates is one character, a
surrogate alone is none. -/
def pieceBytes : List Piece → Option (List UInt8)
  | [] => some []
  | .byte b :: ps => (pieceBytes ps).map (b :: ·)
  | .unit u :: ps =>
    if 0xD800 ≤ u && u ≤ 0xDBFF then
      match ps with
      | .unit v :: ps =>
        if 0xDC00 ≤ v && v ≤ 0xDFFF then
          let c := Char.ofNat (0x10000 + (u - 0xD800) * 0x400 + (v - 0xDC00))
          (pieceBytes ps).map (String.utf8EncodeChar c ++ ·)
        else none
      | _ => none
    else if 0xDC00 ≤ u && u ≤ 0xDFFF then none
    else (pieceBytes ps).map (String.utf8EncodeChar (Char.ofNat u) ++ ·)

/-- The text of a string. -/
def pieceText? (pieces : List Piece) : Option String :=
  (pieceBytes pieces).bind Text.ofBytes?

end EvictionGate.Json
