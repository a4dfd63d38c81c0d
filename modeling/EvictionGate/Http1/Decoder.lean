import EvictionGate.Http1.Chunked
import EvictionGate.Http1.Framing

/-!
# Reading bodies

A body is read in pieces, each of what is at hand; `Decoder.read` reads the next one.
-/

namespace EvictionGate.Http1

/-- A reader of a body. -/
inductive Decoder
  /-- So many bytes are still to come, at least one. -/
  | sized (left : Nat)
  | chunked (chunks : Chunks)
  deriving DecidableEq, Repr

/-- The next piece of a body. -/
inductive BodyPiece
  | data (bytes : List UInt8) (next : Decoder) (rest : List UInt8)
  | last (bytes : List UInt8) (rest : List UInt8)
  | more (next : Decoder)
  | broken
  deriving DecidableEq, Repr

namespace Decoder

/-- A reader of the body after a head; none if there is no body. -/
def ofLength? : BodyLength → Option Decoder
  | .exactly 0 => none
  | .exactly n => some (.sized n)
  | .chunked => some (.chunked .start)

/-- Reads the next piece. -/
def read : Decoder → List UInt8 → BodyPiece
  | .sized left, [] => .more (.sized left)
  | .sized left, bs =>
    if left ≤ bs.length then .last (bs.take left) (bs.drop left)
    else .data bs (.sized (left - bs.length)) []
  | .chunked c, bs =>
    match c.read bs with
    | .data bytes next rest => .data bytes (.chunked next) rest
    | .done rest => .last [] rest
    | .more next => .more (.chunked next)
    | .broken => .broken

end Decoder

end EvictionGate.Http1
