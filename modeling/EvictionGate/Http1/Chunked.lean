import EvictionGate.Http1.Head
import EvictionGate.Json.Reader

/-!
# Chunked bodies

A chunk is its size in hexadecimal on a line of its own, then as many bytes, then an
empty line. Extensions after the size are skipped. A chunk of size zero ends the body;
headers may follow it as trailers.

The reader takes one byte after the other, apart from the bytes of a chunk, which are
taken as they come.
-/

namespace EvictionGate.Http1

/-- What the next byte of a chunked body belongs to. -/
inductive ChunkPart
  /-- The first digit of a size. -/
  | start
  | size
  | blank
  | extension
  | sizeEnd
  | data
  | dataReturn
  | dataEnd
  /-- The line after the last chunk or after a trailer. -/
  | line
  | trailer
  | trailerEnd
  | lastEnd
  /-- The body has ended. -/
  | over
  deriving DecidableEq, Repr

/-- A reader of a chunked body. -/
structure Chunks where
  part : ChunkPart
  /-- The size read so far, then the bytes of the chunk that are still to come. -/
  left : Nat
  /-- The bytes of extensions, over all chunks. -/
  extensions : Nat
  trailers : List UInt8
  trailerCount : Nat
  deriving DecidableEq, Repr

namespace Chunks

/-- Before the first byte. -/
def start : Chunks := ⟨.start, 0, 0, [], 0⟩

/-- There are fewer bytes of extensions, and of trailers, than this. -/
def extraLimit : Nat := 16384

/-- Sizes from here on are refused. -/
def sizeLimit : Nat := 18446744073709551616

/-- A digit of a size. -/
def digit (c : Chunks) (b : UInt8) : Option Chunks :=
  (Json.hexDigit? b).bind fun d =>
    let left := c.left * 16 + d
    if left < sizeLimit then some { c with part := .size, left } else none

/-- A byte of a trailer. -/
def keep (c : Chunks) (b : UInt8) (part : ChunkPart) : Option Chunks :=
  if c.trailers.length + 1 < extraLimit then some { c with part, trailers := c.trailers ++ [b] }
  else none

/-- A byte of an extension, or the end of the line with the size. -/
def extension (c : Chunks) (b : UInt8) : Option Chunks :=
  if b = byte '\r' then some { c with part := .sizeEnd }
  else if b = byte '\n' || extraLimit ≤ c.extensions + 1 then none
  else some { c with part := .extension, extensions := c.extensions + 1 }

/-- The byte after a size. -/
def afterSize (c : Chunks) (b : UInt8) : Option Chunks :=
  if isBlankByte b then some { c with part := .blank }
  else if b = byte ';' then some { c with part := .extension }
  else if b = byte '\r' then some { c with part := .sizeEnd }
  else none

/-- One byte that has to be there. -/
def expect (c : Chunks) (b : UInt8) (wanted : Char) (part : ChunkPart) : Option Chunks :=
  if b = byte wanted then some { c with part } else none

/-- One more byte that is not part of a chunk. -/
def next (c : Chunks) (b : UInt8) : Option Chunks :=
  match c.part with
  | .start => c.digit b
  | .size => (c.digit b).or (if (Json.hexDigit? b).isSome then none else c.afterSize b)
  | .blank => c.afterSize b
  | .extension => c.extension b
  | .sizeEnd => c.expect b '\n' (if c.left = 0 then .line else .data)
  | .dataReturn => c.expect b '\r' .dataEnd
  | .dataEnd => c.expect b '\n' .start
  | .line =>
    if b = byte '\r' then
      if c.trailers.isEmpty then some { c with part := .lastEnd } else c.keep b .lastEnd
    else c.keep b .trailer
  | .trailer => c.keep b (if b = byte '\r' then .trailerEnd else .trailer)
  | .trailerEnd =>
    if b = byte '\n' && c.trailerCount < maxHeaders then
      { c with trailerCount := c.trailerCount + 1 }.keep b .line
    else none
  | .lastEnd =>
    if b = byte '\n' then
      if c.trailers.isEmpty then some { c with part := .over } else c.keep b .over
    else none
  | .data => none
  | .over => none

/-- Whether the trailers are headers. -/
def areTrailersSound (c : Chunks) : Bool :=
  match readHeaders c.trailerCount c.trailers with
  | .found _ _ => true
  | _ => false

/-- What the next piece of a chunked body is. -/
inductive Piece
  /-- Bytes of the body, which goes on. -/
  | data (bytes : List UInt8) (next : Chunks) (rest : List UInt8)
  | done (rest : List UInt8)
  /-- All bytes have been read, and the body goes on. -/
  | more (next : Chunks)
  | broken
  deriving DecidableEq, Repr

/-- The end of a body. -/
def finish (c : Chunks) (rest : List UInt8) : Piece :=
  if c.trailers.isEmpty || c.areTrailersSound then .done rest else .broken

/-- Takes bytes of a chunk. -/
def take (c : Chunks) (bs : List UInt8) : Piece :=
  let taken := bs.take c.left
  let left := c.left - taken.length
  .data taken { c with left, part := if left = 0 then .dataReturn else .data } (bs.drop c.left)

/-- Reads up to the next bytes of a chunk, or to the end. -/
def read (c : Chunks) : List UInt8 → Piece
  | [] => .more c
  | b :: rest =>
    if c.part = .data then c.take (b :: rest)
    else match c.next b with
      | none => .broken
      | some c => if c.part = .over then c.finish rest else c.read rest

end Chunks

end EvictionGate.Http1
