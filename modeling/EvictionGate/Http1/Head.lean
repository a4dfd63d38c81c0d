import EvictionGate.Http.Message

/-!
# Heads of requests on the wire

A head is a request line and headers, each on a line of its own, and an empty line.
A line ends in a line feed, with or without a carriage return before it. Empty lines
before the request line are skipped.

A reader works on the bytes that have arrived. It finds what it looks for and hands on
the rest, or needs more bytes, or refuses what is there. It refuses as early as it can:
what more bytes cannot mend is refused without waiting for them.
-/

namespace EvictionGate.Http1

open EvictionGate.Http

/-- The versions of the protocol that are spoken. -/
inductive Version
  | v10
  | v11
  deriving DecidableEq, Repr

/-- The name of a version. -/
def Version.name : Version → String
  | .v10 => "HTTP/1.0"
  | .v11 => "HTTP/1.1"

/-- The head of a request. -/
structure Head where
  method : String
  target : String
  version : Version
  headers : List Header
  deriving DecidableEq, Repr

/-- Why a head is refused. -/
inductive HeadFault
  | malformed
  | headersTooLarge
  | targetTooLong
  deriving DecidableEq, Repr

/-- The status that answers a refused head. -/
def HeadFault.status : HeadFault → Nat
  | .malformed => 400
  | .headersTooLarge => 431
  | .targetTooLong => 414

/-- What a reader makes of the bytes that have arrived. -/
inductive Scan (α : Type)
  | found (value : α) (rest : List UInt8)
  | more
  | refused (fault : HeadFault)
  deriving DecidableEq, Repr

namespace Scan

/-- One reader after another. -/
def andThen {α β : Type} : Scan α → (α → List UInt8 → Scan β) → Scan β
  | .found value rest, next => next value rest
  | .more, _ => .more
  | .refused fault, _ => .refused fault

/-- What a reader finds, changed. -/
def map {α β : Type} (f : α → β) (s : Scan α) : Scan β :=
  s.andThen fun value rest => .found (f value) rest

end Scan

/-- The byte of an ASCII character. -/
def byte (c : Char) : UInt8 :=
  UInt8.ofNat c.toNat

/-- Whether a byte is a space or a tab. -/
def isBlankByte (b : UInt8) : Bool :=
  b == byte ' ' || b == byte '\t'

/-- Whether a byte may stand in a method or in the name of a header. -/
def isTokenByte (b : UInt8) : Bool :=
  (Char.ofNat b.toNat).isAlphanum || ("!#$%&'*+-.^_`|~".toList.map byte).contains b

/-- Whether a byte may stand in a target. -/
def isTargetByte (b : UInt8) : Bool :=
  byte ' ' < b && b ≠ 0x7F

/-- Whether a byte may stand in the value of a header. -/
def isValueByte (b : UInt8) : Bool :=
  b == byte '\t' || (byte ' ' ≤ b && b ≠ 0x7F)

/-- Reads bytes of a kind, at least one of them, up to a byte that ends them. -/
def readUntil (isPart : UInt8 → Bool) (stop : UInt8) (bs : List UInt8) : Scan (List UInt8) :=
  let part := bs.takeWhile isPart
  match bs.drop part.length with
  | [] => .more
  | b :: rest => if b = stop && !part.isEmpty then .found part rest else .refused .malformed

/-- Reads the end of a line. -/
def readLineEnd : List UInt8 → Scan Unit
  | [] => .more
  | a :: rest =>
    if a = byte '\n' then .found () rest
    else if a = byte '\r' then
      match rest with
      | [] => .more
      | b :: rest => if b = byte '\n' then .found () rest else .refused .malformed
    else .refused .malformed

/-- Whether a byte may begin the end of a line. -/
def isLineByte (b : UInt8) : Bool :=
  b == byte '\r' || b == byte '\n'

/-- Skips empty lines, of which there are at most `count`. -/
def skipEmptyLines : Nat → List UInt8 → Scan Unit
  | _, [] => .more
  | 0, bs => .found () bs
  | count + 1, b :: rest =>
    if isLineByte b then
      (readLineEnd (b :: rest)).andThen fun _ rest => skipEmptyLines count rest
    else .found () (b :: rest)

/-- Reads the text before a byte that ends it. -/
def readText (isPart : UInt8 → Bool) (stop : UInt8) (bs : List UInt8) : Scan String :=
  (readUntil isPart stop bs).andThen fun part rest =>
    match Text.ofBytes? part with
    | some text => .found text rest
    | none => .refused .malformed

/-- Reads the version in a request line. -/
def readVersion (bs : List UInt8) : Scan Version :=
  let start := Text.bytes "HTTP/1."
  if bs.length ≤ start.length then
    if bs.isPrefixOf start then .more else .refused .malformed
  else if bs.take 8 = Text.bytes Version.v11.name then .found .v11 (bs.drop 8)
  else if bs.take 8 = Text.bytes Version.v10.name then .found .v10 (bs.drop 8)
  else .refused .malformed

/-- A header value without the blanks after it. -/
def withoutBlanksAfter (value : List UInt8) : List UInt8 :=
  (value.reverse.dropWhile isBlankByte).reverse

/-- Reads a header with the end of its line. The colon follows the name directly. -/
def readHeader (bs : List UInt8) : Scan Header :=
  (readText isTokenByte (byte ':') bs).andThen fun name rest =>
    let rest := rest.dropWhile isBlankByte
    let value := rest.takeWhile isValueByte
    (readLineEnd (rest.drop value.length)).map fun _ => .named name (withoutBlanksAfter value)

/-- Reads headers, at most `most` of them, and the empty line after them. -/
def readHeaders : Nat → List UInt8 → Scan (List Header)
  | _, [] => .more
  | most, b :: rest =>
    if isLineByte b then (readLineEnd (b :: rest)).map fun _ => []
    else
      (readHeader (b :: rest)).andThen fun header rest =>
        match most with
        | 0 => .refused .headersTooLarge
        | most + 1 => (readHeaders most rest).map (header :: ·)

/-- The most headers that a head may have. -/
def maxHeaders : Nat := 100

namespace Head

/-- Reads a head. -/
def read (bs : List UInt8) : Scan Head :=
  (skipEmptyLines bs.length bs).andThen fun _ bs =>
  (readText isTokenByte (byte ' ') bs).andThen fun method bs =>
  (readText isTargetByte (byte ' ') bs).andThen fun target bs =>
  (readVersion bs).andThen fun version bs =>
  (readLineEnd bs).andThen fun _ bs =>
  (readHeaders maxHeaders bs).map fun headers => ⟨method, target, version, headers⟩

/-- Whether the bytes hold the end of a head: a line feed, and an empty line after it. -/
def holdsEnd : List UInt8 → Bool
  | [] => false
  | b :: rest =>
    (Text.bytes "\n\n").isPrefixOf (b :: rest) || (Text.bytes "\n\r\n").isPrefixOf (b :: rest)
      || holdsEnd rest

end Head

end EvictionGate.Http1
