import EvictionGate.Http.Target
import EvictionGate.Http1.Head

/-!
# Framing

Where the body of a request ends, and whether the connection is to be kept after it,
is told by the headers. Chunks outrank a length, and a message with both is the last of
its connection; a length that is not a number, or two that differ, is refused, since what
follows the body could not be told from it.
-/

namespace EvictionGate.Http1

open EvictionGate.Http

/-- Where a body ends. -/
inductive BodyLength
  | exactly (bytes : Nat)
  /-- It is sent in chunks, and ends with an empty one. -/
  | chunked
  deriving DecidableEq, Repr

/-- What the headers seen so far say about the message. -/
structure Framing where
  length : Option Nat
  /-- Whether the last transfer coding is chunks; none if there is no coding. -/
  chunks : Option Bool
  /-- Whether there is a length as well as a coding. -/
  isAmbiguous : Bool
  /-- Whether the client asks to use the connection again, by the version or a header. -/
  asksToKeep : Bool
  /-- Whether the client asks to close the connection. -/
  asksToClose : Bool
  /-- Whether the client waits to be told that it may send the body. -/
  expectsContinue : Bool
  deriving DecidableEq, Repr

/-- The parts of a header value between commas, in lower case and without the blanks
around them; none if the value is not text. -/
def listed (value : List UInt8) : List (List Char) :=
  match visibleText? value with
  | some cs => (Text.splitChars ',' cs).map fun part => (Text.trimChars part).map Char.toLower
  | none => []

/-- Whether an option is among those of a header. -/
def lists (value : List UInt8) (option : String) : Bool :=
  (listed value).contains option.toList

/-- The number that a header value is in decimal digits. -/
def decimal? (value : List UInt8) : Option Nat :=
  if value.isEmpty then none
  else value.foldlM (fun n b =>
    let c := Char.ofNat b.toNat
    if c.isDigit then some (n * 10 + (c.toNat - '0'.toNat)) else none) 0

/-- Lengths from here on are not numbers of 64 bits. -/
def lengthLimit : Nat := 18446744073709551616

/-- The greatest length that a body may have. -/
def maxLength : Nat := lengthLimit - 3

namespace Framing

/-- What is known before the first header. -/
def start (version : Version) : Framing := ⟨none, none, false, version == .v11, false, false⟩

/-- Takes a length into account, unless the body comes in chunks. -/
def withLength (f : Framing) (value : List UInt8) : Except HeadFault Framing :=
  if f.chunks.isSome then .ok { f with isAmbiguous := true }
  else match decimal? value with
    | none => .error .malformed
    | some n =>
      if lengthLimit ≤ n then .error .malformed
      else match f.length with
        | some m => if m = n then .ok f else .error .malformed
        | none => if maxLength < n then .error .headersTooLarge else .ok { f with length := some n }

/-- Takes a header into account. -/
def withHeader (version : Version) (f : Framing) (h : Header) : Except HeadFault Framing :=
  match h.name with
  | "transfer-encoding" =>
    if version = .v10 then .error .malformed
    else .ok
      { f with chunks := some ((listed h.value).getLast? == some "chunked".toList)
               isAmbiguous := f.isAmbiguous || f.length.isSome }
  | "content-length" => f.withLength h.value
  | "connection" =>
    .ok
      { f with asksToKeep := f.asksToKeep || lists h.value "keep-alive"
               asksToClose := f.asksToClose || lists h.value "close" }
  | "expect" =>
    .ok { f with expectsContinue :=
      h.value.map (fun b => (Char.ofNat b.toNat).toLower) == "100-continue".toList }
  | _ => .ok f

/-- What a head says about its message. -/
def ofHead (h : Head) : Except HeadFault Framing := do
  let f ← h.headers.foldlM (withHeader h.version) (start h.version)
  if f.chunks = some false then .error .malformed else .ok f

/-- Whether the connection may be used again. -/
def keepsAlive (f : Framing) : Bool :=
  f.asksToKeep && !f.asksToClose && !f.isAmbiguous

/-- Where the body ends. -/
def bodyLength (f : Framing) : BodyLength :=
  if f.chunks = some true then .chunked else .exactly (f.length.getD 0)

end Framing

namespace Head

/-- Names of headers are shorter than this. -/
def nameLimit : Nat := 65536

/-- What of a head is too long, if something is. -/
def excess? (h : Head) : Option HeadFault :=
  if maxTarget < (Text.bytes h.target).length then some .targetTooLong
  else if h.headers.any fun header => nameLimit ≤ (Text.bytes header.name).length then
    some .headersTooLarge
  else none

/-- The request that a head begins, with its framing. -/
def request (h : Head) : Except HeadFault (Request × Framing) :=
  match targetPath? h.target with
  | none => .error .malformed
  | some path => do
    let f ← Framing.ofHead h
    .ok (⟨h.method, path, h.headers⟩, f)

end Head

end EvictionGate.Http1
