import EvictionGate.Http.StatusCode
import EvictionGate.Http1.Head

/-!
# Answers on the wire

An answer is a status line, headers, an empty line and a body. A client of the older
version is told when the connection is kept, one of the newer when it is not.

`Answer.bytes` writes an answer; `Answer.length?` finds where the first of the answers
that a client has received ends.
-/

namespace EvictionGate.Http1

open EvictionGate.Http

/-- What an answer depends on apart from what it says. -/
structure Answer where
  version : Version
  /-- The method of the request. -/
  method : String
  /-- Whether the connection is meant to be kept. -/
  persists : Bool
  response : Response
  deriving DecidableEq, Repr

namespace Answer

/-- Whether the answer agrees to a tunnel; it then has no body and no length. -/
def opensTunnel (a : Answer) : Bool :=
  a.method == "CONNECT" && 200 ≤ a.response.status && a.response.status < 300

/-- Whether the body is sent; it is not if only the head was asked for. -/
def sendsBody (a : Answer) : Bool :=
  a.method ≠ "HEAD" && !a.opensTunnel

/-- What the answer says about the connection. -/
def connection? (a : Answer) : Option String :=
  match a.version, a.persists with
  | .v10, true => some "keep-alive"
  | .v11, false => some "close"
  | .v10, false => none
  | .v11, true => none

/-- The length that the answer tells. -/
def length? (a : Answer) : Option Nat :=
  let length := (Text.bytes a.response.body).length
  if a.opensTunnel || (a.method == "HEAD" && length = 0) then none else some length

/-- The headers, in order. -/
def headers (a : Answer) : List (String × String) :=
  (a.response.contentType.map fun t => ("content-type", t)).toList
    ++ (a.connection?.map fun c => ("connection", c)).toList
    ++ (a.length?.map fun n => ("content-length", toString n)).toList

/-- The line of a header. -/
def headerLine (h : String × String) : String :=
  h.1 ++ ": " ++ h.2 ++ "\r\n"

/-- The head with the empty line after it. -/
def head (a : Answer) : String :=
  a.version.name ++ " " ++ toString a.response.status ++ " "
    ++ (reasonPhrase? a.response.status).getD "<none>" ++ "\r\n"
    ++ String.join (a.headers.map headerLine) ++ "\r\n"

/-- The answer as it is sent. -/
def text (a : Answer) : String :=
  if a.sendsBody then a.head ++ a.response.body else a.head

/-- The bytes of an answer. -/
def bytes (a : Answer) : List UInt8 :=
  Text.bytes a.text

/-- The answer to a head that is refused. -/
def refusal (version : Version) (fault : HeadFault) : Answer :=
  ⟨version, "", false, .empty fault.status⟩

end Answer

/-- The line that tells a client to send the body it holds back. -/
def continueText : String := "HTTP/1.1 100 Continue\r\n\r\n"

/-- The number of bytes up to the end of a head, if it has been received. -/
def headLength? : List UInt8 → Option Nat
  | [] => none
  | b :: rest =>
    if (Text.bytes "\r\n\r\n").isPrefixOf (b :: rest) then some 4
    else (headLength? rest).map (· + 1)

/-- The number that a line of decimal digits is. -/
def lineNumber (digits : List UInt8) : Nat :=
  (digits.filter (· ≠ byte '\r')).foldl (fun n b => n * 10 + (b.toNat - 0x30)) 0

/-- The length that the lines of a head tell. -/
def toldLength (lines : List (List UInt8)) : Nat :=
  let name := Text.bytes "content-length: "
  match lines.find? (name.isPrefixOf ·) with
  | none => 0
  | some line => lineNumber (line.drop name.length)

/-- The lines of a head. -/
def headLines : List UInt8 → List (List UInt8)
  | [] => [[]]
  | b :: rest =>
    if b = byte '\n' then [] :: headLines rest
    else match headLines rest with
      | [] => [[b]]
      | line :: lines => (b :: line) :: lines

/-- The number of bytes of the first answer received, if it is complete. -/
def answerLength? (bs : List UInt8) : Option Nat :=
  match headLength? bs with
  | none => none
  | some n =>
    let total := n + toldLength (headLines (bs.take n))
    if total ≤ bs.length then some total else none

/-- The first `count` answers received and what follows them, if they are complete. -/
def takeAnswers? : Nat → List UInt8 → Option (List UInt8 × List UInt8)
  | 0, bs => some ([], bs)
  | count + 1, bs =>
    (answerLength? bs).bind fun n =>
      (takeAnswers? count (bs.drop n)).map fun (taken, rest) => (bs.take n ++ taken, rest)

end EvictionGate.Http1
