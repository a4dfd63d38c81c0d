import EvictionGate.Tls.Agreement

/-!
# Records

What a client sends before anything is agreed on comes in records: a kind, a version, a
length and a content. The first message is spread over the contents of one or more of
them. A first record may also have the old form: a length with its first bit set, and a
hello.

A record is looked at when its header is there, and used when its content is.
-/

namespace EvictionGate.Tls

/-- What a record says that its content is. -/
def changeKind : UInt8 := 20

/-- The kind of the records that messages are in. -/
def messageKind : UInt8 := 22

/-- What comes of bytes that may go on. -/
inductive Arrival (α : Type)
  | unfinished
  | refused (r : Refusal)
  | complete (value : α)
  deriving Repr

/-- A part of what a client sends. -/
inductive Record
  | plain (kind : UInt8) (version : Nat) (content : List UInt8)
  /-- A first record of the old form. -/
  | old (hello : List UInt8)
  deriving DecidableEq, Repr

namespace Record

/-- The most bytes of a content. -/
def maxContent : Nat := 16384

/-- The most bytes of a content that there is memory for. -/
def maxHeld : Nat := 16711

/-- The fewest bytes of a record of the old form. -/
def minOld : Nat := 9

/-- Whether a first record has the old form. -/
def isOld (first third : UInt8) : Bool := 0x80 ≤ first && third = 1

/-- Why a record is refused on its header. -/
def refusal? (isFirst : Bool) (version length : Nat) : Option Refusal :=
  if version = 2 then some (.early .protocolVersion)
  else if maxHeld < length then some (.early .recordOverflow)
  else if version / 256 ≠ Version.oldest / 256 then
    some (if isFirst then .silent else .early .protocolVersion)
  else if maxContent < length then some (.early .recordOverflow)
  else none

/-- The first record, and what comes after it. -/
def ofBytes (isFirst : Bool) : List UInt8 → Arrival (Record × List UInt8)
  | first :: second :: third :: high :: low :: rest =>
    if isFirst && isOld first third then
      let length := (first.toNat - 0x80) * 256 + second.toNat
      let content := third :: high :: low :: rest
      if maxContent < length then .refused (.early .recordOverflow)
      else if length < minOld then .refused (.early .decodeError)
      else if content.length < length then .unfinished
      else .complete (.old (content.take length), content.drop length)
    else
      let version := second.toNat * 256 + third.toNat
      let length := high.toNat * 256 + low.toNat
      match refusal? isFirst version length with
      | some r => .refused r
      | none =>
        if rest.length < length then .unfinished
        else .complete (.plain first version (rest.take length), rest.drop length)
  | _ => .unfinished

end Record

/-! ## The first message -/

/-- The kind of the message that a client begins with. -/
def helloKind : UInt8 := 1

/-- The most bytes of the message that a client begins with. -/
def maxHello : Nat := 131396

/-- The bytes before the body of a message. -/
def messageHeader : Nat := 4

/-- The most empty records in a row. -/
def maxEmpty : Nat := 32

/-- A message of the kind that a client begins with, and whether it ends within a record. -/
def messageIn : List UInt8 → Arrival (List UInt8 × Bool)
  | kind :: a :: b :: c :: rest =>
    let length := Asn1.number [a, b, c]
    if kind ≠ helloKind then .refused (.early .unexpectedMessage)
    else if maxHello < length then .refused (.early .illegalParameter)
    else if rest.length < length then .unfinished
    else .complete (rest.take length, length < rest.length)
  | _ => .unfinished

/-- Whether a record may follow when so much of a message has come. A change of ciphers
is looked at as long as the message does not say its length. -/
def mayFollow (held : List UInt8) (kind : UInt8) : Bool :=
  kind = messageKind || kind = changeKind && held.length < messageHeader

/-- What is made of a hello. -/
def answer (key : PublicKey) (isCut : Bool) : Except Alert ClientHello → Option Refusal
  | .ok h => h.refusal? key isCut
  | .error a => some (.early a)

/-- What is made of records, at most `count` of them. `held` is what there is of a message
and `empty` how many records without content came last. -/
def refusalAfter (key : PublicKey) :
    Nat → Bool → Nat → List UInt8 → List UInt8 → Option Refusal
  | 0, _, _, _, _ => none
  | count + 1, isFirst, empty, held, bs =>
    match Record.ofBytes isFirst bs with
    | .unfinished => none
    | .refused r => some r
    | .complete (.old hello, _) => answer key false (ClientHello.ofOldBytes hello)
    | .complete (.plain kind version content, rest) =>
      if !mayFollow held kind then some (.told version .unexpectedMessage)
      else if content.isEmpty then
        if maxEmpty ≤ empty then some (.early .unexpectedMessage)
        else refusalAfter key count false (empty + 1) held rest
      else if kind = changeKind then some (.early .unexpectedMessage)
      else
        let held := held ++ content
        match messageIn held with
        | .refused r => some r
        | .complete (body, isCut) => answer key isCut (ClientHello.ofBytes body)
        | .unfinished => refusalAfter key count false 0 held rest

/-- Why the gate gives up the handshake with a client that has sent some bytes, if it
does. A hello that it answers ends what it looks at. -/
def refusal? (key : PublicKey) (seen : List UInt8) : Option Refusal :=
  refusalAfter key (seen.length + 1) true 0 [] seen

end EvictionGate.Tls
