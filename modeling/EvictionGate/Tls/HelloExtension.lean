import EvictionGate.Asn1.Form
import EvictionGate.Tls.Alert
import EvictionGate.Tls.Field

/-!
# Extensions of a hello

What else a client says of itself, each under a number. Numbers that are not known are
passed over; one that is known stands once. What an extension holds is looked at only if
it has a meaning in the version that was agreed on.
-/

namespace EvictionGate.Tls

/-- Something that a client says of itself. -/
structure HelloExtension where
  number : Nat
  content : List UInt8
  deriving DecidableEq, Repr

namespace HelloExtension

/-! ## The numbers -/

def serverName : Nat := 0
def fragmentLength : Nat := 1
def statusRequest : Nat := 5
def groups : Nat := 10
def pointFormats : Nat := 11
def remotePassword : Nat := 12
def signatures : Nat := 13
def secureMedia : Nat := 14
def protocols : Nat := 16
def extendedSecret : Nat := 23
def sharedKey : Nat := 41
def earlyData : Nat := 42
def versions : Nat := 43
def keyModes : Nat := 45
def authorities : Nat := 47
def lateAuthentication : Nat := 49
def certificateSignatures : Nat := 50
def keyShares : Nat := 51
def renegotiation : Nat := 65281

/-- The numbers of extensions that may hold anything: times, kinds and compression of
certificates, padding, the order of encryption, tickets, cookies and the like. -/
def unread : List Nat := [18, 19, 20, 21, 22, 27, 35, 44, 13172, 65000]

/-- The numbers that are known. -/
def known : List Nat := [
  serverName, fragmentLength, statusRequest, groups, pointFormats, remotePassword, signatures,
  secureMedia, protocols, extendedSecret, sharedKey, earlyData, versions, keyModes,
  authorities, lateAuthentication, certificateSignatures, keyShares, renegotiation] ++ unread

/-! ## Reading them -/

/-- A number and a content. -/
def field : Field HelloExtension := do
  return ⟨← .number 2, ← .counted 2⟩

/-- Whether an extension cannot stand after those with some numbers and before a rest. -/
def isMisplaced (before : List Nat) (e : HelloExtension) (rest : List UInt8) : Bool :=
  e.number = secureMedia
    || known.contains e.number && before.contains e.number
    || e.number = sharedKey && !rest.isEmpty

/-- At most `count` extensions, up to the end. -/
def listUpTo : Nat → List Nat → List UInt8 → Except Alert (List HelloExtension)
  | _, _, [] => .ok []
  | 0, _, _ => .error .decodeError
  | count + 1, before, bs =>
    match field.run bs with
    | none => .error .decodeError
    | some (e, rest) =>
      if e.isMisplaced before rest then .error .illegalParameter
      else do return e :: (← listUpTo count (e.number :: before) rest)

/-- The extensions that bytes write. -/
def list (bs : List UInt8) : Except Alert (List HelloExtension) :=
  listUpTo bs.length [] bs

/-- The content under a number. -/
def content? (es : List HelloExtension) (number : Nat) : Option (List UInt8) :=
  (es.find? fun e => e.number == number).map (·.content)

/-- The numbers of two bytes that a content lists; there is one at least. -/
def numbers? (content : List UInt8) : Option (List Nat) := do
  (Field.number 2).many? (← (Field.filled 2).whole? content)

/-! ## What they have to hold -/

/-- Demands that something could be read. -/
def demand (a : Alert) : Option α → Except Alert Unit
  | some _ => .ok ()
  | none => .error a

/-- Demands that something holds. -/
def require (a : Alert) (holds : Bool) : Except Alert Unit :=
  if holds then .ok () else .error a

/-- The most bytes of the name of a server. -/
def maxServerName : Nat := 255

/-- The name of the server that is asked for: one entry of the first kind. -/
def checkServerName (content : List UInt8) : Except Alert Unit :=
  let name? : Option (List UInt8) := do
    let entry ← (Field.filled 2).whole? content
    Field.whole? (do
      if (← .number 1) = 0 then Field.counted 2 else failure) entry
  match name? with
  | none => .error .decodeError
  | some name =>
    require .unrecognizedName (name.length ≤ maxServerName && !name.contains 0)

/-- The greatest length of fragments, one of four. -/
def checkFragmentLength : List UInt8 → Except Alert Unit
  | [b] => require .illegalParameter (1 ≤ b && b ≤ 4)
  | _ => .error .decodeError

/-- Who answers for the status of a certificate: a name or a hash. -/
def responder : Asn1.Form Unit where
  accepts id := id = Asn1.context 1 || id = Asn1.context 2
  read? e := if e.isConstructed then e.parts?.map fun _ => () else none

/-- The status that is asked for. Only the first kind is looked at. -/
def checkStatusRequest : List UInt8 → Except Alert Unit
  | [] => .error .decodeError
  | kind :: rest =>
    if kind ≠ 1 then .ok ()
    else demand .decodeError do
      let (ids, extensions) ← Field.whole? (do return (← .counted 2, ← .counted 2)) rest
      for id in ← (Field.filled 2).many? ids do
        if ((responder.first? id).map (·.2)) ≠ some [] then failure
      if !extensions.isEmpty then
        let _ ← Asn1.element? extensions

/-- The protocols that are offered, one at least and none without a name. -/
def checkProtocols (content : List UInt8) : Except Alert Unit :=
  demand .decodeError do (Field.filled 1).many? (← (Field.filled 2).whole? content)

/-- The name of a user. -/
def checkRemotePassword (content : List UInt8) : Except Alert Unit :=
  match (Field.counted 1).whole? content with
  | some name => require .decodeError !name.contains 0
  | none => .error .decodeError

/-- The authorities that a client trusts. -/
def checkAuthorities (content : List UInt8) : Except Alert Unit :=
  demand .decodeError do
    for name in ← (Field.counted 2).many? (← (Field.counted 2).whole? content) do
      if ((Asn1.element? name).map (·.2)) ≠ some [] then failure

/-- What came before a handshake that is not the first: nothing did. -/
def checkRenegotiation (content : List UInt8) : Except Alert Unit :=
  match (Field.counted 1).run content with
  | some (before, _) => require .handshakeFailure before.isEmpty
  | none => .error .decodeError

/-- What the extensions under some numbers have to hold, in the order in which they are
looked at, and in which version; none is both. -/
def checks : List (Nat × Option Version × (List UInt8 → Except Alert Unit)) := [
  (renegotiation, some .v12, checkRenegotiation),
  (serverName, none, checkServerName),
  (fragmentLength, none, checkFragmentLength),
  (remotePassword, some .v12, checkRemotePassword),
  (pointFormats, some .v12, fun content => demand .decodeError ((Field.filled 1).whole? content)),
  (groups, none, fun content => demand .decodeError (numbers? content)),
  (statusRequest, none, checkStatusRequest),
  (protocols, none, checkProtocols),
  (certificateSignatures, none, fun content => demand .decodeError (numbers? content)),
  (lateAuthentication, some .v13, fun content => require .decodeError content.isEmpty),
  (signatures, none, fun content => demand .decodeError (numbers? content))]

/-- The checks that come after the keys have been looked at. -/
def lateChecks : List (Nat × Option Version × (List UInt8 → Except Alert Unit)) := [
  (earlyData, some .v13, fun content => require .decodeError content.isEmpty),
  (authorities, some .v13, checkAuthorities)]

/-- Makes some checks. -/
def check (version : Version) (es : List HelloExtension)
    (checks : List (Nat × Option Version × (List UInt8 → Except Alert Unit))) :
    Except Alert Unit :=
  checks.forM fun (number, within, holds) =>
    match content? es number with
    | some content => if within.all (· = version) then holds content else .ok ()
    | none => .ok ()

end HelloExtension

end EvictionGate.Tls
