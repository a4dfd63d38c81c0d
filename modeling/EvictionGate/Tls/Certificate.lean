import EvictionGate.Tls.Name
import EvictionGate.Tls.Signature

/-!
# Certificates

A certificate ties a public key to a name. It can be shown if its key is strong enough,
and the algorithm that it is signed with too, unless it is signed with its own key. The
signature itself and the times are not looked at.
-/

namespace EvictionGate.Tls

open EvictionGate.Asn1

/-- Something more that a certificate says. -/
structure Extension where
  name : List UInt8
  value : List UInt8
  deriving DecidableEq

/-- How an extension is written. -/
def Extension.form : Form Extension := .sequence do
  let name ← required .name
  let _ ← optional (.content Kind.boolean)
  return ⟨name, ← required .octets⟩

/-- A certificate. -/
structure Certificate where
  serial : List UInt8
  /-- The algorithm that its content says it is signed with. -/
  declared : Algorithm
  issuer : Name
  subject : Name
  /-- The public key; none if it cannot be read. -/
  key : Option PublicKey
  extensions : List Extension
  /-- The algorithm that it is signed with. -/
  algorithm : Algorithm
  deriving DecidableEq

namespace Certificate

/-- The kinds of times. -/
def timeKinds : List Nat := [Kind.shortTime, Kind.longTime]

/-- From when and until when a certificate holds. -/
def validity : Form Unit := .sequence do
  let _ ← required (.choice timeKinds)
  let _ ← required (.choice timeKinds)
  return ()

/-- What is signed; the algorithm outside is not known yet. -/
def body : Form (Algorithm → Certificate) := .sequence do
  let _ ← optional (.inside 0 .integer)
  let serial ← required (.content Kind.integer)
  let declared ← required Algorithm.form
  let issuer ← required Name.form
  let _ ← required validity
  let subject ← required Name.form
  let key ← required PublicKey.form
  let _ ← optional (.tagged 1 .bits)
  let _ ← optional (.tagged 2 .bits)
  let extensions ← optional (.inside 3 (.many Kind.sequence Extension.form))
  return fun algorithm =>
    ⟨serial, declared, issuer, subject, key, extensions.getD [], algorithm⟩

/-- How a certificate is written. -/
def form : Form Certificate := .sequence do
  let body ← required body
  let algorithm ← required Algorithm.form
  let _ ← required .bits
  return body algorithm

/-- What may be said of a certificate behind it: for what it is trusted, and notes. -/
def trust : Form Unit := .sequence do
  let _ ← optional (.many Kind.sequence .name)
  let _ ← optional (.tagged 0 (.many Kind.sequence .name))
  let _ ← optional (.content Kind.utf8Text)
  let _ ← optional .octets
  let _ ← optional (.tagged 1 (.many Kind.sequence Algorithm.form))
  return ()

/-- The certificate at the start of bytes. -/
def ofBytes? (bytes : List UInt8) : Option Certificate :=
  form.ofBytes? bytes

/-- The certificate at the start of bytes that may say more of it after it. -/
def ofTrustedBytes? (bytes : List UInt8) : Option Certificate := do
  let (certificate, rest) ← form.first? bytes
  if !rest.isEmpty && (trust.ofBytes? rest).isNone then none
  return certificate

/-! ## Who signed -/

/-- The name of the extension that identifies the key. -/
def ownKeyName : List UInt8 := [0x55, 0x1D, 0x0E]

/-- The name of the extension that identifies the key that signed. -/
def signerKeyName : List UInt8 := [0x55, 0x1D, 0x23]

/-- What an extension says that is there exactly once. -/
def extension? (c : Certificate) (name : List UInt8) (f : Form α) : Option α :=
  match c.extensions.filter (·.name = name) with
  | [e] => f.ofBytes? e.value
  | _ => none

/-- A name of any sort; it holds the name if it is one of those of certificates. -/
def generalName : Form (Option Name) where
  accepts id := id.family = .context && id.number ≤ 8
  read? e :=
    let asText : Option (Option Name) := (e.raw? Kind.asciiText).map fun _ => none
    match e.identifier.number with
    | 0 =>
      (Form.sequence do
        let _ ← required .name
        let _ ← required (.inside 0 .any)
        return none).read? e
    | 1 | 2 | 6 => asText
    | 3 => (e.raw? Kind.sequence).map fun _ => none
    | 4 => (Form.inside 4 Name.form).read? e |>.map some
    | 5 =>
      (Form.sequence do
        let _ ← optional (.inside 0 (.choice directoryKinds))
        let _ ← required (.inside 1 (.choice directoryKinds))
        return none).read? e
    | 7 => (e.contentAs? Kind.octets).map fun _ => none
    | _ => (e.contentAs? Kind.name).map fun _ => none
where
  directoryKinds : List Nat :=
    [Kind.printableText, Kind.teletexText, Kind.basicText, Kind.wideText, Kind.utf8Text]

/-- Whose key signed: its identifier, its issuers, its serial number. -/
structure SignerKey where
  identifier : Option (List UInt8)
  issuers : List (Option Name)
  serial : Option (List UInt8)

/-- How it is said whose key signed. -/
def signerKey : Form SignerKey := .sequence do
  let identifier ← optional (.tagged 0 .octets)
  let issuers ← optional (.tagged 1 (.many Kind.sequence generalName))
  let serial ← optional (.tagged 2 (.content Kind.integer))
  return ⟨identifier, issuers.getD [], serial⟩

/-- Whether what a certificate says of the key that signed may be said of its own. -/
def signerMayBeOwn (c : Certificate) : Bool :=
  match c.extension? signerKeyName signerKey with
  | none => true
  | some s =>
    (match s.identifier, c.extension? ownKeyName .octets with
      | some a, some b => a = b
      | _, _ => true)
    && s.serial.all (· = c.serial)
    && (s.issuers.findSome? id).all (·.same c.issuer)

/-- Whether a certificate is signed with its own key, as far as can be seen. -/
def isSelfSigned (c : Certificate) : Bool :=
  c.subject.same c.issuer && c.signerMayBeOwn
    && match c.key, Signature.ofAlgorithm? c.declared with
      | some key, some signature => signature.fits key
      | _, _ => false

/-- The key of a certificate that can be shown. -/
def shownKey? (c : Certificate) : Option PublicKey := do
  let key ← c.key
  if !key.isStrong then none
  if !c.isSelfSigned && !(Signature.ofAlgorithm? c.algorithm).any (·.isStrong) then none
  return key

end Certificate

end EvictionGate.Tls
