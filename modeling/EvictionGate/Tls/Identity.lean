import EvictionGate.GateError
import EvictionGate.Time.Span
import EvictionGate.Tls.Certificate
import EvictionGate.Tls.Pem
import EvictionGate.Tls.PrivateKey

/-!
# The gate's identity

A private key and a chain of certificates, the first of which is for that key. The
key is looked at first, then the chain, then whether they belong together.

A key file is searched twice. The first search is strict about keys and passes over
whatever holds none; the second takes the first block whose label is that of a private
key, and no other.
-/

namespace EvictionGate.Tls

/-- Why there is no TLS. -/
inductive Fault
  | privateKey
  | certificateChain
  | mismatch
  | handshakeFailed
  | handshakeTimedOut (deadline : Time.Span)
  deriving DecidableEq, Repr

namespace Fault

/-- The wording of a fault. -/
def message : Fault → String
  | .privateKey => "Failed to load private key"
  | .certificateChain => "Failed to load certificate chain"
  | .mismatch => "Certificate and key mismatch"
  | .handshakeFailed => "TLS handshake failed"
  | .handshakeTimedOut deadline => "TLS handshake timed out after " ++ deadline.text

/-- The fault as an error of the gate. -/
def toError (f : Fault) : GateError :=
  .tls f.message

end Fault

/-! ## The key -/

/-- The labels under which a key may stand, and how it is read. -/
def keyReaders : List (String × (List UInt8 → Option PublicKey)) := [
  ("PRIVATE KEY", PrivateKey.read? true),
  ("ENCRYPTED PRIVATE KEY", PrivateKey.read? true),
  ("RSA PRIVATE KEY", PrivateKey.readRsa? true),
  ("RSA PUBLIC KEY", PrivateKey.readRsa? true),
  ("EC PRIVATE KEY", PrivateKey.readCurve? true),
  ("EC PARAMETERS", PrivateKey.readCurve? true)]

/-- The most bytes of headers that are passed over. -/
def maxPassedHeaders : Nat := 10

/-- The first key that a file holds, whatever else is in it. -/
def anyKey? : List Pem.Find → Option PublicKey
  | [] => none
  | .block b :: rest =>
    if maxPassedHeaders < b.headers.length then none
    else
      match keyReaders.find? fun r => Text.bytes r.1 = b.label with
      | none => anyKey? rest
      | some (_, read) =>
        match read b.data with
        | some key => some key
        | none => anyKey? rest
  | _ :: rest => anyKey? rest

/-- How the data of a block is read as a key, if its label is that of a private one. The
word for the sort of key may be in small letters here. -/
def labelledKey? (label : List UInt8) : Option (List UInt8 → Option PublicKey) :=
  let ending := Text.bytes " PRIVATE KEY"
  if label = Text.bytes "PRIVATE KEY" then some (PrivateKey.read? false)
  else if ending.isSuffixOf label then
    let sort := (label.take (label.length - ending.length)).map fun b =>
      if 0x61 ≤ b && b ≤ 0x7A then b - 0x20 else b
    if sort = Text.bytes "RSA" then some (PrivateKey.readRsa? false)
    else if sort = Text.bytes "EC" then some (PrivateKey.readCurve? false)
    else if sort = Text.bytes "DSA" || label = Text.bytes "ENCRYPTED PRIVATE KEY"
        || label = Text.bytes "ANY PRIVATE KEY" then
      some fun _ => none
    else none
  else none

/-- The key in the first block with the label of one. -/
def labelledKeyIn? : List Pem.Find → Option PublicKey
  | .block b :: rest =>
    match labelledKey? b.label with
    | some read => if b.headers.isEmpty then read b.data else none
    | none => labelledKeyIn? rest
  | _ => none

/-- The public key that belongs to the private key in a file. -/
def privateKey? (file : List UInt8) : Option PublicKey :=
  let finds := Pem.finds file
  anyKey? finds <|> labelledKeyIn? finds

/-! ## The chain -/

/-- The labels of a server's own certificate. -/
def ownLabels : List String := ["CERTIFICATE", "X509 CERTIFICATE", "TRUSTED CERTIFICATE"]

/-- The labels of the certificates after it. -/
def chainLabels : List String := ["CERTIFICATE", "X509 CERTIFICATE"]

/-- Whether what is found after the server's own certificate is sound, up to where
nothing is found, and the certificates can be shown. -/
def isChain : List Pem.Find → Bool
  | [] => true
  | .nothing :: _ => true
  | .broken :: _ => false
  | .block b :: rest =>
    (if chainLabels.any fun l => Text.bytes l = b.label then
      b.headers.isEmpty && ((Certificate.ofBytes? b.data).bind (·.shownKey?)).isSome
    else true) && isChain rest

/-- The public key of the first certificate of a chain. -/
def certificateKey? (file : List UInt8) : Option PublicKey := do
  let (data, rest) ← Pem.first? ownLabels (Pem.finds file)
  let key ← (← Certificate.ofTrustedBytes? data).shownKey?
  if isChain rest then some key else none

/-- The public key of the server that shows these files; a file may be missing. -/
def identity (cert key : Option (List UInt8)) : Except Fault PublicKey :=
  match key.bind privateKey? with
  | none => .error .privateKey
  | some own =>
    match cert.bind certificateKey? with
    | none => .error .certificateChain
    | some certified => if own = certified then .ok own else .error .mismatch

end EvictionGate.Tls
