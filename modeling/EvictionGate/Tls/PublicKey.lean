import EvictionGate.Asn1.Form
import EvictionGate.Tls.Curve

/-!
# Public keys

What a private key and a certificate have to agree on. A certificate holds the public
key that it certifies; a private key holds or determines the one that belongs to it.

A key on the curve names the curve or describes it; a key on another is not read.
-/

namespace EvictionGate.Tls

open EvictionGate.Asn1

/-- An algorithm, and what it is used with. -/
structure Algorithm where
  name : List UInt8
  parameters : Option Element
  deriving DecidableEq

/-- How algorithms are written. -/
def Algorithm.form : Form Algorithm := .sequence do
  return ⟨← required .name, ← optional .any⟩

/-- A public key. -/
inductive PublicKey
  | rsa (modulus exponent : Nat)
  | curve (point : Curve.Point)
  deriving DecidableEq

namespace Curve

/-- The registered name of the curve. -/
def registeredName : List UInt8 := [0x2A, 0x86, 0x48, 0xCE, 0x3D, 0x03, 0x01, 0x07]

/-- The name of the fields of a prime. -/
def primeFieldName : List UInt8 := [0x2A, 0x86, 0x48, 0xCE, 0x3D, 0x01, 0x01]

/-- A description of a curve; it holds whether it is this one. -/
def description : Form Bool := .sequence do
  let _ ← required .word
  let isField ← required <| .sequence do
    let kind ← required .name
    let size ← required .any
    return kind = primeFieldName && (Form.integer.get? size).any (· = (prime : Int))
  let isEquation ← required <| .sequence do
    let a ← required .octets
    let b ← required .octets
    let _ ← optional .bits
    return number a = linear && number b = constant
  let origin ← required .octets
  let count ← required .integer
  let cofactor ← optional .integer
  return isField && isEquation && Point.ofBytes? origin = some base && count = (order : Int)
    && cofactor.all fun n => n = 0 || n = 1

/-- How a key names its curve; it holds whether it is this one. -/
def choice : Form Bool where
  accepts id := Form.name.accepts id || description.accepts id || id = universal Kind.null
  read? e :=
    if Form.name.accepts e.identifier then (Form.name.read? e).map (· = registeredName)
    else if description.accepts e.identifier then description.read? e
    else ((Form.content Kind.null).read? e).map fun _ => false

end Curve

namespace PublicKey

/-- Whether a key is one of RSA. -/
def isRsa : PublicKey → Bool
  | .rsa _ _ => true
  | .curve _ => false

/-- The name of RSA keys. -/
def rsaName : List UInt8 := [0x2A, 0x86, 0x48, 0x86, 0xF7, 0x0D, 0x01, 0x01, 0x01]

/-- The name of keys on curves. -/
def curveName : List UInt8 := [0x2A, 0x86, 0x48, 0xCE, 0x3D, 0x02, 0x01]

/-- An RSA key by itself. -/
def rsaForm : Form PublicKey := .sequence do
  return .rsa (← required .magnitude) (← required .magnitude)

/-- Whether what a key on a curve is used with is the one curve. -/
def isOnCurve (a : Algorithm) : Bool :=
  match a.parameters with
  | none => false
  | some e =>
    e.identifier != universal Kind.null && (Curve.choice.get? e).any id

/-- The key that the bytes of a key for an algorithm write. -/
def ofBytes? (a : Algorithm) (bytes : List UInt8) : Option PublicKey :=
  if a.name = rsaName then rsaForm.ofBytes? bytes
  else if a.name = curveName && isOnCurve a then (Curve.Point.ofBytes? bytes).map .curve
  else none

/-- The bytes that the header of a key has to be short of. -/
def headerRoom : Nat := 8

/-- How keys are written with their algorithm. A key that cannot be read is none, and so
is one whose header is long. -/
def form : Form (Option PublicKey) :=
  let written : Form (Option PublicKey) := .sequence do
    let algorithm ← required Algorithm.form
    return ofBytes? algorithm (← required .bits)
  ⟨written.accepts, fun e =>
    (written.read? e).map fun key => if e.headerSize < headerRoom then key else none⟩

/-- The bits of the least modulus that is strong enough. -/
def minModulusBits : Nat := 1963

/-- Whether a key is strong enough to be shown. -/
def isStrong : PublicKey → Bool
  | .rsa modulus _ => minModulusBits ≤ modulus.log2 + 1
  | .curve _ => true

end PublicKey

end EvictionGate.Tls
