import EvictionGate.Tls.PublicKey

/-!
# Private keys

A private key is written by itself, or with its algorithm around it. Either way the
public key that belongs to it is read: it stands in an RSA key; in a key on the curve it
may stand too, and else follows from the secret number.

Reading can be strict: then no secret number of an RSA key is longer than the modulus,
and the header around a key is short.
-/

namespace EvictionGate.Tls.PrivateKey

open EvictionGate.Asn1

/-- The version of RSA keys with more than two primes. -/
def manyPrimesVersion : Int := 1

/-- A prime after the first two, with what is computed from it. -/
def furtherPrime : Form Nat := .sequence do
  let prime ← required .magnitude
  let _ ← required .magnitude
  let _ ← required .magnitude
  return prime

/-- The length of a number in bits. -/
def bitLength (n : Nat) : Nat :=
  if n = 0 then 0 else n.log2 + 1

/-- An RSA key by itself. -/
def rsaForm (isStrict : Bool) : Form PublicKey := .sequence do
  let version ← required .word
  let modulus ← required .magnitude
  let exponent ← required .magnitude
  let power ← required .magnitude
  let primes := [← required .magnitude, ← required .magnitude]
  let powers := [← required .magnitude, ← required .magnitude]
  let inverse ← required .magnitude
  let further ← optional (.many Kind.sequence furtherPrime)
  if version = manyPrimesVersion && (further.getD []).isEmpty then failure
  let secrets := [power] ++ primes ++ powers ++ [inverse]
  if isStrict && secrets.any fun n => bitLength modulus < bitLength n then failure
  return .rsa modulus exponent

/-- A key on the curve by itself. The curve may be known from around it. -/
def curveForm (isKnown : Bool) : Form PublicKey := .sequence do
  let _ ← required .word
  let secret ← required .octets
  let named ← optional (.inside 0 Curve.choice)
  let written ← optional (.inside 1 .bits)
  if !named.getD isKnown then failure
  match written with
  | none => return .curve (Curve.publicPoint (number secret))
  | some bytes => return .curve (← Curve.Point.ofBytes? bytes)

/-- A remark on a key. -/
def remark : Form (List UInt8) := .sequence do
  let name ← required .name
  let _ ← required (.many Kind.set .any)
  return name

/-- The key of an algorithm. -/
def ofBytes? (isStrict : Bool) (a : Algorithm) (bytes : List UInt8) : Option PublicKey :=
  if a.name = PublicKey.rsaName then (rsaForm isStrict).ofBytes? bytes
  else if a.name = PublicKey.curveName && PublicKey.isOnCurve a then
    (curveForm true).ofBytes? bytes
  else none

/-- A key with its algorithm. The public key may stand behind it since version one. -/
def form (isStrict : Bool) : Form PublicKey := .sequence do
  let version ← required .integer
  let algorithm ← required Algorithm.form
  let key ← required .octets
  let _ ← optional (.tagged 0 (.many Kind.set remark))
  let written ← optional (.tagged 1 .bits)
  if !(version = 0 && written.isNone || version = 1) then failure
  ofBytes? isStrict algorithm key

/-- A form, with short headers only if reading is strict. -/
def headed (isStrict : Bool) (f : Form PublicKey) : Form PublicKey :=
  if isStrict then f.shortOf PublicKey.headerRoom else f

/-- A key with its algorithm. -/
def read? (isStrict : Bool) (data : List UInt8) : Option PublicKey :=
  (headed isStrict (form isStrict)).ofBytes? data

/-- An RSA key, by itself or with its algorithm. -/
def readRsa? (isStrict : Bool) (data : List UInt8) : Option PublicKey :=
  (headed isStrict (rsaForm isStrict)).ofBytes? data
    <|> (read? isStrict data).filter (·.isRsa)

/-- A key on the curve, by itself or with its algorithm. -/
def readCurve? (isStrict : Bool) (data : List UInt8) : Option PublicKey :=
  (headed isStrict (curveForm false)).ofBytes? data
    <|> (read? isStrict data).filter (!·.isRsa)

end EvictionGate.Tls.PrivateKey
