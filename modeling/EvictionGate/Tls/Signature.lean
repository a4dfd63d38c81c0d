import EvictionGate.Tls.PublicKey

/-!
# Signatures

What is known of the algorithms that certificates are signed with: whose keys sign with
them, and how many bits of strength their digests have. A digest has half as many as it
has bits, or fewer if it is broken. An algorithm that leaves its digest open is as strong
as the key in the certificate.
-/

namespace EvictionGate.Tls

open EvictionGate.Asn1

/-- Whose keys an algorithm signs with. -/
inductive Signer
  | rsa
  | curve
  | other
  deriving DecidableEq, Repr

/-- What is known of an algorithm. -/
structure Signature where
  signer : Signer
  /-- The bits of strength; none if the digest is left open. -/
  strength : Option Nat
  deriving DecidableEq, Repr

namespace Signature

/-- The bits of strength that are enough. -/
def minStrength : Nat := 112

/-- Whether an algorithm is strong enough with a key that is. -/
def isStrong (s : Signature) : Bool :=
  s.strength.all (minStrength ≤ ·)

/-- Whether a key signs with an algorithm. -/
def fits (s : Signature) : PublicKey → Bool
  | .rsa _ _ => s.signer = .rsa
  | .curve _ => s.signer = .curve

/-- The algorithms of RSA with a padding that is always the same, by last number. -/
def rsaDigests : List (UInt8 × Nat) := [
  (2, 64), (3, 64), (4, 39), (5, 63), (11, 128), (12, 192), (13, 256), (14, 112), (15, 112),
  (16, 128)]

/-- The algorithms on curves, by last number. -/
def curveDigests : List (UInt8 × Nat) := [(1, 112), (2, 128), (3, 192), (4, 256)]

/-- Further algorithms on curves, which leave the digest open or have a broken one. -/
def curveOthers : List (UInt8 × Option Nat) := [(1, some 63), (2, none), (3, none)]

/-- The algorithms with newer digests, by last number. -/
def newerDigests : List (UInt8 × Signer × Nat) := [
  (1, .other, 112), (2, .other, 128), (3, .other, 192), (4, .other, 256),
  (5, .other, 112), (6, .other, 128), (7, .other, 192), (8, .other, 256),
  (9, .curve, 112), (10, .curve, 128), (11, .curve, 192), (12, .curve, 256),
  (13, .rsa, 112), (14, .rsa, 128), (15, .rsa, 192), (16, .rsa, 256)]

/-- Algorithms that are known by their whole names. -/
def named : List (List UInt8 × Signature) := [
  ([0x2B, 0x24, 0x03, 0x03, 0x01, 0x02], ⟨.rsa, some 80⟩),
  ([0x2B, 0x0E, 0x03, 0x02, 0x03], ⟨.rsa, some 39⟩),
  ([0x2B, 0x0E, 0x03, 0x02, 0x0E], ⟨.rsa, some 64⟩),
  ([0x2B, 0x0E, 0x03, 0x02, 0x0F], ⟨.rsa, some 0⟩),
  ([0x2B, 0x0E, 0x03, 0x02, 0x1D], ⟨.rsa, some 63⟩),
  ([0x2B, 0x65, 0x70], ⟨.other, some 128⟩),
  ([0x2B, 0x65, 0x71], ⟨.other, some 224⟩)]

/-- The beginning of the names of RSA algorithms. -/
def rsaNames : List UInt8 := [0x2A, 0x86, 0x48, 0x86, 0xF7, 0x0D, 0x01, 0x01]

/-- The beginning of the names of algorithms on curves. -/
def curveNames : List UInt8 := [0x2A, 0x86, 0x48, 0xCE, 0x3D, 0x04]

/-- The beginning of the names of algorithms with newer digests. -/
def newerNames : List UInt8 := [0x60, 0x86, 0x48, 0x01, 0x65, 0x03, 0x04, 0x03]

/-- The beginning of the names of the newer digests themselves. -/
def digestNames : List UInt8 := [0x60, 0x86, 0x48, 0x01, 0x65, 0x03, 0x04, 0x02]

/-- The newer digests, by last number. -/
def digests : List (UInt8 × Nat) := [
  (1, 128), (2, 192), (3, 256), (4, 112), (5, 112), (6, 128), (7, 112), (8, 128), (9, 192),
  (10, 256)]

/-- The last number of the RSA algorithm whose padding is random. -/
def randomPadding : UInt8 := 10

/-- What a name has after a beginning, if it has exactly one number. -/
def lastNumber? (beginning name : List UInt8) : Option UInt8 :=
  match beginning.isPrefixOf name, name.drop beginning.length with
  | true, [n] => some n
  | _, _ => none

/-- The older digests, by name. -/
def olderDigests : List (List UInt8 × Nat) := [
  ([0x2B, 0x0E, 0x03, 0x02, 0x1A], 64),
  ([0x2A, 0x86, 0x48, 0x86, 0xF7, 0x0D, 0x02, 0x05], 39)]

/-- The strength of a digest. -/
def digestStrength? (a : Algorithm) : Option Nat :=
  match olderDigests.lookup a.name with
  | some bits => some bits
  | none => (lastNumber? digestNames a.name).bind fun n => digests.lookup n

/-- The name of the function that random padding is masked with. -/
def maskName : List UInt8 := [0x2A, 0x86, 0x48, 0x86, 0xF7, 0x0D, 0x01, 0x01, 0x08]

/-- The strength of the digest where none is named. -/
def defaultStrength : Nat := 64

/-- What the algorithm with random padding is used with; it holds the strength. -/
def paddingForm : Form Nat := .sequence do
  let digest ← optional (.inside 0 Algorithm.form)
  let mask ← optional (.inside 1 Algorithm.form)
  let salt ← optional (.inside 2 .integer)
  let trailer ← optional (.inside 3 .integer)
  if let some a := mask then
    if a.name ≠ maskName then failure
    let _ ← digestStrength? (← Algorithm.form.get? (← a.parameters))
  if (salt.getD 20) < 0 || (trailer.getD 1) ≠ 1 then failure
  match digest with
  | none => return defaultStrength
  | some a => digestStrength? a

/-- What is known of an algorithm. -/
def ofAlgorithm? (a : Algorithm) : Option Signature :=
  match named.lookup a.name with
  | some s => some s
  | none =>
    match lastNumber? rsaNames a.name with
    | some n =>
      if n = randomPadding then
        some ⟨.rsa, a.parameters.bind paddingForm.get?⟩
      else (rsaDigests.lookup n).map fun bits => ⟨.rsa, some bits⟩
    | none =>
      match lastNumber? (curveNames ++ [3]) a.name with
      | some n => (curveDigests.lookup n).map fun bits => ⟨.curve, some bits⟩
      | none =>
        match lastNumber? curveNames a.name with
        | some n => (curveOthers.lookup n).map fun bits => ⟨.curve, bits⟩
        | none =>
          (lastNumber? newerNames a.name).bind fun n =>
            (newerDigests.lookup n).map fun (signer, bits) => ⟨signer, some bits⟩

end Signature

end EvictionGate.Tls
