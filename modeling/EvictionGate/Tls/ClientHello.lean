import EvictionGate.Tls.HelloExtension

/-!
# The first message of a client

A hello says which version a client speaks, which ciphers and compressions it knows, and
more in extensions. There is an old form without extensions, in which the number of a
cipher has three bytes, of which the first is zero.
-/

namespace EvictionGate.Tls

/-- The first message of a client. -/
structure ClientHello where
  isOld : Bool
  version : Nat
  /-- The numbers of ciphers; none if they are not whole or nothing is written. -/
  ciphers : Option (List Nat)
  compressions : List UInt8
  extensions : List HelloExtension
  deriving DecidableEq, Repr

namespace ClientHello

/-- The bytes of what a client has made up by chance. -/
def randomBytes : Nat := 32

/-- The most bytes of the name of a session. -/
def maxSession : Nat := 32

/-- Ciphers, each of so many bytes. A number that does not fit in two is of no cipher. -/
def ciphersOf? (size : Nat) (bs : List UInt8) : Option (List Nat) :=
  if bs.isEmpty then none
  else ((Field.number size).many? bs).map (·.filter (· < 65536))

/-- The fields of a message: version, ciphers, compressions, extensions. -/
def fields : Field (Nat × List UInt8 × List UInt8 × List UInt8) := do
  let version ← .number 2
  let _ ← .bytes randomBytes
  let session ← .counted 1
  if maxSession < session.length then failure
  let ciphers ← .counted 2
  let compressions ← .counted 1
  let extensions ← if (← get).isEmpty then pure [] else .counted 2
  return (version, ciphers, compressions, extensions)

/-- The message that bytes write. -/
def ofBytes (bs : List UInt8) : Except Alert ClientHello :=
  match fields.whole? bs with
  | none => .error .decodeError
  | some (version, ciphers, compressions, extensions) => do
    return {
      isOld := false, version, ciphers := ciphersOf? 2 ciphers, compressions
      extensions := ← HelloExtension.list extensions }

/-- The fields that an old form begins with: its kind, the version, and the sizes of the
ciphers, the name of a session and what is made up by chance. -/
def oldStart : Field (Nat × Nat × Nat × Nat) := do
  let _ ← .number 1
  return (← .number 2, ← .number 2, ← .number 2, ← .number 2)

/-- The message that bytes write in the old form. -/
def ofOldBytes (bs : List UInt8) : Except Alert ClientHello :=
  match oldStart.run bs with
  | none => .error .decodeError
  | some ((version, ciphers, session, chance), rest) =>
    if maxSession < session then .error .illegalParameter
    else if rest.length ≠ ciphers + session + chance then .error .decodeError
    else .ok {
      isOld := true, version, ciphers := ciphersOf? 3 (rest.take ciphers)
      compressions := [0], extensions := [] }

/-- The content of an extension. -/
def content? (h : ClientHello) (number : Nat) : Option (List UInt8) :=
  HelloExtension.content? h.extensions number

/-- The numbers that an extension lists; none if it is not there or is not well formed. -/
def numbersIn (h : ClientHello) (number : Nat) : List Nat :=
  ((h.content? number).bind HelloExtension.numbers?).getD []

end ClientHello

end EvictionGate.Tls
