import EvictionGate.Tls.ClientHello
import EvictionGate.Tls.PublicKey

/-!
# What a hello comes to

The gate agrees with a client on a version, a cipher, a group for a common secret and a
way to sign, or says why it cannot. The order in which it looks at these things decides
what it says when several are wrong.
-/

namespace EvictionGate.Tls

namespace ClientHello

/-! ## The version -/

/-- The versions that a client lists, if it lists any; no list is `some none`. -/
def versions? (h : ClientHello) : Option (Option (List Nat)) :=
  match h.content? HelloExtension.versions with
  | none => some none
  | some content => do
    let list ← (Field.counted 1).whole? content
    return some (← (Field.number 2).many? list)

/-- Whether a hello of the old form names a version that such a hello cannot be for. -/
def isMisnamed (h : ClientHello) : Bool :=
  h.isOld && h.version / 256 ≠ Version.oldest / 256

/-- The version that is agreed on. -/
def agreedVersion? (h : ClientHello) : Option Version := do
  if h.isMisnamed then none
  match ← h.versions? with
  | none => if Version.v12.number ≤ h.version then some .v12 else none
  | some listed =>
    if h.version ≤ Version.oldest then none
    else if listed.contains Version.v13.number then some .v13
    else if listed.contains Version.v12.number then some .v12
    else none

/-- The version in which a client is told that it cannot be spoken with: its own. -/
def refusedVersion (h : ClientHello) : Nat :=
  if h.isMisnamed then Version.v12.number else h.version

/-! ## Ciphers -/

/-- The number that stands among ciphers to say that a client has come down to a version
because a handshake in a newer one has failed. -/
def fallback : Nat := 0x5600

/-- The ciphers of TLS 1.3. -/
def ciphers13 : List Nat := [0x1301, 0x1302, 0x1303]

/-- The ciphers of TLS 1.2 for a key whose secrets come from a group of a curve. -/
def curveCiphers : PublicKey → List Nat
  | .rsa _ _ => [0xC02F, 0xC030, 0xCCA8]
  | .curve _ => [0xC02B, 0xC02C, 0xCCA9]

/-- The ciphers of TLS 1.2 for a key whose secrets come from a group that is fixed. -/
def fixedCiphers : PublicKey → List Nat
  | .rsa _ _ => [0x009E, 0x009F, 0xCCAA]
  | .curve _ => []

/-! ## Groups -/

/-- The group of the curve of keys. -/
def keyGroup : Nat := 0x0017

/-- The groups of curves. -/
def curveGroups : List Nat := [0x001D, keyGroup, 0x001E, 0x0018, 0x0019]

/-- The groups of TLS 1.3, in sets of which the earlier ones are preferred. -/
def groupSets : List (List Nat) :=
  [[0x11EC], [0x001D, keyGroup], [0x001E, 0x0018, 0x0019], [0x0100, 0x0101]]

/-- The bytes of a share of a group. -/
def shareSize : Nat → Nat
  | 0x11EC => 1216
  | 0x001D => 32
  | 0x0017 => 65
  | 0x001E => 56
  | 0x0018 => 97
  | 0x0019 => 133
  | 0x0100 => 256
  | _ => 384

/-- Whether a share can be used. -/
def isShare (group : Nat) (share : List UInt8) : Bool :=
  share.length = shareSize group && (group ≠ keyGroup || (Curve.Point.ofBytes? share).isSome)

/-- A group and a share. -/
def shareField : Field (Nat × List UInt8) := do
  return (← .number 2, ← .filled 2)

/-- The shares that a client sends, each of a group that it lists. -/
def shares (h : ClientHello) (content : List UInt8) : Except Alert (List (Nat × List UInt8)) :=
  match (Field.counted 2).whole? content with
  | none => .error .decodeError
  | some list =>
    let groups := h.numbersIn HelloExtension.groups
    if groups.isEmpty then .error .missingExtension
    else sharesUpTo list.length groups list
where
  /-- At most `count` shares, up to the end. -/
  sharesUpTo : Nat → List Nat → List UInt8 → Except Alert (List (Nat × List UInt8))
    | _, _, [] => .ok []
    | 0, _, _ => .error .decodeError
    | count + 1, groups, bs =>
      match shareField.run bs with
      | none => .error .decodeError
      | some (share, rest) =>
        if groups.contains share.1 then do return share :: (← sharesUpTo count groups rest)
        else .error .illegalParameter

/-- Looks at the shares. The first set of groups that a client knows decides; if it has
sent no share of that set it is asked for one. -/
def checkShares (h : ClientHello) : Except Alert Unit :=
  match h.content? HelloExtension.keyShares with
  | none => .ok ()
  | some content => do
    let shares ← h.shares content
    let known := h.numbersIn HelloExtension.groups
    match groupSets.find? fun set => set.any known.contains with
    | none => .ok ()
    | some set =>
      match set.findSome? fun g => shares.find? fun s => s.1 == g with
      | some (group, share) => HelloExtension.require .illegalParameter (isShare group share)
      | none => .ok ()

/-- Whether a group is agreed on, if the shares are sound. -/
def sharesGroup (h : ClientHello) : Bool :=
  groupSets.flatten.any (h.numbersIn HelloExtension.groups).contains

/-! ## Keys of an earlier session -/

/-- The mode of an earlier key that is used. -/
def keyMode : UInt8 := 1

/-- The keys of earlier sessions. None of them is known; they have to be well formed. -/
def checkSharedKeys (h : ClientHello) : Except Alert Unit := do
  let modes ← match h.content? HelloExtension.keyModes with
    | none => pure []
    | some content =>
      match (Field.filled 1).whole? content with
      | some modes => pure modes
      | none => .error .decodeError
  match h.content? HelloExtension.sharedKey with
  | some content =>
    if modes.contains keyMode then
      HelloExtension.demand .decodeError do
        let (list, _) ← (Field.counted 2).run content
        (Field.many? (do return (← Field.filled 2, ← Field.number 4))) list
  | none => return

/-! ## Signatures -/

/-- The ways to sign with a key. -/
def signatures : Version → PublicKey → List Nat
  | .v12, .rsa _ _ => [0x0804, 0x0805, 0x0806, 0x0401, 0x0501, 0x0601, 0x0301]
  | .v12, .curve _ => [0x0403, 0x0503, 0x0603, 0x0303]
  | .v13, .rsa _ _ => [0x0804, 0x0805, 0x0806]
  | .v13, .curve _ => [0x0403]

/-- The ways to sign with a key of any sort. -/
def knownSignatures : List Nat := [
  0x0301, 0x0303, 0x0401, 0x0403, 0x0501, 0x0503, 0x0601, 0x0603, 0x0804, 0x0805, 0x0806, 0x0807,
  0x0808, 0x0809, 0x080A, 0x080B, 0x081A, 0x081B, 0x081C, 0x0904, 0x0905, 0x0906]

/-- Whether a client knows one of some ways to sign. -/
def sharesAny (h : ClientHello) (ways : List Nat) : Bool :=
  ways.any (h.numbersIn HelloExtension.signatures).contains

/-! ## All together -/

/-- Whether points are written in the form that is spoken. -/
def knowsPoints (h : ClientHello) : Bool :=
  match h.content? HelloExtension.pointFormats with
  | none => true
  | some content => ((Field.counted 1).whole? content).any (·.contains 0)

/-- Whether there is a cipher of TLS 1.2. -/
def sharesCipher (h : ClientHello) (key : PublicKey) (ciphers : List Nat) : Bool :=
  let groups := h.numbersIn HelloExtension.groups
  let isKeyKnown := match key with
    | .rsa _ _ => true
    | .curve _ => groups.contains keyGroup && h.knowsPoints
  isKeyKnown
    && (((curveCiphers key).any ciphers.contains && curveGroups.any groups.contains)
      || (fixedCiphers key).any ciphers.contains)

/-- Looks at the compressions: none has to be among them. -/
def checkCompressions (h : ClientHello) : Except Alert Unit :=
  if h.compressions.isEmpty then .error .decodeError
  else HelloExtension.require .illegalParameter (h.compressions.contains 0)

/-- Looks at what a hello says after a version has been agreed on. -/
def check (h : ClientHello) (version : Version) (key : PublicKey) : Except Alert Unit := do
  let ciphers ← match h.ciphers with
    | some ciphers => pure ciphers
    | none => .error .decodeError
  HelloExtension.require .inappropriateFallback (version = .v13 || !ciphers.contains fallback)
  match version with
  | .v13 =>
    HelloExtension.require .handshakeFailure (ciphers13.any ciphers.contains)
    h.checkSharedKeys
  | .v12 =>
    let content := h.content? HelloExtension.extendedSecret
    HelloExtension.require .decodeError (content.all (·.isEmpty))
  h.checkCompressions
  HelloExtension.check version h.extensions HelloExtension.checks
  match version with
  | .v13 =>
    h.checkShares
    HelloExtension.check version h.extensions HelloExtension.lateChecks
    HelloExtension.require .missingExtension (h.content? HelloExtension.signatures).isSome
    match h.content? HelloExtension.keyShares with
    | none => .error .missingExtension
    | some _ => HelloExtension.require .handshakeFailure h.sharesGroup
  | .v12 => pure ()
  HelloExtension.require .missingExtension
    ((h.content? HelloExtension.sharedKey).isNone || (h.content? HelloExtension.keyModes).isSome)
  match version with
  | .v13 =>
    HelloExtension.require .handshakeFailure (h.sharesAny knownSignatures)
    HelloExtension.require .illegalParameter (h.compressions.length = 1)
    HelloExtension.require .handshakeFailure (h.sharesAny (signatures version key))
  | .v12 =>
    HelloExtension.require .handshakeFailure
      (h.sharesAny (signatures version key) && h.sharesCipher key ciphers)

/-- Why a hello comes to nothing, if it does. `isCut` says whether it ends within a
record. -/
def refusal? (h : ClientHello) (key : PublicKey) (isCut : Bool) : Option Refusal :=
  match h.agreedVersion? with
  | none =>
    let version := h.refusedVersion
    some (.told version (Alert.protocolVersion.within version))
  | some version =>
    if version = .v13 && isCut then some (.early .unexpectedMessage)
    else
      match h.check version key with
      | .ok _ => none
      | .error a => some (.early (a.within version.number))

end ClientHello

end EvictionGate.Tls
