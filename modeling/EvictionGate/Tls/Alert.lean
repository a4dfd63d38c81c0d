import EvictionGate.Tls.Version

/-!
# Alerts

When the gate gives up a handshake it tells the client why, if the client speaks TLS at
all. The alert is a record of the version that has been agreed on, that of TLS 1.2 before.
-/

namespace EvictionGate.Tls

/-- Why the gate gives up a handshake. -/
inductive Alert
  | unexpectedMessage
  | recordOverflow
  | handshakeFailure
  | illegalParameter
  | decodeError
  | protocolVersion
  | inappropriateFallback
  | missingExtension
  | unrecognizedName
  deriving DecidableEq, Repr

namespace Alert

/-- The number of an alert. -/
def number : Alert → UInt8
  | .unexpectedMessage => 10
  | .recordOverflow => 22
  | .handshakeFailure => 40
  | .illegalParameter => 47
  | .decodeError => 50
  | .protocolVersion => 70
  | .inappropriateFallback => 86
  | .missingExtension => 109
  | .unrecognizedName => 112

/-- The alert that stands for another in a version that does not have it. -/
def within (version : Nat) : Alert → Alert
  | .protocolVersion => if version = Version.oldest then .handshakeFailure else .protocolVersion
  | .missingExtension =>
    if version < Version.v13.number then .handshakeFailure else .missingExtension
  | a => a

end Alert

/-- How a handshake is given up. -/
inductive Refusal
  /-- Without a word. -/
  | silent
  | told (version : Nat) (alert : Alert)
  deriving DecidableEq, Repr

namespace Refusal

/-- A handshake is given up before a version has been agreed on. -/
def early (a : Alert) : Refusal := .told Version.v12.number a

/-- What a client is sent. -/
def bytes : Refusal → List UInt8
  | .silent => []
  | .told version alert =>
    let shown := Version.shown version
    [21, UInt8.ofNat (shown / 256), UInt8.ofNat (shown % 256), 0, 2, 2, alert.number]

end Refusal

end EvictionGate.Tls
