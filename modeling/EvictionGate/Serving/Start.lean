import EvictionGate.Serving.Listener
import EvictionGate.Tls.Identity

/-!
# Beginning to serve

The gate serves once it has an identity and an address. The identity is looked at
first.
-/

namespace EvictionGate.Serving

/-- Why the gate does not serve. -/
inductive StartFault
  | tls (fault : Tls.Fault)
  | addressInUse (address : String)
  deriving DecidableEq, Repr

namespace StartFault

/-- What went wrong, and why. -/
def messages : StartFault → List String
  | .tls fault => ["Failed to prepare TLS acceptor", fault.toError.message]
  | .addressInUse address =>
    ["Failed to bind listener at " ++ address, "Address already in use (os error 98)"]

end StartFault

/-- Begins to serve under an address with the identity that two files hold; a file may
be missing. The public key is the one that clients are shown. -/
def start (cert key : Option (List UInt8)) (address : String) (isFree : Bool) :
    Except StartFault (Tls.PublicKey × Log) :=
  match Tls.identity cert key with
  | .error fault => .error (.tls fault)
  | .ok key =>
    if isFree then .ok (key, [Listener.startLine address]) else .error (.addressInUse address)

end EvictionGate.Serving
