import EvictionGate.Tls.Version

/-!
# Handshakes

What a client that keeps to the rules and the gate agree on before the first request.
-/

namespace EvictionGate.Tls

/-- What a client begins with. -/
structure Hello where
  /-- The protocols it would speak, by name. -/
  protocols : List String
  /-- The newest version it speaks. -/
  newest : Version
  deriving DecidableEq, Repr

/-- What client and gate have agreed on. -/
structure Session where
  protocol : Option String
  version : Version
  deriving DecidableEq, Repr

/-- The one protocol that the gate speaks. -/
def spokenProtocol : String := "http/1.1"

/-- What the gate agrees on with a client. If the client offers no protocol that is
spoken, they go on without naming one. -/
def Hello.agreed (h : Hello) : Session where
  protocol := if h.protocols.contains spokenProtocol then some spokenProtocol else none
  version := h.newest

/-- How long a handshake may take, in milliseconds. -/
def handshakeTimeout : Nat := 10000

end EvictionGate.Tls
