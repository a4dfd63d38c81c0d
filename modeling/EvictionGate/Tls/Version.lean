/-!
# Versions
-/

namespace EvictionGate.Tls

/-- The versions of TLS that are spoken. -/
inductive Version
  | v12
  | v13
  deriving DecidableEq, Repr

namespace Version

/-- The name of a version. -/
def name : Version → String
  | .v12 => "TLSv1.2"
  | .v13 => "TLSv1.3"

/-- The number of a version. -/
def number : Version → Nat
  | .v12 => 0x0303
  | .v13 => 0x0304

/-- The number of a version that only has alerts of its own: it does not know that a
version can be refused. -/
def oldest : Nat := 0x0300

/-- The number that records show for a version: TLS 1.3 is not shown. -/
def shown (number : Nat) : Nat :=
  if number = v13.number then v12.number else number

end Version

end EvictionGate.Tls
