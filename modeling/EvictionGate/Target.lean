/-!
# Eviction targets
-/

namespace EvictionGate

/-- The pod an eviction is aimed at. -/
structure Target where
  name : String
  ns : String
  deriving DecidableEq, Repr

end EvictionGate
