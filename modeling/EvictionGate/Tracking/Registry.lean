import EvictionGate.Log
import EvictionGate.Text.Blank
import EvictionGate.Tracking.Tracker

/-!
# The registry of trackers

An operator names a kind of tracker in any letter case and with blanks around it.
A name that nobody knows gives the kind to fall back on, and a warning.
-/

namespace EvictionGate

/-- The kinds of tracker that can be chosen. -/
structure Registry where
  kinds : List TrackerKind
  fallback : TrackerKind
  deriving DecidableEq, Repr

namespace Registry

/-- The kinds that the gate knows. -/
def standard : Registry := ⟨[.homeNamespace, .couchbaseCluster], .couchbaseCluster⟩

/-- The kind with a name. -/
def get? (r : Registry) (name : String) : Option TrackerKind :=
  r.kinds.find? fun t => Text.sameLetters t.name (Text.trim name)

/-- The names of the kinds. -/
def names (r : Registry) : List String :=
  r.kinds.map TrackerKind.name

/-- The warning about a name that nobody knows. -/
def unknown (r : Registry) (name : String) : LogLine where
  level := .warn
  text := "Unknown tracking resource type '" ++ name ++ "' (known: "
    ++ String.intercalate ", " r.names ++ "), defaulting to " ++ r.fallback.name

/-- The kind with a name, or else the one to fall back on. -/
def choose (r : Registry) (name : String) : TrackerKind :=
  (r.get? name).getD r.fallback

/-- The warning that comes with choosing a kind by name. -/
def warnings (r : Registry) (name : String) : Log :=
  if (r.get? name).isSome then [] else [r.unknown name]

end Registry

end EvictionGate
