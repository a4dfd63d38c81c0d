/-!
# Watching for a change

A change is told to all who watch for it. What is watched has a version, which every change
raises, and a watcher remembers the version that it has seen last. So a change is not lost on a
watcher that looks only later, and a copy of a watcher has seen what that one has.
-/

namespace EvictionGate.Serving

/-- What is watched. -/
structure Watched where
  version : Nat
  deriving DecidableEq, Repr

/-- One that watches. -/
structure Watcher where
  seen : Nat
  deriving DecidableEq, Repr

namespace Watched

/-- Nothing has changed yet. -/
def start : Watched := ⟨0⟩

def change (w : Watched) : Watched := ⟨w.version + 1⟩

end Watched

namespace Watcher

/-- A watcher from the start. -/
def start : Watcher := ⟨0⟩

/-- Looks for a change. If there has been one, it is seen now. -/
def look? (r : Watcher) (w : Watched) : Option Watcher :=
  if r.seen = w.version then none else some ⟨w.version⟩

end Watcher

end EvictionGate.Serving
