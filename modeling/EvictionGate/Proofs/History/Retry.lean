import EvictionGate.Proofs.Cluster.View
import EvictionGate.Proofs.History.Chronicle
import Mathlib.Logic.Relation

/-!
# Evictions that are tried again

A decision that fails is tried again. If it has set a flag, it has taken the flag back, so
that of any number of failed attempts at most one thing is left: a value that the flag's key
had, and that did not count as a flag, is gone. A decision that gets through sets the flag
anew in just these cases, so nothing of the attempts is to be seen after it.

Results:
1. `FailedAttempt.leaves`: what a failed attempt leaves.
2. `FailedAttempt.leaves_all`: what any number of them leave.
3. `retry_without_trace`: the decision after them goes as if they had not been.
-/

namespace EvictionGate

/-- `FailedAttempt c t w v`: in `w` a decision about `t` has been answered with the code 500, with
any fates of its calls except that a `clearFlag` after a failed `setMarker` has not failed too,
and has left `v`. -/
inductive FailedAttempt (c : Settings) (t : Target) (w : World) : World → Prop
  | intro {fates : Nat → Fate} {timeout : Nat} {d : Denial} :
      (decideWithin c t fates timeout w).1 = some (.deny d) → d.code = 500 →
      (∀ i, (Call.setMarker c t, false) ∈ (decideWithin c t fates timeout w).2.sent →
        (Call.clearFlag c t i, false) ∉ (decideWithin c t fates timeout w).2.sent) →
      FailedAttempt c t w (decideWithin c t fates timeout w).2.world

namespace Candidate

variable {c : Settings} {t : Target} {w : World} (s : Candidate c t w)

theorem unique (s s' : Candidate c t w) : s = s' := by
  have tracker := s.tracker_eq s'
  have pod := Option.some.inj (s.found.symm.trans s'.found)
  have object := Option.some.inj (s.present.symm.trans (tracker ▸ s'.present))
  obtain ⟨_, _, _, _, _, _, _, _⟩ := s
  cases tracker
  cases pod
  cases object
  rfl

/-- The tracking object after `setFlag` and `clearFlag`. -/
def undoneObject : DynamicObject := World.annotated s.flaggedObject t.flagKey none

/-- The world after `setFlag` and `clearFlag`. -/
def undoneWorld : World := s.leaving s.pod s.undoneObject

/-- The candidate in the world after `setFlag` and `clearFlag`. -/
def undone : Candidate c t s.undoneWorld where
  pod := s.pod
  tracker := s.tracker
  object := s.undoneObject
  found := s.pod_leaving _ _
  selected := s.selected
  unmarked := s.unmarked
  tracked := s.tracked
  present := s.object_leaving _ _

theorem undone_due (due : s.Due) : s.undone.Due where
  tracks := due.tracks
  unflagged := by
    simp [flagged, undone, undoneObject, World.annotated, DynamicObject.annotationAt?]
  eligible := by
    -- whether a flag is due does not depend on annotations
    have bare : s.undoneObject.bare = s.object.bare := by
      simp only [undoneObject, flaggedObject, DynamicObject.bare_annotated]
    have same : c.trackerKind.recreatesPods s.undoneObject =
        c.trackerKind.recreatesPods s.object := by
      rw [← TrackerKind.recreatesPods_bare, bare, TrackerKind.recreatesPods_bare]
    exact same.trans due.eligible

theorem leaving_undone (pod : Pod) (o : DynamicObject) :
    s.undone.leaving pod o = s.leaving pod o := by
  simp only [leaving, undone, undoneWorld, place, Table.set_set]

/-- To set the flag and to take it back once more changes nothing. -/
theorem undoneWorld_undone : s.undone.undoneWorld = s.undoneWorld := by
  have object : s.undone.undoneObject = s.undoneObject := by
    simp only [undoneObject, flaggedObject, undone, World.annotated, ObjectMeta.annotate_undone]
  rw [undoneWorld, leaving_undone, object]
  rfl

theorem replay_undone :
    w.replay (readings c t s.tracker ++ [(.setFlag c t s.tracker, true),
      (.setMarker c t, false), (.clearFlag c t s.tracker, true)]) = s.undoneWorld := by
  rw [Situation.replay_flagged, World.replay_failed, World.replay_acted, World.replay_nil]
  exact s.after_patchTracker_leaving _ _ _ _

/-- Once it is flagged and marked, nothing is left of the flag that was set and taken
back. -/
theorem same_state_undone : (s.undone.state true true).Same (s.state true true) := by
  have world : s.undone.state true true = s.leaving (c.marked s.pod) s.undone.flaggedObject :=
    s.leaving_undone _ _
  have objects (place : TrackingKey) : (s.undone.state true true).tracking.get? place =
      if place = s.place then some s.undone.flaggedObject else w.tracking.get? place := by
    rw [world]
    split
    · next h => exact h ▸ s.object_leaving _ _
    · next h => exact Table.get?_set_of_ne _ _ h
  have objects' (place : TrackingKey) : (s.state true true).tracking.get? place =
      if place = s.place then some s.flaggedObject else w.tracking.get? place := by
    split
    · next h => exact h ▸ s.object_state true true
    · next h => exact Table.get?_set_of_ne _ _ h
  refine ⟨fun u => by rw [world]; rfl, fun place => ?_, fun place key => ?_⟩
  · unfold World.bareAt
    rw [objects, objects']
    split
    · simp [flaggedObject, undone, undoneObject]
    · rfl
  · unfold World.annotationAt?
    rw [objects, objects']
    split
    · by_cases h : key = t.flagKey
      · subst h
        simp [flaggedObject, World.annotated, DynamicObject.annotationAt?]
      · simp [flaggedObject, undone, undoneObject, World.annotated, DynamicObject.annotationAt?,
          ObjectMeta.annotationAt?_annotate_of_ne _ _ h]
    · rfl

end Candidate

namespace FailedAttempt

variable {c : Settings} {t : Target} {w v : World}

/-- A failed attempt leaves the world as it was, or has set a flag that was due and taken it
back. -/
theorem leaves (failed : FailedAttempt c t w v) :
    v = w ∨ ∃ s : Candidate c t w, s.Due ∧ v = s.undoneWorld := by
  obtain @⟨fates, timeout, d, answered, failure, undone⟩ := failed
  have passed := passage c t w fates timeout
  generalize decideWithin c t fates timeout w = o at passed answered undone ⊢
  cases passed with
  | dropped => cases answered
  | ended sit =>
    obtain rfl := Option.some.inj answered
    generalize verdict : Verdict.deny d = u at sit
    cases sit with
    | moved | requested =>
      cases verdict
      cases failure
    | idle _ _ quiet => exact .inl (w.replay_of_quiet quiet)
    | undone s acted due =>
      cases acted with
      | false => exact absurd (by simp) (undone s.tracker (by simp))
      | true => exact .inr ⟨s, due, s.replay_undone⟩

/-- So do any number of failed attempts. -/
theorem leaves_all (failed : Relation.ReflTransGen (FailedAttempt c t) w v) :
    v = w ∨ ∃ s : Candidate c t w, s.Due ∧ v = s.undoneWorld := by
  induction failed with
  | refl => exact .inl rfl
  | tail _ last ih =>
    rcases ih with rfl | ⟨s, due, rfl⟩
    · exact last.leaves
    · rcases last.leaves with rfl | ⟨s', due', rfl⟩
      · exact .inr ⟨s, due, rfl⟩
      · obtain rfl := s'.unique s.undone
        exact .inr ⟨s, due, s.undoneWorld_undone⟩

end FailedAttempt

/-- After any number of attempts that have failed and have taken back the flags they had set,
a decision to which no call fails comes to the verdict that it would have come to without
them, and leaves the same pods and the same tracking objects with the same annotations. -/
theorem retry_without_trace (c : Settings) (t : Target) (w v : World)
    (failed : Relation.ReflTransGen (FailedAttempt c t) w v) :
    ((decideEviction c t).result (World.perform none) v).1 =
        ((decideEviction c t).result (World.perform none) w).1 ∧
      ((decideEviction c t).result (World.perform none) v).2.Same
        ((decideEviction c t).result (World.perform none) w).2 := by
  rcases FailedAttempt.leaves_all failed with rfl | ⟨s, due, rfl⟩
  · exact ⟨rfl, fun _ => rfl, fun _ => rfl, fun _ _ => rfl⟩
  · have first := s.result_unflagged due.tracks due.unflagged
    have again := s.undone.result_unflagged due.tracks (s.undone_due due).unflagged
    rw [due.eligible] at first
    rw [(s.undone_due due).eligible] at again
    rw [first, again]
    exact ⟨rfl, s.same_state_undone⟩

namespace Sample

/-- The world with a value other than `flagValue` under `db.flagKey`. -/
def misflagged : World :=
  world.after (.patchTracker .couchbaseCluster ⟨"main", some "prod"⟩ db.flagKey (some "false"))

/-- The world after a decision of which call number `n` fails. -/
def afterFailure (n : Nat) (w : World) : World :=
  (decideWithin .default db (prompt (some n)) 0 w).2.world

/-- The marker of the pod cannot be set, and the next time the flag cannot be set. -/
theorem failedAttempts : Relation.ReflTransGen (FailedAttempt .default db) misflagged
    (afterFailure 2 (afterFailure 3 misflagged)) := by
  have kept {sent : List (Call × Bool)}
      (clears : (sent.all fun e => e.2 || e.1.operation != .clearTracker) = true) (i : Tracker) :
      (Call.clearFlag .default db i, false) ∉ sent := by
    intro mem
    cases List.all_eq_true.mp clears _ mem
  refine .tail (.single (.intro (d := .failedToAddMarker) (by decide) rfl fun i _ => ?_))
    (.intro (d := .failedToAddFlag) (by decide) rfl fun i _ => ?_)
  · exact kept (by decide) i
  · exact kept (by decide) i

end Sample

/-- The attempts have lost the value that the flag's key had, and it does not matter. -/
theorem retry_without_trace_of_misflagged :
    Sample.misflagged.annotationAt? ⟨.couchbaseCluster, "main", some "prod"⟩ Sample.db.flagKey =
        some "false" ∧
      (Sample.afterFailure 2 (Sample.afterFailure 3 Sample.misflagged)).annotationAt?
        ⟨.couchbaseCluster, "main", some "prod"⟩ Sample.db.flagKey = none ∧
      ((decideEviction .default Sample.db).result (World.perform none)
        (Sample.afterFailure 2 (Sample.afterFailure 3 Sample.misflagged))).1 =
          .deny .rescheduleRequested ∧
      ((decideEviction .default Sample.db).result (World.perform none)
        (Sample.afterFailure 2 (Sample.afterFailure 3 Sample.misflagged))).2.Same
        ((decideEviction .default Sample.db).result (World.perform none) Sample.misflagged).2 := by
  obtain ⟨answers, leaves⟩ := retry_without_trace .default Sample.db Sample.misflagged
    (Sample.afterFailure 2 (Sample.afterFailure 3 Sample.misflagged)) Sample.failedAttempts
  exact ⟨by decide, by decide, answers.trans (by decide), leaves⟩

end EvictionGate
