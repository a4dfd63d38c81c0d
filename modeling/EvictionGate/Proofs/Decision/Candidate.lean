import EvictionGate.Proofs.Decision.Stage

/-!
# Pods that are to be moved

A candidate is a pod with which a decision gets as far as its tracking object: it is there,
in the gate's care and not marked, and its tracking object is there too. As long as only
decisions about it run, the pod and the object are all that changes in the world
(`leaving`), and two truth values say how far things have got (`state`).
-/

namespace EvictionGate

/-- A pod `t` of `w` for which `Settings.selects` holds and `Settings.markerIsOn` does not, with
the tracking object that `TrackerKind.trackerOf?` finds for it. -/
structure Candidate (c : Settings) (t : Target) (w : World) where
  pod : Pod
  tracker : Tracker
  object : DynamicObject
  found : w.pods.get? t = some pod
  selected : c.selects pod = true
  unmarked : c.markerIsOn pod = false
  tracked : c.trackerKind.trackerOf? pod = some tracker
  present : w.tracking.get? ⟨c.trackerKind, tracker⟩ = some object

namespace Candidate

variable {c : Settings} {t : Target} {w : World} (s : Candidate c t w)

/-- The place of the tracking object. -/
def place : TrackingKey := ⟨c.trackerKind, s.tracker⟩

/-- Whether the tracking object has the flag `t.flagKey`. -/
def flagged : Bool := s.object.annotationAt? t.flagKey == some flagValue

/-- Whether `TrackerKind.recreatesPods` holds of the tracking object. -/
def eligible : Bool := c.trackerKind.recreatesPods s.object

/-- The world with `pod` and `o` in the places of the pod and of its tracking object. -/
def leaving (pod : Pod) (o : DynamicObject) : World :=
  ⟨w.pods.set t pod, w.tracking.set s.place o⟩

/-- The tracking object after `setFlag`. -/
def flaggedObject : DynamicObject := World.annotated s.object t.flagKey (some flagValue)

/-- The tracking object after `clearFlag`. -/
def clearedObject : DynamicObject := World.annotated s.object t.flagKey none

/-- The world with the pod after `setMarker` if `marked`, and the tracking object after `setFlag`
if `flagged`. -/
def state (marked flagged : Bool) : World :=
  s.leaving (if marked then c.marked s.pod else s.pod)
    (if flagged then s.flaggedObject else s.object)

/-- A pod has one tracking object. -/
theorem tracker_eq (s s' : Candidate c t w) : s.tracker = s'.tracker := by
  have same := Option.some.inj (s.found.symm.trans s'.found)
  exact Option.some.inj (s.tracked.symm.trans (same ▸ s'.tracked))

theorem flagOn_eq : w.flagOn ⟨c.trackerKind, s.tracker⟩ t.flagKey = s.flagged := by
  simp only [World.flagOn, s.present, Option.any_some, flagged]

theorem podFlagOn_eq : w.podFlagOn c t = s.flagged := by
  simp only [World.podFlagOn, s.found, Option.any_some, s.tracked, World.flagOn, s.present,
    flagged]

theorem eligible_eq : w.eligible c t = s.eligible := by
  simp only [World.eligible, s.found, Option.any_some, s.tracked, s.present, eligible]

/-- A pod for which a flag is due, or which has one, has a tracking object. -/
theorem exists_of_tracked {pod : Pod} {P : DynamicObject → Bool}
    (found : w.pods.get? t = some pod) (selected : c.selects pod = true)
    (unmarked : c.markerIsOn pod = false)
    (tracked : (c.trackerKind.trackerOf? pod).any (fun i =>
      (w.tracking.get? ⟨c.trackerKind, i⟩).any P) = true) : Nonempty (Candidate c t w) := by
  rw [Option.any_eq_true] at tracked
  obtain ⟨i, names, present⟩ := tracked
  rw [Option.any_eq_true] at present
  obtain ⟨o, present, -⟩ := present
  exact ⟨⟨pod, i, o, found, selected, unmarked, names, present⟩⟩

include s in
theorem markerOn_eq : w.markerOn c t = false := by
  simp only [World.markerOn, s.found, Option.any_some, s.unmarked]

/-! ## The worlds of a candidate -/

@[simp] theorem pod_leaving (pod : Pod) (o : DynamicObject) :
    (s.leaving pod o).pods.get? t = some pod :=
  Table.get?_set_self _ _ _

@[simp] theorem object_leaving (pod : Pod) (o : DynamicObject) :
    (s.leaving pod o).tracking.get? ⟨c.trackerKind, s.tracker⟩ = some o :=
  Table.get?_set_self _ _ _

theorem pod_state (marked flagged : Bool) : (s.state marked flagged).pods.get? t =
    some (if marked then c.marked s.pod else s.pod) :=
  s.pod_leaving _ _

theorem object_state (marked flagged : Bool) :
    (s.state marked flagged).tracking.get? ⟨c.trackerKind, s.tracker⟩ =
      some (if flagged then s.flaggedObject else s.object) :=
  s.object_leaving _ _

theorem leaving_self : s.leaving s.pod s.object = w := by
  unfold leaving
  have same : w.tracking.set s.place s.object = w.tracking := Table.set_eq_self s.present
  rw [Table.set_eq_self s.found, same]

theorem state_start : s.state false false = w := s.leaving_self

theorem after_patchTracker_leaving (pod : Pod) (o : DynamicObject) (key : String)
    (value : Option String) :
    (s.leaving pod o).after (.patchTracker c.trackerKind s.tracker key value) =
      s.leaving pod (World.annotated o key value) := by
  unfold World.after
  rw [World.answer_patchTracker _ (s.object_leaving pod o)]
  simp only [leaving, place, Table.set_set]

theorem after_setMarker_leaving (pod : Pod) (o : DynamicObject) :
    (s.leaving pod o).after (.setMarker c t) = s.leaving (c.marked pod) o := by
  unfold World.after
  rw [World.answer_patchPod _ (s.pod_leaving pod o)]
  simp only [leaving, Settings.marked, Table.set_set]

theorem annotated_flaggedObject :
    World.annotated s.flaggedObject t.flagKey (some flagValue) = s.flaggedObject := by
  simp only [flaggedObject, World.annotated, ObjectMeta.annotate_annotate]

theorem after_setFlag_state (marked flagged : Bool) :
    (s.state marked flagged).after (.setFlag c t s.tracker) = s.state marked true := by
  unfold state
  rw [after_patchTracker_leaving]
  cases flagged with
  | false => rfl
  | true =>
    rw [if_pos rfl, annotated_flaggedObject]

theorem after_setMarker_state (marked flagged : Bool) :
    (s.state marked flagged).after (.setMarker c t) = s.state true flagged := by
  unfold state
  rw [after_setMarker_leaving]
  cases marked with
  | false => rfl
  | true => simp only [if_pos, Settings.marked_marked]

theorem after_setFlag : w.after (.setFlag c t s.tracker) = s.state false true := by
  have acts := s.after_setFlag_state false false
  rwa [s.state_start] at acts

theorem after_setMarker : w.after (.setMarker c t) = s.state true false := by
  have acts := s.after_setMarker_state false false
  rwa [s.state_start] at acts

theorem flagOn_state (marked flagged : Bool) :
    (s.state marked flagged).flagOn ⟨c.trackerKind, s.tracker⟩ t.flagKey =
      (flagged || s.flagged) := by
  simp only [World.flagOn, state, object_leaving, Option.any_some]
  cases flagged with
  | false => rfl
  | true =>
    simp [flaggedObject, World.annotated, DynamicObject.annotationAt?]

theorem markerOn_state (marked flagged : Bool) :
    (s.state marked flagged).markerOn c t = marked := by
  simp only [World.markerOn, state, pod_leaving, Option.any_some]
  cases marked with
  | false => exact s.unmarked
  | true => exact c.markerIsOn_marked s.pod

theorem podFlagOn_state (marked flagged : Bool) :
    (s.state marked flagged).podFlagOn c t = (flagged || s.flagged) := by
  have same : c.trackerKind.trackerOf? (if marked then c.marked s.pod else s.pod) =
      some s.tracker := by
    cases marked with
    | false => exact s.tracked
    | true =>
      exact ((Pod.Alike.annotate s.pod _ _).trackerOf? _).trans s.tracked
  rw [← s.flagOn_state marked flagged]
  simp only [World.podFlagOn, state, pod_leaving, Option.any_some, same]

theorem podFlagOn_after_clearFlag (marked flagged : Bool) :
    ((s.state marked flagged).after (.clearFlag c t s.tracker)).podFlagOn c t = false := by
  have alike : s.pod.Alike (if marked then c.marked s.pod else s.pod) := by
    cases marked with
    | false => exact .refl s.pod
    | true => exact .annotate s.pod _ _
  simp only [World.podFlagOn, World.pods_after_patchTracker, pod_state, Option.any_some,
    alike.trackerOf?, s.tracked]
  rw [World.flagOn_after_patchTracker_self _ (s.object_state marked flagged)]
  rfl

/-- The candidate in the world after `clearFlag`. -/
def cleared : Candidate c t (s.leaving s.pod s.clearedObject) where
  pod := s.pod
  tracker := s.tracker
  object := s.clearedObject
  found := s.pod_leaving _ _
  selected := s.selected
  unmarked := s.unmarked
  tracked := s.tracked
  present := s.object_leaving _ _

theorem cleared_flagged : s.cleared.flagged = false := by
  simp [flagged, cleared, clearedObject, World.annotated, DynamicObject.annotationAt?]

theorem after_clearFlag : w.after (.clearFlag c t s.tracker) = s.cleared.state false false := by
  have acts := s.after_patchTracker_leaving s.pod s.object t.flagKey none
  rw [leaving_self] at acts
  rw [state_start, acts]
  rfl

/-! ## The turns of a decision about a candidate -/

section

variable (tracks : c.tracks = true)
include tracks

theorem ofPod_of_unmarked {pod : Pod} {i : Tracker} (selected : c.selects pod = true)
    (unmarked : c.markerIsOn pod = false) (tracked : c.trackerKind.trackerOf? pod = some i) :
    Stage.ofPod c pod = .look i := by
  simp [Stage.ofPod, selected, unmarked, tracks, tracked]

theorem turn_fetch (marked flagged : Bool) :
    Stage.fetch.turn c t none (s.state marked flagged) =
      (if marked then .ended (.deny .waitingForReschedule) else .look s.tracker,
        s.state marked flagged) := by
  rw [Stage.turn_fetch c t (s.pod_state marked flagged)]
  cases marked with
  | false =>
    rw [if_neg Bool.false_ne_true, if_neg Bool.false_ne_true,
      ofPod_of_unmarked tracks s.selected s.unmarked s.tracked]
  | true => simp [Stage.ofPod, s.selected]

end

theorem turn_look (unflagged : s.flagged = false) (marked : Bool) :
    (Stage.look s.tracker).turn c t none (s.state marked false) =
      (if s.eligible then .flag s.tracker else .mark none, s.state marked false) := by
  rw [Stage.turn_look c t (s.object_state marked false)]
  simp only [Stage.ofObject, if_neg Bool.false_ne_true, eligible]
  rw [flagged] at unflagged
  rw [unflagged, if_neg Bool.false_ne_true]
  rfl

theorem turn_look_flagged (found : s.flagged = true) :
    (Stage.look s.tracker).turn c t none w = (.unflag s.tracker, w) := by
  rw [Stage.turn_look c t s.present, Stage.ofObject]
  rw [flagged] at found
  rw [found, if_pos rfl]

theorem turn_unflag : (Stage.unflag s.tracker).turn c t none w =
    (.ended (.deny .podRescheduledWithSameName), s.cleared.state false false) := by
  rw [Stage.turn_unflag c t s.present, after_clearFlag]

theorem turn_flag (marked flagged : Bool) :
    (Stage.flag s.tracker).turn c t none (s.state marked flagged) =
      (.mark (some s.tracker), s.state marked true) := by
  rw [Stage.turn_flag c t (s.object_state marked flagged)]
  exact Prod.ext rfl (s.after_setFlag_state marked flagged)

theorem turn_mark (marked flagged : Bool) (i : Option Tracker) :
    (Stage.mark i).turn c t none (s.state marked flagged) =
      (.ended (.deny .rescheduleRequested), s.state true flagged) := by
  rw [Stage.turn_mark c t (s.pod_state marked flagged)]
  exact Prod.ext rfl (s.after_setMarker_state marked flagged)

/-! ## A whole decision about a candidate -/

section

variable (tracks : c.tracks = true)
include tracks

/-- A decision about a candidate without a flag flags it if that is due, and marks it. -/
theorem result_unflagged (unflagged : s.flagged = false) :
    (decideEviction c t).result (World.perform none) w =
      (.deny .rescheduleRequested, s.state true s.eligible) := by
  show (Stage.fetch.rest c t).result _ _ = _
  conv => lhs; rw [← s.state_start]
  rw [Stage.result_turn, s.turn_fetch tracks, if_neg Bool.false_ne_true, Stage.result_turn,
    s.turn_look unflagged]
  cases due : s.eligible with
  | false =>
    rw [if_neg Bool.false_ne_true, Stage.result_turn, s.turn_mark]
    rfl
  | true =>
    rw [if_pos rfl, Stage.result_turn, s.turn_flag, Stage.result_turn, s.turn_mark]
    rfl

/-- A decision about a candidate with a flag takes the flag back. -/
theorem result_flagged (found : s.flagged = true) :
    (decideEviction c t).result (World.perform none) w =
      (.deny .podRescheduledWithSameName, s.cleared.state false false) := by
  show (Stage.fetch.rest c t).result _ _ = _
  conv => lhs; rw [← s.state_start]
  rw [Stage.result_turn, s.turn_fetch tracks, if_neg Bool.false_ne_true, s.state_start,
    Stage.result_turn, s.turn_look_flagged found, Stage.result_turn, s.turn_unflag]
  rfl

end

end Candidate

/-! ## A sample world (used by the concrete runs in other modules) -/

namespace Sample

/-- A database pod. -/
def db : Target := ⟨"db-0", "prod"⟩

/-- The pod as its operator creates it. -/
def fresh : Pod :=
  ⟨some "db-0", some "prod", some [("app", "couchbase"), ("couchbase_cluster", "main")], none⟩

/-- A database cluster that brings its pods back under their names. -/
def cluster : DynamicObject where
  metadata := ⟨some "main", some "prod", none, none⟩
  data := [("spec", .object [("upgradeProcess", .string "InPlaceUpgrade")])]

/-- A pod, and the database cluster it belongs to. -/
def world : World := ⟨[(db, fresh)], [(⟨.couchbaseCluster, "main", some "prod"⟩, cluster)]⟩

end Sample

end EvictionGate
