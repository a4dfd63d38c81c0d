import EvictionGate.Proofs.Cluster.Home

/-!
# What a decision sees of a world

A decision about a pod reads the pod, the data of a tracking object and the pod's own flag
on it, and patches nothing but the pod and that flag. So two worlds that agree on these are
the same to it, and decisions about different pods do not get in each other's view.

Results:
1. `World.bareAt_after`, `World.annotationAt?_after_patchTracker_self`,
   `World.annotationAt?_after_of_ne`: what a call does to an object and its annotations.
2. `World.SeenAlike.after`: worlds that are alike to a decision stay alike under its calls.
3. `World.seenAlike_after_other`: the calls of a decision about another pod are out of view.
-/

namespace EvictionGate

/-- The object without its annotations. -/
def DynamicObject.bare (o : DynamicObject) : DynamicObject :=
  { o with metadata := { o.metadata with annotations := none } }

/-- Whether an object has its annotations changed or not does not change the rest of it. -/
@[simp] theorem DynamicObject.bare_annotated (o : DynamicObject) (key : String)
    (value : Option String) : (World.annotated o key value).bare = o.bare := by
  cases value <;> rfl

/-- Whether pods come back does not depend on annotations. -/
theorem TrackerKind.recreatesPods_bare (k : TrackerKind) (o : DynamicObject) :
    k.recreatesPods o.bare = k.recreatesPods o := by
  cases k <;> rfl

namespace World

/-- The tracking object at a place, without its annotations. -/
def bareAt (w : World) (place : TrackingKey) : Option DynamicObject :=
  (w.tracking.get? place).map DynamicObject.bare

/-- An annotation of the tracking object at a place. -/
def annotationAt? (w : World) (place : TrackingKey) (key : String) : Option String :=
  (w.tracking.get? place).bind (·.annotationAt? key)

/-- `w.Same v`: the same pods, and the same tracking objects up to the order in which their
annotations are listed, so that every read answers the same. -/
structure Same (w v : World) : Prop where
  pods : ∀ t, w.pods.get? t = v.pods.get? t
  objects : ∀ place, w.bareAt place = v.bareAt place
  annotations : ∀ place key, w.annotationAt? place key = v.annotationAt? place key

theorem flagOn_eq_annotationAt? (w : World) (place : TrackingKey) (key : String) :
    w.flagOn place key = (w.annotationAt? place key == some flagValue) := by
  unfold flagOn annotationAt?
  cases w.tracking.get? place with
  | none => rfl
  | some o => rfl

/-! ## What calls do to objects and their annotations -/

section

variable (w : World)

/-- No call changes more of a tracking object than its annotations. -/
@[simp] theorem bareAt_after (call : Call) (place : TrackingKey) :
    (w.after call).bareAt place = w.bareAt place := by
  unfold bareAt
  cases call with
  | getPod t => rw [after_of_read w rfl]
  | getTracker k i => rw [after_of_read w rfl]
  | patchPod t key value => rw [tracking_after_patchPod]
  | patchTracker k i key value =>
    rw [tracking_after_patchTracker]
    split
    · cases w.tracking.get? place with
      | none => rfl
      | some o => exact congrArg some (o.bare_annotated key value)
    · rfl

/-- A patch of an object that is there decides the annotation. -/
theorem annotationAt?_after_patchTracker_self (k : TrackerKind) (i : Tracker) (key : String)
    (value : Option String) : (w.after (.patchTracker k i key value)).annotationAt? ⟨k, i⟩ key =
      (w.bareAt ⟨k, i⟩).bind fun _ => value := by
  unfold annotationAt? bareAt
  rw [tracking_after_patchTracker, if_pos rfl]
  cases w.tracking.get? ⟨k, i⟩ with
  | none => rfl
  | some o => simp [annotated, DynamicObject.annotationAt?]

/-- An annotation that is not patched stays as it is. -/
theorem annotationAt?_after_of_ne {call : Call} {place : TrackingKey} {key : String}
    (other : ∀ value, call ≠ .patchTracker place.kind place.tracker key value) :
    (w.after call).annotationAt? place key = w.annotationAt? place key := by
  unfold annotationAt?
  cases call with
  | getPod t => rw [after_of_read w rfl]
  | getTracker k i => rw [after_of_read w rfl]
  | patchPod t key value => rw [tracking_after_patchPod]
  | patchTracker k i key' value =>
    rw [tracking_after_patchTracker]
    split
    · next at_place =>
      subst at_place
      have ne : key ≠ key' := fun same => other value (by rw [same])
      cases w.tracking.get? ⟨k, i⟩ with
      | none => rfl
      | some o => exact o.metadata.annotationAt?_annotate_of_ne value ne
    · rfl

/-- A pod that is not patched stays as it is. -/
theorem pod_after_of_ne {call : Call} {t : Target}
    (other : ∀ key value, call ≠ .patchPod t key value) :
    (w.after call).pods.get? t = w.pods.get? t := by
  cases call with
  | getPod u => rw [after_of_read w rfl]
  | getTracker k i => rw [after_of_read w rfl]
  | patchTracker k i key value => rw [pods_after_patchTracker]
  | patchPod u key value =>
    refine w.pod_after_patchPod_of_ne key value fun same => ?_
    subst same
    exact other key value rfl

/-- A patch of a pod depends on the pod alone. -/
theorem pod_after_patchPod_congr {w v : World} {t : Target}
    (same : w.pods.get? t = v.pods.get? t) (key value : String) :
    (w.after (.patchPod t key value)).pods.get? t =
      (v.after (.patchPod t key value)).pods.get? t := by
  unfold after
  cases found : v.pods.get? t with
  | none =>
    rw [found] at same
    rw [answer_patchPod_absent w same, answer_patchPod_absent v found, found]
    exact same
  | some pod =>
    rw [found] at same
    rw [answer_patchPod w same, answer_patchPod v found, Table.get?_set_self, Table.get?_set_self]

end

end World

/-! ## What belongs to a pod -/

/-- `t.Owns c place key`: the pod `t` may have its flag under `key` on the tracking object at
`place`, which is of the kind in use and carries the flags of the namespace of `t`. -/
structure Target.Owns (c : Settings) (t : Target) (place : TrackingKey) (key : String) :
    Prop where
  kind : place.kind = c.trackerKind
  ns : t.ns = c.trackerKind.homeOf place.tracker
  key : key = t.flagKey

/-- No flag belongs to two pods. -/
theorem Target.Owns.unique {c : Settings} {t u : Target} {place : TrackingKey} {key : String}
    (first : t.Owns c place key) (second : u.Owns c place key) : t = u :=
  Target.eq_of_flagKey (first.ns.trans second.ns.symm) (first.key.symm.trans second.key)

/-- `Concerns c t call`: a decision about `t` may make the call. It reads the pod or a tracking
object of its namespace, or patches the pod, or `t.flagKey` on such an object. -/
inductive Call.Concerns (c : Settings) (t : Target) : Call → Prop
  | getPod : Concerns c t (.getPod t)
  | getTracker {i : Tracker} : t.ns = c.trackerKind.homeOf i →
      Concerns c t (.getTracker c.trackerKind i)
  | patchTracker {i : Tracker} {value : Option String} : t.ns = c.trackerKind.homeOf i →
      Concerns c t (.patchTracker c.trackerKind i t.flagKey value)
  | patchPod {key value : String} : Concerns c t (.patchPod t key value)

namespace World

/-- `SeenAlike c t w v`: the worlds agree in the pod `t`, in the tracking objects without their
annotations, and in the annotations that `t` has by `Target.Owns`. A call that `Call.Concerns` the
pod has one reply in both. -/
structure SeenAlike (c : Settings) (t : Target) (w v : World) : Prop where
  pod : w.pods.get? t = v.pods.get? t
  objects : ∀ place, w.bareAt place = v.bareAt place
  flag : ∀ place key, t.Owns c place key → w.annotationAt? place key = v.annotationAt? place key

namespace SeenAlike

variable {c : Settings} {t : Target} {w v u : World}

theorem refl (w : World) : SeenAlike c t w w := ⟨rfl, fun _ => rfl, fun _ _ _ => rfl⟩

theorem symm (alike : SeenAlike c t w v) : SeenAlike c t v w :=
  ⟨alike.pod.symm, fun place => (alike.objects place).symm,
    fun place key owns => (alike.flag place key owns).symm⟩

theorem trans (first : SeenAlike c t w v) (second : SeenAlike c t v u) : SeenAlike c t w u :=
  ⟨first.pod.trans second.pod, fun place => (first.objects place).trans (second.objects place),
    fun place key owns => (first.flag place key owns).trans (second.flag place key owns)⟩

/-- Worlds that are alike to a decision stay alike under its calls. -/
theorem after (alike : SeenAlike c t w v) {call : Call} (concerns : call.Concerns c t) :
    SeenAlike c t (w.after call) (v.after call) := by
  refine ⟨?_, fun place => ?_, fun place key owns => ?_⟩
  · cases concerns with
    | patchPod => exact pod_after_patchPod_congr alike.pod _ _
    | getPod | getTracker | patchTracker =>
      rw [w.pod_after_of_ne (fun _ _ => by simp), v.pod_after_of_ne (fun _ _ => by simp)]
      exact alike.pod
  · rw [bareAt_after, bareAt_after]
    exact alike.objects place
  · by_cases touched : ∃ value, call = .patchTracker place.kind place.tracker key value
    · obtain ⟨value, rfl⟩ := touched
      rw [annotationAt?_after_patchTracker_self, annotationAt?_after_patchTracker_self,
        alike.objects]
    · have other value := fun same => touched ⟨value, same⟩
      rw [w.annotationAt?_after_of_ne other, v.annotationAt?_after_of_ne other]
      exact alike.flag place key owns

/-- The reply to a call other than a read of an object is the same in worlds that are alike. -/
theorem answer (alike : SeenAlike c t w v) {call : Call} (concerns : call.Concerns c t)
    (other : ∀ k i, call ≠ .getTracker k i) : (w.answer call).1 = (v.answer call).1 := by
  have pod := alike.pod
  cases concerns with
  | getPod =>
    cases found : v.pods.get? t with
    | none =>
      rw [found] at pod
      rw [answer_getPod_absent w pod, answer_getPod_absent v found]
    | some old =>
      rw [found] at pod
      rw [answer_getPod w pod, answer_getPod v found]
  | getTracker => exact absurd rfl (other _ _)
  | @patchTracker i value home =>
    have object := alike.objects ⟨c.trackerKind, i⟩
    unfold bareAt at object
    cases present : v.tracking.get? ⟨c.trackerKind, i⟩ with
    | none =>
      rw [present, Option.map_none, Option.map_eq_none_iff] at object
      rw [answer_patchTracker_absent w object, answer_patchTracker_absent v present]
    | some o =>
      rw [present, Option.map_some, Option.map_eq_some_iff] at object
      obtain ⟨o', present', -⟩ := object
      rw [answer_patchTracker w present', answer_patchTracker v present]
  | patchPod =>
    cases found : v.pods.get? t with
    | none =>
      rw [found] at pod
      rw [answer_patchPod_absent w pod, answer_patchPod_absent v found]
    | some old =>
      rw [found] at pod
      rw [answer_patchPod w pod, answer_patchPod v found]

theorem flagOn (alike : SeenAlike c t w v) {i : Tracker} (home : t.ns = c.trackerKind.homeOf i) :
    w.flagOn ⟨c.trackerKind, i⟩ t.flagKey = v.flagOn ⟨c.trackerKind, i⟩ t.flagKey := by
  rw [flagOn_eq_annotationAt?, flagOn_eq_annotationAt?, alike.flag _ _ ⟨rfl, home, rfl⟩]

theorem markerOn (alike : SeenAlike c t w v) : w.markerOn c t = v.markerOn c t := by
  unfold World.markerOn
  rw [alike.pod]

theorem podFlagOn (alike : SeenAlike c t w v) (home : w.PodsAtHome) :
    w.podFlagOn c t = v.podFlagOn c t := by
  unfold World.podFlagOn
  rw [← alike.pod]
  cases found : w.pods.get? t with
  | none => rfl
  | some pod =>
    rw [Option.any_some, Option.any_some]
    cases tracked : c.trackerKind.trackerOf? pod with
    | none => rfl
    | some i =>
      refine alike.flagOn ?_
      rw [← TrackerKind.ns_eq_homeOf tracked, home t pod found]

end SeenAlike

/-- The calls of a decision leave other pods alone. -/
theorem pod_after_concerns {c : Settings} {t u : Target} (other : t ≠ u) (w : World)
    {call : Call} (concerns : call.Concerns c u) :
    (w.after call).pods.get? t = w.pods.get? t := by
  refine w.pod_after_of_ne ?_
  rintro key value rfl
  cases concerns
  exact other rfl

/-- The calls of a decision leave all annotations alone but the flag of its pod. -/
theorem annotationAt?_after_concerns {c : Settings} {u : Target} {place : TrackingKey}
    {key : String} (free : ¬ u.Owns c place key) (w : World) {call : Call}
    (concerns : call.Concerns c u) :
    (w.after call).annotationAt? place key = w.annotationAt? place key := by
  refine w.annotationAt?_after_of_ne ?_
  rintro value rfl
  obtain ⟨k, i⟩ := place
  generalize at_kind : k = kind at concerns
  cases concerns with
  | patchTracker home => exact free ⟨at_kind, home, rfl⟩

/-- The calls of a decision about another pod are out of view. -/
theorem seenAlike_after_other {c : Settings} {t u : Target} (other : t ≠ u) (w : World)
    {call : Call} (concerns : call.Concerns c u) : SeenAlike c t (w.after call) w :=
  ⟨pod_after_concerns other w concerns, w.bareAt_after call, fun _ _ owns =>
    annotationAt?_after_concerns (fun owned => other (owns.unique owned)) w concerns⟩

end World

end EvictionGate
