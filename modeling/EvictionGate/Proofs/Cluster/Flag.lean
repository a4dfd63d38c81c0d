import EvictionGate.Cluster.Memory
import EvictionGate.Settings

/-!
# Flags and markers in a world

What a pod's flag and a pod's marker are in a world, and what each call does to them.
A patch of a tracking object touches one annotation of one object and no pod; a patch of
a pod touches one pod and no tracking object.
-/

namespace EvictionGate

/-- The pod with the annotation `c.marker` set. -/
def Settings.marked (c : Settings) (pod : Pod) : Pod :=
  { pod with metadata := pod.metadata.annotate c.marker.key (some c.marker.value) }

namespace Settings

@[simp] theorem markerIsOn_marked (c : Settings) (pod : Pod) :
    c.markerIsOn (c.marked pod) = true := by
  simp [markerIsOn, marked, Pod.annotationAt?]

@[simp] theorem selects_marked (c : Settings) (pod : Pod) :
    c.selects (c.marked pod) = c.selects pod := by
  simp [selects, marked, Pod.labelAt?, ObjectMeta.labelAt?]

@[simp] theorem marked_marked (c : Settings) (pod : Pod) :
    c.marked (c.marked pod) = c.marked pod := by
  simp [marked, ObjectMeta.annotate_annotate]

end Settings

/-- `pod.Akin other`: the two have one namespace and the same labels. -/
structure Pod.Akin (pod other : Pod) : Prop where
  ns : other.metadata.ns = pod.metadata.ns
  labels : other.metadata.labels = pod.metadata.labels

/-- `pod.Alike other`: the two are `Pod.Akin` and have one name, so they differ in their
annotations at most. -/
structure Pod.Alike (pod other : Pod) : Prop extends Pod.Akin pod other where
  name : other.metadata.name = pod.metadata.name

/-- A pod's tracking object depends on its labels and its namespace alone. -/
theorem Pod.Akin.trackerOf? {pod other : Pod} (h : pod.Akin other) (k : TrackerKind) :
    k.trackerOf? other = k.trackerOf? pod := by
  cases k <;>
    simp only [TrackerKind.trackerOf?, Pod.ns?, labelAt?, ObjectMeta.labelAt?, h.labels, h.ns]

/-- Whether a pod is in the gate's care depends on its labels alone. -/
theorem Pod.Akin.selects {pod other : Pod} (h : pod.Akin other) (c : Settings) :
    c.selects other = c.selects pod := by
  simp only [Settings.selects, labelAt?, ObjectMeta.labelAt?, h.labels]

theorem Pod.Akin.trans {first second third : Pod} (h : first.Akin second)
    (k : second.Akin third) : first.Akin third :=
  ⟨k.ns.trans h.ns, k.labels.trans h.labels⟩

namespace Pod.Alike

theorem refl (pod : Pod) : pod.Alike pod := ⟨⟨rfl, rfl⟩, rfl⟩

theorem trans {first second third : Pod} (h : first.Alike second) (k : second.Alike third) :
    first.Alike third :=
  ⟨h.toAkin.trans k.toAkin, k.name.trans h.name⟩

theorem annotate (pod : Pod) (key : String) (value : Option String) :
    pod.Alike ⟨pod.metadata.annotate key value⟩ :=
  ⟨⟨pod.metadata.ns_annotate key value, pod.metadata.labels_annotate key value⟩,
    pod.metadata.name_annotate key value⟩

end Pod.Alike

namespace World

/-- Whether the tracking object `k` is there and has the annotation `key` with the value
`flagValue`. -/
def flagOn (w : World) (k : TrackingKey) (key : String) : Bool :=
  (w.tracking.get? k).any fun o => o.annotationAt? key == some flagValue

/-- Whether the pod `t` is there and has the marker by `Settings.markerIsOn`. -/
def markerOn (w : World) (c : Settings) (t : Target) : Bool :=
  (w.pods.get? t).any c.markerIsOn

/-- Whether the pod `t` is there and `flagOn` holds of `t.flagKey` on the object that
`TrackerKind.trackerOf?` finds for it. -/
def podFlagOn (w : World) (c : Settings) (t : Target) : Bool :=
  (w.pods.get? t).any fun pod =>
    (c.trackerKind.trackerOf? pod).any fun i => w.flagOn ⟨c.trackerKind, i⟩ t.flagKey

/-- Whether the pod `t` is there and `TrackerKind.recreatesPods` holds of its tracking object.
Only then does a decision set the flag before the marker. -/
def eligible (w : World) (c : Settings) (t : Target) : Bool :=
  (w.pods.get? t).any fun pod =>
    (c.trackerKind.trackerOf? pod).any fun i =>
      (w.tracking.get? ⟨c.trackerKind, i⟩).any c.trackerKind.recreatesPods

/-- The world after a call that does not fail, as `World.answer` leaves it. -/
def after (w : World) (call : Call) : World := (w.answer call).2

/-- The reply to a call and the world after it. With a failure the reply is that error and the
world stays as it is; else both are those of `World.answer`. -/
def attempt (failure : Option GateError) (call : Call) (w : World) : Reply call × World :=
  match failure with
  | some e => (.error e, w)
  | none => w.answer call

/-- `attempt` as `Decision.run` takes it, with an empty log. -/
def perform (failure : Option GateError) (call : Call) (w : World) : Reply call × Log × World :=
  ((w.attempt failure call).1, [], (w.attempt failure call).2)

variable (w : World)

/-! ## What the calls answer -/

theorem answer_getPod {t : Target} {pod : Pod} (found : w.pods.get? t = some pod) :
    w.answer (.getPod t) = (.ok pod, w) := by
  simp only [answer, found]

theorem answer_getPod_absent {t : Target} (absent : w.pods.get? t = none) :
    w.answer (.getPod t) = (.error notFound, w) := by
  simp only [answer, absent]

theorem answer_getTracker {k : TrackerKind} {i : Tracker} {o : DynamicObject}
    (present : w.tracking.get? ⟨k, i⟩ = some o) :
    w.answer (.getTracker k i) = (.ok o, w) := by
  simp only [answer, present]

theorem answer_getTracker_absent {k : TrackerKind} {i : Tracker}
    (absent : w.tracking.get? ⟨k, i⟩ = none) :
    w.answer (.getTracker k i) = (.error notFound, w) := by
  simp only [answer, absent]

theorem answer_patchTracker {k : TrackerKind} {i : Tracker} {o : DynamicObject}
    (present : w.tracking.get? ⟨k, i⟩ = some o) (key : String) (value : Option String) :
    w.answer (.patchTracker k i key value) =
      (.ok (), { w with tracking := w.tracking.set ⟨k, i⟩ (annotated o key value) }) := by
  simp only [answer, present]

theorem answer_patchTracker_absent {k : TrackerKind} {i : Tracker}
    (absent : w.tracking.get? ⟨k, i⟩ = none) (key : String) (value : Option String) :
    w.answer (.patchTracker k i key value) = (.error notFound, w) := by
  simp only [answer, absent]

theorem answer_patchPod {t : Target} {pod : Pod} (found : w.pods.get? t = some pod)
    (key value : String) :
    w.answer (.patchPod t key value) =
      (.ok (), ⟨w.pods.set t ⟨pod.metadata.annotate key (some value)⟩, w.tracking⟩) := by
  simp only [answer, found]

theorem answer_patchPod_absent {t : Target} (absent : w.pods.get? t = none)
    (key value : String) : w.answer (.patchPod t key value) = (.error notFound, w) := by
  simp only [answer, absent]

theorem isOk_getPod {t : Target} {pod : Pod} (found : w.pods.get? t = some pod) :
    (w.answer (.getPod t)).1.isOk = true := by
  rw [answer_getPod w found]
  rfl

theorem isOk_getTracker {k : TrackerKind} {i : Tracker} {o : DynamicObject}
    (present : w.tracking.get? ⟨k, i⟩ = some o) :
    (w.answer (.getTracker k i)).1.isOk = true := by
  rw [answer_getTracker w present]
  rfl

theorem isOk_patchTracker {k : TrackerKind} {i : Tracker} {o : DynamicObject}
    (present : w.tracking.get? ⟨k, i⟩ = some o) (key : String) (value : Option String) :
    (w.answer (.patchTracker k i key value)).1.isOk = true := by
  rw [answer_patchTracker w present]
  rfl

theorem isOk_patchPod {t : Target} {pod : Pod} (found : w.pods.get? t = some pod)
    (key value : String) : (w.answer (.patchPod t key value)).1.isOk = true := by
  rw [answer_patchPod w found]
  rfl

/-! ## What the calls leave alone -/

/-- A call that only reads has no effect. -/
theorem after_of_read {call : Call} (reads : call.isPatch = false) : w.after call = w := by
  unfold after answer
  cases call with
  | getPod t => dsimp only; split <;> rfl
  | getTracker k i => dsimp only; split <;> rfl
  | patchTracker k i key value => cases reads
  | patchPod t key value => cases reads

/-- A call that fails has no effect. -/
theorem attempt_world (failure : Option GateError) (call : Call) :
    (w.attempt failure call).2 =
      if (w.attempt failure call).1.isOk then w.after call else w := by
  cases failure with
  | some e => rfl
  | none =>
    unfold attempt after
    -- a call about what is not there is refused, and leaves the world as it was
    cases call with
    | getPod t =>
      cases h : w.pods.get? t with
      | none => rw [answer_getPod_absent w h]; rfl
      | some pod => rw [answer_getPod w h]; rfl
    | getTracker k i =>
      cases h : w.tracking.get? ⟨k, i⟩ with
      | none => rw [answer_getTracker_absent w h]; rfl
      | some o => rw [answer_getTracker w h]; rfl
    | patchTracker k i key value =>
      cases h : w.tracking.get? ⟨k, i⟩ with
      | none => rw [answer_patchTracker_absent w h]; rfl
      | some o => rw [answer_patchTracker w h]; rfl
    | patchPod t key value =>
      cases h : w.pods.get? t with
      | none => rw [answer_patchPod_absent w h]; rfl
      | some pod => rw [answer_patchPod w h]; rfl

/-- A patch of a tracking object touches no pod. -/
@[simp] theorem pods_after_patchTracker (k : TrackerKind) (i : Tracker) (key : String)
    (value : Option String) : (w.after (.patchTracker k i key value)).pods = w.pods := by
  unfold after
  cases h : w.tracking.get? ⟨k, i⟩ with
  | none => rw [answer_patchTracker_absent w h]
  | some o => rw [answer_patchTracker w h]

/-- A patch of a pod touches no tracking object. -/
@[simp] theorem tracking_after_patchPod (t : Target) (key value : String) :
    (w.after (.patchPod t key value)).tracking = w.tracking := by
  unfold after
  cases h : w.pods.get? t with
  | none => rw [answer_patchPod_absent w h]
  | some pod => rw [answer_patchPod w h]

/-- A patch of a pod touches no other pod. -/
theorem pod_after_patchPod_of_ne {t other : Target} (key value : String) (h : other ≠ t) :
    (w.after (.patchPod t key value)).pods.get? other = w.pods.get? other := by
  unfold after
  cases hp : w.pods.get? t with
  | none => rw [answer_patchPod_absent w hp]
  | some pod =>
    rw [answer_patchPod w hp]
    exact Table.get?_set_of_ne _ _ h

/-- Setting the marker marks the pod that is there. -/
theorem pod_after_mark {t : Target} {pod : Pod} (found : w.pods.get? t = some pod)
    (c : Settings) :
    (w.after (.patchPod t c.marker.key c.marker.value)).pods.get? t = some (c.marked pod) := by
  simp [after, answer_patchPod w found, Settings.marked]

/-- An object that is patched stays where it is. -/
theorem tracking_after_patchTracker (k : TrackerKind) (i : Tracker) (key : String)
    (value : Option String) (place : TrackingKey) :
    (w.after (.patchTracker k i key value)).tracking.get? place =
      if place = ⟨k, i⟩ then (w.tracking.get? place).map (annotated · key value)
      else w.tracking.get? place := by
  unfold after
  cases h : w.tracking.get? ⟨k, i⟩ with
  | none =>
    rw [answer_patchTracker_absent w h]
    split
    · next hp => simp [hp, h]
    · rfl
  | some o =>
    rw [answer_patchTracker w h]
    split
    · next hp => simp [hp, h]
    · next hp => exact Table.get?_set_of_ne _ _ hp

/-- No call brings a tracking object or takes one away. -/
theorem isSome_tracking_after (call : Call) (place : TrackingKey) :
    ((w.after call).tracking.get? place).isSome = (w.tracking.get? place).isSome := by
  cases call with
  | getPod t => rw [after_of_read w rfl]
  | getTracker k i => rw [after_of_read w rfl]
  | patchTracker k i key value =>
    rw [tracking_after_patchTracker]
    split
    · exact Option.isSome_map
    · rfl
  | patchPod t key value => rw [tracking_after_patchPod]

/-- A call changes at most the annotations of a pod. -/
theorem pod_after {t : Target} {pod : Pod} (found : w.pods.get? t = some pod) (call : Call) :
    ∃ pod', (w.after call).pods.get? t = some pod' ∧ pod.Alike pod' := by
  cases call with
  | getPod other => exact ⟨pod, by rw [after_of_read w rfl, found], .refl pod⟩
  | getTracker k i => exact ⟨pod, by rw [after_of_read w rfl, found], .refl pod⟩
  | patchTracker k i key value => exact ⟨pod, by rw [pods_after_patchTracker, found], .refl pod⟩
  | patchPod other key value =>
    by_cases h : t = other
    · subst h
      refine ⟨_, ?_, .annotate pod key (some value)⟩
      unfold after
      rw [answer_patchPod w found]
      exact Table.get?_set_self _ _ _
    · exact ⟨pod, by rw [pod_after_patchPod_of_ne w key value h, found], .refl pod⟩

/-- No call brings a pod. -/
theorem pod_after_absent {t : Target} (absent : w.pods.get? t = none) (call : Call) :
    (w.after call).pods.get? t = none := by
  cases call with
  | getPod other => rw [after_of_read w rfl, absent]
  | getTracker k i => rw [after_of_read w rfl, absent]
  | patchTracker k i key value => rw [pods_after_patchTracker, absent]
  | patchPod other key value =>
    by_cases h : t = other
    · subst h
      unfold after
      rw [answer_patchPod_absent w absent, absent]
    · rw [pod_after_patchPod_of_ne w key value h, absent]

/-! ## Flags under patches -/

/-- A patch of the flag decides it, if its object is there. -/
theorem flagOn_after_patchTracker_self {k : TrackerKind} {i : Tracker} {o : DynamicObject}
    (present : w.tracking.get? ⟨k, i⟩ = some o) (key : String) (value : Option String) :
    (w.after (.patchTracker k i key value)).flagOn ⟨k, i⟩ key = (value == some flagValue) := by
  simp [flagOn, tracking_after_patchTracker, present, annotated, DynamicObject.annotationAt?]

/-- A patch under one key of one object leaves all other flags alone. -/
theorem flagOn_after_patchTracker_of_ne {k : TrackerKind} {i : Tracker} {key other : String}
    {place : TrackingKey} (value : Option String) (h : place ≠ ⟨k, i⟩ ∨ other ≠ key) :
    (w.after (.patchTracker k i key value)).flagOn place other = w.flagOn place other := by
  unfold flagOn
  rw [tracking_after_patchTracker]
  split
  · next hp =>
    have hkey : other ≠ key := h.resolve_left (absurd hp)
    cases w.tracking.get? place with
    | none => rfl
    | some o =>
      simp [annotated, DynamicObject.annotationAt?,
        ObjectMeta.annotationAt?_annotate_of_ne _ _ hkey]
  · rfl

theorem flagOn_after_patchPod (t : Target) (key value : String) (place : TrackingKey)
    (other : String) :
    (w.after (.patchPod t key value)).flagOn place other = w.flagOn place other := by
  simp [flagOn]

end World

end EvictionGate
