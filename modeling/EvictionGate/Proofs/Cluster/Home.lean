import EvictionGate.Proofs.Cluster.Flag

/-!
# Where pods are at home

A pod is stored under the name and the namespace that it bears. Its tracking object then
tells its namespace, whatever kind of object that is; so two pods never share a flag,
although the key of a flag does not tell where the namespace ends and the name begins.

Results:
1. `TrackerKind.ns_eq_homeOf`, `Target.eq_of_flagKey`: the tracking object tells the
   namespace, and in it the key tells the pod.
2. `World.PodsAtHome.after`: calls leave the pods at home.
-/

namespace EvictionGate

/-- The name and the namespace that a pod bears. -/
def Pod.home (pod : Pod) : Target := ⟨pod.metadata.name.getD "", pod.metadata.ns.getD ""⟩

theorem Pod.Alike.home {pod other : Pod} (h : pod.Alike other) : other.home = pod.home := by
  simp only [Pod.home, h.name, h.ns]

/-- The namespace of the pods whose flags a tracking object carries: it is that namespace itself,
or lies in it. -/
def TrackerKind.homeOf (k : TrackerKind) (i : Tracker) : String :=
  match k with
  | .homeNamespace => i.name
  | .couchbaseCluster => i.ns.getD ""

/-- A pod's tracking object tells the pod's namespace. -/
theorem TrackerKind.ns_eq_homeOf {k : TrackerKind} {pod : Pod} {i : Tracker}
    (tracked : k.trackerOf? pod = some i) : pod.home.ns = k.homeOf i := by
  cases k with
  | homeNamespace =>
    unfold trackerOf? Pod.ns? at tracked
    cases ns : pod.metadata.ns with
    | none => simp [ns] at tracked
    | some name =>
      simp only [ns] at tracked
      split at tracked
      · cases tracked
      · cases tracked
        simp [Pod.home, homeOf, ns]
  | couchbaseCluster =>
    unfold trackerOf? at tracked
    cases label : pod.labelAt? clusterLabel with
    | none => simp [label] at tracked
    | some cluster =>
      simp only [label] at tracked
      split at tracked
      · cases tracked
      · cases tracked
        rfl

/-- Within a namespace, a flag's key tells the pod. -/
theorem Target.eq_of_flagKey {t u : Target} (ns : t.ns = u.ns) (key : t.flagKey = u.flagKey) :
    t = u := by
  obtain ⟨name, ns'⟩ := t
  obtain ⟨name', _⟩ := u
  cases ns
  simp only [flagKey, String.append_right_inj] at key
  rw [key]

/-- Every pod is stored under its `Pod.home`. -/
def World.PodsAtHome (w : World) : Prop :=
  ∀ t pod, w.pods.get? t = some pod → pod.home = t

namespace World.PodsAtHome

variable {w : World}

theorem after (home : w.PodsAtHome) (call : Call) : (w.after call).PodsAtHome := by
  intro t pod found
  cases before : w.pods.get? t with
  | none =>
    rw [pod_after_absent w before] at found
    cases found
  | some old =>
    obtain ⟨pod', found', alike⟩ := w.pod_after before call
    cases found.symm.trans found'
    exact alike.home.trans (home t old before)

theorem putPod (home : w.PodsAtHome) (pod : Pod) : (w.putPod pod.home pod).PodsAtHome := by
  intro t other found
  by_cases h : t = pod.home
  · subst h
    cases (Table.get?_set_self w.pods pod.home pod).symm.trans found
    rfl
  · exact home t other ((Table.get?_set_of_ne w.pods pod h).symm.trans found)

theorem deletePod (home : w.PodsAtHome) (t : Target) : (w.deletePod t).PodsAtHome := by
  intro u pod found
  by_cases h : u = t
  · subst h
    cases (Table.get?_erase_self w.pods u).symm.trans found
  · exact home u pod ((Table.get?_erase_of_ne w.pods h).symm.trans found)

end World.PodsAtHome

end EvictionGate
