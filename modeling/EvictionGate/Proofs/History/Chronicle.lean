import EvictionGate.Proofs.Decision.Footprint

/-!
# What happens to a cluster

Evictions are decided one after another, whatever becomes of their calls. In between, pods
are deleted and created, and the data of tracking objects change; only decisions change the
annotations of tracking objects. What has happened is written down in order.

Results:
1. `exists_of_record`: a record stands where its event does.
2. `World.PodsAtHome.through`: pods stay under their own names.
-/

namespace EvictionGate

/-- What happens to a cluster.

* `decide`: an eviction is decided, by `decideWithin`.
* `delete`, `create`: a pod is deleted, or stored under its `Pod.home` in the place of any other.
* `edit`: the data of a tracking object change, and not its metadata. -/
inductive Incident
  /-- An eviction is decided, under a deadline. -/
  | decide (t : Target) (fates : Nat → Fate) (timeout : Nat)
  | delete (t : Target)
  /-- A pod is created, or created anew, under its own name. -/
  | create (pod : Pod)
  /-- The data of a tracking object change. -/
  | edit (place : TrackingKey) (data : Dict Json.Value)

/-- An event with the world before it, and of a `decide` its verdict and the calls it sent. -/
structure Record where
  event : Incident
  met : World
  verdict : Option Verdict
  sent : List (Call × Bool)

/-- The event is a `decide` about `t`. -/
def Record.Decides (t : Target) (r : Record) : Prop :=
  ∃ fates timeout, r.event = .decide t fates timeout

/-- The world with other `data` in the tracking object at `place`, if there is one. -/
def World.editData (w : World) (place : TrackingKey) (data : Dict Json.Value) : World :=
  match w.tracking.get? place with
  | none => w
  | some o => w.putTracking place { o with data }

/-- The record of an event, and the world after it. -/
def Incident.happen (c : Settings) (w : World) : Incident → Record × World
  | .decide t fates timeout =>
    let o := decideWithin c t fates timeout w
    (⟨.decide t fates timeout, w, o.1, o.2.sent⟩, o.2.world)
  | .delete t => (⟨.delete t, w, none, []⟩, w.deletePod t)
  | .create pod => (⟨.create pod, w, none, []⟩, w.putPod pod.home pod)
  | .edit place data => (⟨.edit place data, w, none, []⟩, w.editData place data)

/-- The records of a list of events. -/
def chronicle (c : Settings) : World → List Incident → List Record
  | _, [] => []
  | w, e :: events => (e.happen c w).1 :: chronicle c (e.happen c w).2 events

/-- The world after a list of events. -/
def World.through (c : Settings) : World → List Incident → World
  | w, [] => w
  | w, e :: events => through c (e.happen c w).2 events

section

variable (c : Settings) (w : World)

theorem Incident.happen_decide (t : Target) (fates : Nat → Fate) (timeout : Nat) :
    (Incident.decide t fates timeout).happen c w =
      (⟨.decide t fates timeout, w, (decideWithin c t fates timeout w).1,
        (decideWithin c t fates timeout w).2.sent⟩,
        (decideWithin c t fates timeout w).2.world) := rfl

theorem Incident.happen_edit (place : TrackingKey) (data : Dict Json.Value) :
    (Incident.edit place data).happen c w =
      (⟨.edit place data, w, none, []⟩, w.editData place data) := rfl

theorem World.through_append (first second : List Incident) :
    w.through c (first ++ second) = (w.through c first).through c second := by
  induction first generalizing w with
  | nil => rfl
  | cons e first ih => exact ih _

variable {c w}

/-- A record is that of an event, which met the world after those before it. -/
theorem exists_of_record {events : List Incident} {k : Nat} {r : Record}
    (at_k : (chronicle c w events)[k]? = some r) :
    ∃ before e rest, events = before ++ e :: rest ∧ (chronicle c w before).length = k ∧
      r = (e.happen c (w.through c before)).1 ∧
      chronicle c w events = chronicle c w before ++ r ::
        chronicle c (e.happen c (w.through c before)).2 rest := by
  induction events generalizing w k with
  | nil => cases at_k
  | cons e events ih =>
    cases k with
    | zero =>
      cases at_k
      exact ⟨[], e, events, rfl, rfl, rfl, rfl⟩
    | succ k =>
      obtain ⟨before, f, rest, split, count, same, all⟩ := ih at_k
      refine ⟨e :: before, f, rest, ?_, ?_, same, ?_⟩
      · rw [split, List.cons_append]
      · rw [chronicle, List.length_cons, count]
      · rw [chronicle, all, chronicle, List.cons_append]
        rfl

end

/-! ## Flags and pods under events -/

namespace World

variable (w : World)

/-- Other data leave the flags as they are. -/
theorem flagOn_editData (place other : TrackingKey) (data : Dict Json.Value) (key : String) :
    (w.editData place data).flagOn other key = w.flagOn other key := by
  unfold editData
  cases present : w.tracking.get? place with
  | none => rfl
  | some o =>
    unfold flagOn putTracking
    by_cases h : other = place
    · subst h
      rw [Table.get?_set_self, present]
      rfl
    · rw [Table.get?_set_of_ne _ _ h]

@[simp] theorem pods_editData (place : TrackingKey) (data : Dict Json.Value) :
    (w.editData place data).pods = w.pods := by
  unfold editData
  cases w.tracking.get? place with
  | none => rfl
  | some o => rfl

theorem PodsAtHome.happen {w : World} (home : w.PodsAtHome) (c : Settings) (e : Incident) :
    (e.happen c w).2.PodsAtHome := by
  cases e with
  | decide t fates timeout =>
    have passed := passage c t w fates timeout
    rw [Incident.happen_decide, passed.world]
    exact home.replay _
  | delete t => exact home.deletePod t
  | create pod => exact home.putPod pod
  | edit place data =>
    intro t pod found
    rw [Incident.happen_edit, pods_editData] at found
    exact home t pod found

theorem PodsAtHome.through {w : World} (home : w.PodsAtHome) (c : Settings)
    (events : List Incident) : (w.through c events).PodsAtHome := by
  induction events generalizing w with
  | nil => exact home
  | cons e events ih => exact ih (home.happen c e)

end World

theorem Sample.podsAtHome_world : Sample.world.PodsAtHome := by
  intro t pod found
  by_cases h : t = Sample.db
  · subst h
    cases found
    rfl
  · simp [Sample.world, Table.get?, Ne.symm h] at found

/-- The fates of calls that are answered at once, and of which number `failing` fails. -/
def Sample.prompt (failing : Option Nat) : Nat → Fate :=
  fun n => ⟨some 0, if failing = some n then some notFound else none, false⟩

/-- A pod that a decision would move tells the namespace of the flags on its object. -/
theorem Candidate.ns_eq_homeOf {c : Settings} {t : Target} {w : World} (s : Candidate c t w)
    (home : w.PodsAtHome) : t.ns = c.trackerKind.homeOf s.tracker := by
  rw [← TrackerKind.ns_eq_homeOf s.tracked, home t s.pod s.found]

end EvictionGate
