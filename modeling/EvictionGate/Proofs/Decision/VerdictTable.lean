import EvictionGate.Proofs.Decision.Transcript

/-!
# The verdict table

What an eviction is answered, and by which calls, written as a table: a row for every way in
which the replies to the calls can turn out, whatever the cluster and however little its replies
agree with each other. A row lists the calls with their replies in order, and the ruling.

Results:
1. `trackerOf?_eq_some_iff`, `recreatesPods_iff`: the tracking object of a pod, and when a flag
   is due.
2. `table_of_leads`, `leads_of_table`: the rows are the paths of a decision.
3. `decides_by_table`: every decision goes by the one row that its cluster gives.
-/

namespace EvictionGate

/-- A row's right side: the eviction is allowed, or denied with a code, a reason and a message. -/
inductive Ruling
  | allowed
  | denied (code : Nat) (reason message : String)
  deriving DecidableEq

/-- A verdict in the terms of the table. -/
def Verdict.ruling : Verdict → Ruling
  | .allow => .allowed
  | .deny d => .denied d.code d.reason.name d.message

namespace VerdictTable

/-! ## What the rows look at -/

/-- The API server has answered with 404. -/
def Absent (e : GateError) : Prop :=
  ∃ answer : ApiStatus, e = .api (.refused answer) ∧ answer.code = 404

/-- The label `c.selector` is on the pod. -/
def Managed (c : Settings) (pod : Pod) : Prop :=
  pod.labelAt? c.selector.key = some c.selector.value

/-- The annotation `c.marker` is on the pod. -/
def Marked (c : Settings) (pod : Pod) : Prop :=
  pod.annotationAt? c.marker.key = some c.marker.value

/-- The annotation `t.flagKey` is `true` on the object. -/
def Flagged (t : Target) (o : DynamicObject) : Prop :=
  o.annotationAt? t.flagKey = some "true"

/-- `KeptOn kind pod i`: the flag of the pod is kept on `i`.

* `homeNamespace`: the namespace of the pod, which lies in none.
* `couchbaseCluster`: the database cluster that its label names, in its namespace. An empty name
  counts as none. -/
inductive KeptOn : TrackerKind → Pod → Tracker → Prop
  | homeNamespace {pod : Pod} {ns : String} :
      pod.ns? = some ns → ns ≠ "" → KeptOn .homeNamespace pod ⟨ns, none⟩
  | couchbaseCluster {pod : Pod} {name : String} :
      pod.labelAt? "couchbase_cluster" = some name → name ≠ "" →
      KeptOn .couchbaseCluster pod ⟨name, pod.ns?⟩

/-- The tracking objects whose pods come back under their names: namespaces, and database clusters
with an in-place upgrade. -/
inductive Recreates : TrackerKind → DynamicObject → Prop
  | homeNamespace {o : DynamicObject} : Recreates .homeNamespace o
  | couchbaseCluster {o : DynamicObject} :
      o.at? ["spec", "upgradeProcess"] = some (.string "InPlaceUpgrade") →
      Recreates .couchbaseCluster o

/-! ## The rows -/

variable (c : Settings) (t : Target)

/-- `Tracked heard i o`: a pod that is managed and not marked has been read, in a gate that
tracks, and then its tracking object `i`, which is `o`. -/
inductive Tracked : List Heard → Tracker → DynamicObject → Prop
  | read {pod : Pod} {i : Tracker} {o : DynamicObject} :
      Managed c pod → ¬ Marked c pod → c.tracks = true → KeptOn c.trackerKind pod i →
      Tracked [⟨.getPod t, .ok pod⟩, ⟨.getTracker c.trackerKind i, .ok o⟩] i o

/-- `ToMark heard flagged`: what comes before `setMarker`, and the tracking object if `setFlag`
has succeeded. -/
inductive ToMark : List Heard → Option Tracker → Prop
  | untracked {pod : Pod} : Managed c pod → ¬ Marked c pod → c.tracks = false →
      ToMark [⟨.getPod t, .ok pod⟩] none
  | ineligible {heard : List Heard} {i : Tracker} {o : DynamicObject} :
      Tracked c t heard i o → ¬ Flagged t o → ¬ Recreates c.trackerKind o → ToMark heard none
  | flagged {heard : List Heard} {i : Tracker} {o : DynamicObject} :
      Tracked c t heard i o → ¬ Flagged t o → Recreates c.trackerKind o →
      ToMark (heard ++ [⟨.setFlag c t i, .ok ()⟩]) (some i)

end VerdictTable

open VerdictTable

/-- `VerdictTable c t heard ruling`: one rule for each row of the table. `heard` are all calls of
the decision with their replies. -/
inductive VerdictTable (c : Settings) (t : Target) : List Heard → Ruling → Prop
  | gone {e : GateError} : Absent e →
      VerdictTable c t [⟨.getPod t, .error e⟩]
        (.denied 404 "NotFound" "Pod has been rescheduled")
  | unreadPod {e : GateError} : ¬ Absent e →
      VerdictTable c t [⟨.getPod t, .error e⟩]
        (.denied 500 "InternalError" "Failed to get pod")
  | unmanaged {pod : Pod} : ¬ Managed c pod →
      VerdictTable c t [⟨.getPod t, .ok pod⟩] .allowed
  | waiting {pod : Pod} : Managed c pod → Marked c pod →
      VerdictTable c t [⟨.getPod t, .ok pod⟩]
        (.denied 429 "TooManyRequests" "Pod waiting to be rescheduled")
  | unresolved {pod : Pod} : Managed c pod → ¬ Marked c pod → c.tracks = true →
      (∀ i, ¬ KeptOn c.trackerKind pod i) →
      VerdictTable c t [⟨.getPod t, .ok pod⟩]
        (.denied 500 "InternalError" "Failed to get rescheduled pods tracking resource")
  /-- Whether `e` is `Absent` makes no difference here. -/
  | unreadTracker {pod : Pod} {i : Tracker} {e : GateError} : Managed c pod → ¬ Marked c pod →
      c.tracks = true → KeptOn c.trackerKind pod i →
      VerdictTable c t [⟨.getPod t, .ok pod⟩, ⟨.getTracker c.trackerKind i, .error e⟩]
        (.denied 500 "InternalError" "Failed to get rescheduled pods tracking resource")
  /-- Whether `Recreates` holds makes no difference here. -/
  | moved {heard : List Heard} {i : Tracker} {o : DynamicObject} :
      Tracked c t heard i o → Flagged t o →
      VerdictTable c t (heard ++ [⟨.clearFlag c t i, .ok ()⟩])
        (.denied 404 "NotFound" "Pod has been rescheduled with the same name")
  | stillFlagged {heard : List Heard} {i : Tracker} {o : DynamicObject} {e : GateError} :
      Tracked c t heard i o → Flagged t o →
      VerdictTable c t (heard ++ [⟨.clearFlag c t i, .error e⟩])
        (.denied 500 "InternalError"
          "Failed to remove tracking annotation from rescheduled pods tracking resource")
  | notFlagged {heard : List Heard} {i : Tracker} {o : DynamicObject} {e : GateError} :
      Tracked c t heard i o → ¬ Flagged t o → Recreates c.trackerKind o →
      VerdictTable c t (heard ++ [⟨.setFlag c t i, .error e⟩])
        (.denied 500 "InternalError"
          "Failed to add annotation to rescheduled pods tracking resource")
  | requested {heard : List Heard} {flagged : Option Tracker} : ToMark c t heard flagged →
      VerdictTable c t (heard ++ [⟨.setMarker c t, .ok ()⟩])
        (.denied 429 "TooManyRequests" "Reschedule annotation added to pod")
  | notMarked {heard : List Heard} {e : GateError} : ToMark c t heard none →
      VerdictTable c t (heard ++ [⟨.setMarker c t, .error e⟩])
        (.denied 500 "InternalError" "Failed to add reschedule annotation to pod")
  /-- The reply to `clearFlag` makes no difference here. -/
  | rolledBack {heard : List Heard} {i : Tracker} {e : GateError}
      {reply : Reply (.clearFlag c t i)} : ToMark c t heard (some i) →
      VerdictTable c t (heard ++ [⟨.setMarker c t, .error e⟩, ⟨.clearFlag c t i, reply⟩])
        (.denied 500 "InternalError" "Failed to add reschedule annotation to pod")

namespace VerdictTable

variable {c : Settings} {t : Target}

/-! ## The conditions of the rows, as a decision tests them -/

theorem absent_iff {e : GateError} : e.isAbsence = true ↔ Absent e := by
  constructor
  · exact GateError.exists_of_isAbsence
  · rintro ⟨answer, rfl, code⟩
    exact beq_iff_eq.mpr code

theorem managed_iff {pod : Pod} : c.selects pod = true ↔ Managed c pod := beq_iff_eq

theorem marked_iff {pod : Pod} : c.markerIsOn pod = true ↔ Marked c pod := beq_iff_eq

theorem flagged_iff {o : DynamicObject} :
    (o.annotationAt? t.flagKey == some flagValue) = true ↔ Flagged t o := beq_iff_eq

theorem trackerOf?_eq_some_iff {k : TrackerKind} {pod : Pod} {i : Tracker} :
    k.trackerOf? pod = some i ↔ KeptOn k pod i := by
  constructor
  · intro named
    unfold TrackerKind.trackerOf? at named
    cases k with
    | homeNamespace =>
      dsimp only at named
      split at named
      · next ns found =>
        obtain ⟨nonempty, named⟩ := Option.ite_none_left_eq_some.mp named
        cases named
        exact .homeNamespace found nonempty
      · cases named
    | couchbaseCluster =>
      dsimp only at named
      split at named
      · next name found =>
        obtain ⟨nonempty, named⟩ := Option.ite_none_left_eq_some.mp named
        cases named
        exact .couchbaseCluster found nonempty
      · cases named
  · rintro (⟨found, nonempty⟩ | ⟨found, nonempty⟩)
    · simp only [TrackerKind.trackerOf?, found, if_neg nonempty]
    · simp only [TrackerKind.trackerOf?, TrackerKind.clusterLabel, found, if_neg nonempty]

theorem recreatesPods_iff {k : TrackerKind} {o : DynamicObject} :
    k.recreatesPods o = true ↔ Recreates k o := by
  cases k with
  | homeNamespace => exact ⟨fun _ => .homeNamespace, fun _ => rfl⟩
  | couchbaseCluster =>
    unfold TrackerKind.recreatesPods
    rw [beq_iff_eq]
    constructor
    · intro text
      obtain ⟨v, found, isText⟩ := Option.bind_eq_some_iff.mp text
      cases v with
      | string s =>
        cases isText
        exact .couchbaseCluster found
      | _ => cases isText
    · intro recreates
      cases recreates with
      | couchbaseCluster found =>
        rw [found]
        rfl

/-! ## Every path of a decision is a row -/

section

variable {heard rest : List Heard} {v : Verdict}

theorem of_leads_mark {flagged : Option Tracker} (ready : ToMark c t heard flagged)
    (leads : (Decision.mark c t flagged).Leads rest v) :
    VerdictTable c t (heard ++ rest) v.ruling := by
  obtain ⟨reply, rest, rfl, leads⟩ := leads
  cases reply with
  | ok _ =>
    obtain ⟨rfl, rfl⟩ := leads
    exact .requested ready
  | error e =>
    cases flagged with
    | none =>
      obtain ⟨rfl, rfl⟩ := leads
      exact .notMarked ready
    | some i =>
      obtain ⟨reply, rest, rfl, leads⟩ := leads
      -- the same denial, whether or not the flag could be taken back
      cases reply with
      | ok _ | error e =>
        obtain ⟨rfl, rfl⟩ := leads
        exact .rolledBack ready

theorem of_leads_withTracking {i : Tracker} {o : DynamicObject} (tracked : Tracked c t heard i o)
    (leads : (Decision.withTracking c t i o).Leads rest v) :
    VerdictTable c t (heard ++ rest) v.ruling := by
  unfold Decision.withTracking at leads
  split at leads
  · next flagged =>
    obtain ⟨reply, rest, rfl, leads⟩ := leads
    cases reply with
    | ok _ =>
      obtain ⟨rfl, rfl⟩ := leads
      exact .moved tracked (flagged_iff.mp flagged)
    | error e =>
      obtain ⟨rfl, rfl⟩ := leads
      exact .stillFlagged tracked (flagged_iff.mp flagged)
  · next unflagged =>
    have unflagged := mt flagged_iff.mpr unflagged
    split at leads
    · next eligible =>
      have eligible := recreatesPods_iff.mp eligible
      obtain ⟨reply, rest, rfl, leads⟩ := leads
      cases reply with
      | ok _ =>
        rw [List.append_cons]
        exact of_leads_mark (.flagged tracked unflagged eligible) leads
      | error e =>
        obtain ⟨rfl, rfl⟩ := leads
        exact .notFlagged tracked unflagged eligible
    · next ineligible =>
      exact of_leads_mark (.ineligible tracked unflagged (mt recreatesPods_iff.mpr ineligible))
        leads

theorem of_leads_withPod {pod : Pod} (leads : (Decision.withPod c t pod).Leads rest v) :
    VerdictTable c t (⟨.getPod t, .ok pod⟩ :: rest) v.ruling := by
  unfold Decision.withPod at leads
  split at leads
  · next unmanaged =>
    obtain ⟨rfl, rfl⟩ := leads
    refine .unmanaged fun managed => ?_
    rw [managed_iff.mpr managed] at unmanaged
    cases unmanaged
  · next managed =>
    have managed : Managed c pod := managed_iff.mp (by simpa using managed)
    split at leads
    · next marked =>
      obtain ⟨rfl, rfl⟩ := leads
      exact .waiting managed (marked_iff.mp marked)
    · next unmarked =>
      have unmarked := mt marked_iff.mpr unmarked
      split at leads
      · next tracks =>
        unfold Decision.track at leads
        split at leads
        · next nameless =>
          obtain ⟨rfl, rfl⟩ := leads
          refine .unresolved managed unmarked tracks fun i kept => ?_
          cases nameless.symm.trans (trackerOf?_eq_some_iff.mpr kept)
        · next i named =>
          have kept := trackerOf?_eq_some_iff.mp named
          obtain ⟨reply, rest, rfl, leads⟩ := leads
          cases reply with
          | ok o => exact of_leads_withTracking (.read managed unmarked tracks kept) leads
          | error e =>
            obtain ⟨rfl, rfl⟩ := leads
            exact .unreadTracker managed unmarked tracks kept
      · next untracked =>
        exact of_leads_mark (.untracked managed unmarked (by simpa using untracked)) leads

theorem table_of_leads (leads : (decideEviction c t).Leads heard v) :
    VerdictTable c t heard v.ruling := by
  obtain ⟨reply, rest, rfl, leads⟩ := leads
  cases reply with
  | ok pod => exact of_leads_withPod leads
  | error e =>
    dsimp only at leads
    split at leads
    · next absent =>
      obtain ⟨rfl, rfl⟩ := leads
      exact .gone (absent_iff.mp absent)
    · next present =>
      obtain ⟨rfl, rfl⟩ := leads
      exact .unreadPod (mt absent_iff.mpr present)

/-! ## Every row is a path of a decision -/

theorem leads_of_withPod {pod : Pod} (leads : (Decision.withPod c t pod).Leads rest v) :
    (decideEviction c t).Leads (⟨.getPod t, .ok pod⟩ :: rest) v :=
  ⟨_, rest, rfl, leads⟩

theorem withPod_of_unmarked {pod : Pod} (managed : Managed c pod) (unmarked : ¬ Marked c pod) :
    Decision.withPod c t pod =
      if c.tracks then Decision.track c t pod else Decision.mark c t none := by
  rw [Decision.withPod, managed_iff.mpr managed, if_neg (by simp),
    if_neg (mt marked_iff.mp unmarked)]

theorem track_of_kept {pod : Pod} {i : Tracker} (kept : KeptOn c.trackerKind pod i) :
    Decision.track c t pod = Decision.look c t i := by
  rw [Decision.track, trackerOf?_eq_some_iff.mpr kept]

theorem Tracked.leads {i : Tracker} {o : DynamicObject} (tracked : Tracked c t heard i o)
    (leads : (Decision.withTracking c t i o).Leads rest v) :
    (decideEviction c t).Leads (heard ++ rest) v := by
  obtain ⟨managed, unmarked, tracks, kept⟩ := tracked
  refine leads_of_withPod ?_
  rw [withPod_of_unmarked managed unmarked, if_pos tracks, track_of_kept kept]
  exact ⟨_, rest, rfl, leads⟩

theorem withTracking_of_flagged {i : Tracker} {o : DynamicObject} (flagged : Flagged t o) :
    Decision.withTracking c t i o = Decision.unflag c t i := by
  rw [Decision.withTracking, if_pos (flagged_iff.mpr flagged)]

theorem withTracking_of_eligible {i : Tracker} {o : DynamicObject} (unflagged : ¬ Flagged t o)
    (eligible : Recreates c.trackerKind o) :
    Decision.withTracking c t i o = Decision.flag c t i := by
  rw [Decision.withTracking, if_neg (mt flagged_iff.mp unflagged),
    if_pos (recreatesPods_iff.mpr eligible)]

theorem ToMark.leads {flagged : Option Tracker} (ready : ToMark c t heard flagged)
    (leads : (Decision.mark c t flagged).Leads rest v) :
    (decideEviction c t).Leads (heard ++ rest) v := by
  cases ready with
  | untracked managed unmarked untracked =>
    refine leads_of_withPod ?_
    rw [withPod_of_unmarked managed unmarked, if_neg (by simp [untracked])]
    exact leads
  | ineligible tracked unflagged ineligible =>
    refine tracked.leads ?_
    rw [Decision.withTracking, if_neg (mt flagged_iff.mp unflagged),
      if_neg (mt recreatesPods_iff.mp ineligible)]
    exact leads
  | flagged tracked unflagged eligible =>
    rw [List.append_assoc]
    refine tracked.leads ?_
    rw [withTracking_of_eligible unflagged eligible]
    exact ⟨_, rest, rfl, leads⟩

theorem leads_of_table {ruling : Ruling} (row : VerdictTable c t heard ruling) :
    ∃ v : Verdict, v.ruling = ruling ∧ (decideEviction c t).Leads heard v := by
  cases row with
  | @gone e absent =>
    refine ⟨.deny .podRescheduled, rfl, .error e, [], rfl, ?_⟩
    dsimp only
    rw [if_pos (absent_iff.mpr absent)]
    exact ⟨rfl, rfl⟩
  | @unreadPod e present =>
    refine ⟨.deny .failedToGetPod, rfl, .error e, [], rfl, ?_⟩
    dsimp only
    rw [if_neg (mt absent_iff.mp present)]
    exact ⟨rfl, rfl⟩
  | @unmanaged pod unmanaged =>
    refine ⟨.allow, rfl, leads_of_withPod ?_⟩
    rw [Decision.withPod, if_pos (by simpa using mt managed_iff.mp unmanaged)]
    exact ⟨rfl, rfl⟩
  | @waiting pod managed marked =>
    refine ⟨.deny .waitingForReschedule, rfl, leads_of_withPod ?_⟩
    rw [Decision.withPod, if_neg (by simp [managed_iff.mpr managed]),
      if_pos (marked_iff.mpr marked)]
    exact ⟨rfl, rfl⟩
  | @unresolved pod managed unmarked tracks nameless =>
    have none_named : c.trackerKind.trackerOf? pod = none :=
      Option.eq_none_iff_forall_ne_some.mpr fun i named =>
        nameless i (trackerOf?_eq_some_iff.mp named)
    refine ⟨.deny .failedToGetTrackingResource, rfl, leads_of_withPod ?_⟩
    rw [withPod_of_unmarked managed unmarked, if_pos tracks, Decision.track, none_named]
    exact ⟨rfl, rfl⟩
  | @unreadTracker pod i e managed unmarked tracks kept =>
    refine ⟨.deny .failedToGetTrackingResource, rfl, leads_of_withPod ?_⟩
    rw [withPod_of_unmarked managed unmarked, if_pos tracks, track_of_kept kept]
    exact ⟨.error e, [], rfl, rfl, rfl⟩
  | moved tracked flagged =>
    refine ⟨.deny .podRescheduledWithSameName, rfl, tracked.leads ?_⟩
    rw [withTracking_of_flagged flagged]
    exact ⟨.ok (), [], rfl, rfl, rfl⟩
  | @stillFlagged heard i o e tracked flagged =>
    refine ⟨.deny .failedToRemoveFlag, rfl, tracked.leads ?_⟩
    rw [withTracking_of_flagged flagged]
    exact ⟨.error e, [], rfl, rfl, rfl⟩
  | @notFlagged heard i o e tracked unflagged eligible =>
    refine ⟨.deny .failedToAddFlag, rfl, tracked.leads ?_⟩
    rw [withTracking_of_eligible unflagged eligible]
    exact ⟨.error e, [], rfl, rfl, rfl⟩
  | requested ready =>
    exact ⟨.deny .rescheduleRequested, rfl, ready.leads ⟨.ok (), [], rfl, rfl, rfl⟩⟩
  | @notMarked heard e ready =>
    exact ⟨.deny .failedToAddMarker, rfl, ready.leads ⟨.error e, [], rfl, rfl, rfl⟩⟩
  | @rolledBack heard i e reply ready =>
    refine ⟨.deny .failedToAddMarker, rfl, ready.leads ⟨.error e, _, rfl, reply, [], rfl, ?_⟩⟩
    cases reply with
    | ok _ | error e => exact ⟨rfl, rfl⟩

end

end VerdictTable

/-- Every decision goes by the verdict table, whatever the cluster replies to its calls: it
makes the calls of a row, hears the replies of that row and comes to the row's ruling, and there
is no other row whose replies the cluster would give. -/
theorem decides_by_table (c : Settings) (t : Target) {σ : Type}
    (perform : (call : Call) → σ → Reply call × Log × σ) (s s' : σ) (heard : List Heard)
    (ruling : Ruling) :
    let whole := (decideEviction c t).run (noting perform) (s, [])
    whole.verdict.ruling = ruling ∧ whole.state = (s', heard) ↔
      VerdictTable c t heard ruling ∧ Answers perform s heard s' := by
  intro whole
  have runs (v : Verdict) := Decision.result_noting_iff perform (decideEviction c t)
    s s' heard v
  constructor
  · rintro ⟨rfl, leaves⟩
    obtain ⟨leads, answers⟩ := (runs whole.verdict).mp (Prod.ext rfl leaves)
    exact ⟨VerdictTable.table_of_leads leads, answers⟩
  · rintro ⟨row, answers⟩
    obtain ⟨v, rfl, leads⟩ := VerdictTable.leads_of_table row
    have ends := (runs v).mpr ⟨leads, answers⟩
    exact ⟨congrArg (fun r => r.1.ruling) ends, congrArg Prod.snd ends⟩

end EvictionGate
