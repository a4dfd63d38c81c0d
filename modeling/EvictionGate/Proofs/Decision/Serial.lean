import EvictionGate.Proofs.Decision.Candidate
import Mathlib.Logic.Function.Basic

/-!
# Decisions one after another

The yardstick for decisions that share a world: the same decisions about one pod, each run
to its end before the next begins. A client tells their verdicts apart by status code and
reason.

Results:
1. `Idle.serially`: decisions that only read all come to the same verdict.
2. `Candidate.serially_unflagged`: of a pod without a flag, every decision is answered
   "try again", and the first one marks the pod.
3. `Candidate.serially_flagged`: of a pod with a flag, the first decision takes it back and
   says that the pod has moved, and the others find a pod without a flag.
-/

namespace EvictionGate

namespace Verdict

/-- The code and the reason of a denial; none of `allow`. -/
def status? (v : Verdict) : Option (Nat × DenyReason) :=
  v.denial?.map fun d => (d.code, d.reason)

/-- The status of `waitingForReschedule` and of `rescheduleRequested`. -/
def tryAgain : Option (Nat × DenyReason) := some (429, .tooManyRequests)

/-- The status of `podRescheduled` and of `podRescheduledWithSameName`. -/
def gone : Option (Nat × DenyReason) := some (404, .notFound)

theorem gone_ne_tryAgain : gone ≠ tryAgain := by decide

end Verdict

variable {ι : Type} [DecidableEq ι]

/-- The verdicts of decisions about `t` that run to the end one after the other, without failures,
and the world after them. -/
def serially (c : Settings) (t : Target) : List ι → World → (ι → Option Verdict) × World
  | [], w => (fun _ => none, w)
  | a :: order, w =>
    let first := (decideEviction c t).result (World.perform none) w
    let others := serially c t order first.2
    (Function.update others.1 a (some first.1), others.2)

section

variable {c : Settings} {t : Target}

theorem serially_head (a : ι) (order : List ι) (w : World) :
    (serially c t (a :: order) w).1 a =
      some ((decideEviction c t).result (World.perform none) w).1 := by
  simp [serially]

theorem serially_tail {a i : ι} (other : i ≠ a) (order : List ι) (w : World) :
    (serially c t (a :: order) w).1 i =
      (serially c t order ((decideEviction c t).result (World.perform none) w).2).1 i := by
  simp [serially, Function.update_of_ne other]

theorem serially_world (a : ι) (order : List ι) (w : World) :
    (serially c t (a :: order) w).2 =
      (serially c t order ((decideEviction c t).result (World.perform none) w).2).2 := rfl

end

/-! ## Decisions that only read -/

/-- `Idle c t w v stage`: the turns of a decision from `stage` on leave `w` as it is, never
satisfy `findsFlag`, and end with the verdict `v`. -/
inductive Idle (c : Settings) (t : Target) (w : World) (v : Verdict) : Stage → Prop
  | ended : Idle c t w v (.ended v)
  | reads {stage next : Stage} : stage.turn c t none w = (next, w) →
      (∀ i, stage = .look i → w.flagOn ⟨c.trackerKind, i⟩ t.flagKey = false) →
      Idle c t w v next → Idle c t w v stage

namespace Idle

variable {c : Settings} {t : Target} {w : World} {v : Verdict}

theorem result {stage : Stage} (idle : Idle c t w v stage) :
    (stage.rest c t).result (World.perform none) w = (v, w) := by
  induction idle with
  | ended => rfl
  | reads turns _ _ ih =>
    rw [Stage.result_turn, turns]
    exact ih

/-- Decisions that only read all come to the same verdict. -/
theorem serially (idle : Idle c t w v .fetch) (order : List ι) :
    (serially c t order w).2 = w ∧
      ∀ i, i ∈ order → (EvictionGate.serially c t order w).1 i = some v := by
  have one : (decideEviction c t).result (World.perform none) w = (v, w) := idle.result
  induction order with
  | nil => exact ⟨rfl, fun i hi => absurd hi List.not_mem_nil⟩
  | cons a order ih =>
    refine ⟨?_, fun i hi => ?_⟩
    · rw [serially_world, one]
      exact ih.1
    · by_cases h : i = a
      · rw [h, serially_head, one]
      · rw [serially_tail h, one]
        exact ih.2 i ((List.mem_cons.mp hi).resolve_left h)

end Idle

/-- If a pod is no candidate to be moved, decisions about it only read. -/
theorem idle_or_candidate (c : Settings) (t : Target) (tracks : c.tracks = true) (w : World) :
    (∃ v, v ≠ .deny .podRescheduledWithSameName ∧ Idle c t w v .fetch) ∨
      Nonempty (Candidate c t w) := by
  have ends {v : Verdict} (other : v ≠ .deny .podRescheduledWithSameName)
      (turns : Stage.fetch.turn c t none w = (.ended v, w)) :
      ∃ v, v ≠ .deny .podRescheduledWithSameName ∧ Idle c t w v .fetch :=
    ⟨v, other, .reads turns (fun _ h => nomatch h) .ended⟩
  cases found : w.pods.get? t with
  | none => exact .inl (ends (by decide) (Stage.turn_fetch_absent c t found))
  | some pod =>
    have turns := Stage.turn_fetch c t found
    have after := Stage.afterPod c pod
    generalize Stage.ofPod c pod = stage at turns after
    cases after with
    | ended other => exact .inl (ends other turns)
    | mark _ _ untracked => cases tracks.symm.trans untracked
    | @look i selected unmarked _ tracked =>
      cases present : w.tracking.get? ⟨c.trackerKind, i⟩ with
      | some o => exact .inr ⟨⟨pod, i, o, found, selected, unmarked, tracked, present⟩⟩
      | none =>
        have looks : Idle c t w (.deny .failedToGetTrackingResource) (.look i) := by
          refine .reads (Stage.turn_look_absent c t present) ?_ .ended
          rintro j ⟨⟩
          simp [World.flagOn, present]
        exact .inl ⟨_, by decide, .reads turns (fun _ h => nomatch h) looks⟩

/-- A decision that meets no failure answers that the pod has moved exactly if the pod is
there, in the gate's care and not marked, and its flag is on. -/
theorem result_moved_iff {c : Settings} {t : Target} (tracks : c.tracks = true) (w : World) :
    ((decideEviction c t).result (World.perform none) w).1 = .deny .podRescheduledWithSameName ↔
      (∃ pod, w.pods.get? t = some pod ∧ c.selects pod = true) ∧
        w.markerOn c t = false ∧ w.podFlagOn c t = true := by
  constructor
  · intro moved
    rcases idle_or_candidate c t tracks w with ⟨v, other, idle⟩ | ⟨⟨s⟩⟩
    · have ends : (decideEviction c t).result (World.perform none) w = (v, w) := idle.result
      rw [ends] at moved
      exact absurd moved other
    · refine ⟨⟨s.pod, s.found, s.selected⟩, s.markerOn_eq, ?_⟩
      rw [s.podFlagOn_eq]
      cases flagged : s.flagged with
      | true => rfl
      | false =>
        rw [s.result_unflagged tracks flagged] at moved
        cases moved
  · rintro ⟨⟨pod, found, selected⟩, unmarked, flagged⟩
    rw [World.markerOn, found, Option.any_some] at unmarked
    have tracked := flagged
    rw [World.podFlagOn, found, Option.any_some] at tracked
    obtain ⟨s⟩ := Candidate.exists_of_tracked found selected unmarked tracked
    rw [s.podFlagOn_eq] at flagged
    rw [s.result_flagged tracks flagged]

/-! ## Decisions about a candidate -/

namespace Candidate

variable {c : Settings} {t : Target} {w : World} (s : Candidate c t w)
  (tracks : c.tracks = true)
include tracks

/-- Of a marked pod, every decision is answered "try again". -/
theorem serially_marked (flagged : Bool) (order : List ι) :
    (serially c t order (s.state true flagged)).2 = s.state true flagged ∧
      ∀ i, i ∈ order → ((serially c t order (s.state true flagged)).1 i).map Verdict.status? =
        some Verdict.tryAgain := by
  have idle : Idle c t (s.state true flagged) (.deny .waitingForReschedule) .fetch :=
    .reads (s.turn_fetch tracks true flagged) (fun _ h => nomatch h) .ended
  obtain ⟨leaves, answers⟩ := idle.serially order
  refine ⟨leaves, fun i hi => ?_⟩
  rw [answers i hi]
  rfl

/-- Of a pod without a flag, every decision is answered "try again", and the first one
marks the pod. -/
theorem serially_unflagged (unflagged : s.flagged = false) (order : List ι) :
    (serially c t order w).2 =
        (if order = [] then s.state false false else s.state true s.eligible) ∧
      ∀ i, i ∈ order → ((serially c t order w).1 i).map Verdict.status? =
        some Verdict.tryAgain := by
  cases order with
  | nil => exact ⟨s.state_start.symm, fun i hi => absurd hi List.not_mem_nil⟩
  | cons a order =>
    have first := s.result_unflagged tracks unflagged
    obtain ⟨leaves, answers⟩ := s.serially_marked tracks s.eligible order
    refine ⟨?_, fun i hi => ?_⟩
    · rw [serially_world, first, if_neg (List.cons_ne_nil a order)]
      exact leaves
    · by_cases h : i = a
      · rw [h, serially_head, first]
        rfl
      · rw [serially_tail h, first]
        exact answers i ((List.mem_cons.mp hi).resolve_left h)

/-- Of a pod with a flag, the first decision says that the pod has moved, and the others
find a pod without a flag. -/
theorem serially_flagged (found : s.flagged = true) (a : ι) (order : List ι) :
    (serially c t (a :: order) w).2 =
        (if order = [] then s.cleared.state false false
          else s.cleared.state true s.cleared.eligible) ∧
      (serially c t (a :: order) w).1 a = some (.deny .podRescheduledWithSameName) ∧
      ∀ i, i ≠ a → i ∈ order → ((serially c t (a :: order) w).1 i).map Verdict.status? =
        some Verdict.tryAgain := by
  have first := s.result_flagged tracks found
  rw [s.cleared.state_start] at first
  obtain ⟨leaves, answers⟩ := s.cleared.serially_unflagged tracks s.cleared_flagged order
  refine ⟨?_, ?_, fun i other hi => ?_⟩
  · rw [serially_world, first]
    exact leaves
  · rw [serially_head, first]
  · rw [serially_tail other, first]
    exact answers i hi

end Candidate

end EvictionGate
