import EvictionGate.Proofs.Review.FailsClosed

/-!
# A deadline only cuts a decision short

A deadline changes nothing about what a decision does, but how much of it is done. While the
replies to its calls come in time, a decision goes on as it would without a deadline. At the
first reply that does not, it is dropped, and nothing follows the call that it waits for.

Results:
1. `Decision.timed_of_timely`, `Decision.timed_of_late`: a decision under a deadline, call by
   call, next to the same decision without one.
2. `deadline_only_truncates`: what a review is answered, and what its decision leaves behind.
-/

namespace EvictionGate

variable {σ : Type} (fates : Nat → Fate) (perform : (call : Call) → σ → Reply call × Log × σ)

/-- A cluster that keeps the calls made to it. Call number `n` fails without effect, or is
answered by `perform`, as `fates n` tells. -/
def fated (call : Call) (s : σ × List Call) : Reply call × Log × (σ × List Call) :=
  match (fates s.2.length).failure with
  | some e => (.error e, [], (s.1, s.2 ++ [call]))
  | none => ((perform call s.1).1, (perform call s.1).2.1, ((perform call s.1).2.2, s.2 ++ [call]))

/-- `fated` with the latencies of `fates`, as `Decision.runWithin` takes it. A call that is
dropped has been carried out if it is `Fate.early`. -/
def delayed (call : Call) (s : σ × List Call) : Exchange (σ × List Call) call where
  sent :=
    if (fates s.2.length).early then (fated fates perform call s).2.2 else (s.1, s.2 ++ [call])
  latency := (fates s.2.length).latency
  reply := (fated fates perform call s).1
  log := (fated fates perform call s).2.1
  done := (fated fates perform call s).2.2

/-- The state after the calls have been made one after another. -/
def carriedOut (s : σ × List Call) (calls : List Call) : σ × List Call :=
  calls.foldl (fun s call => (fated fates perform call s).2.2) s

/-- The calls of a run without a deadline. -/
def Decision.made : Decision → σ × List Call → List Call
  | .verdict _, _ => []
  | .log _ next, s => next.made s
  | .call asked next, s =>
    asked :: (next (fated fates perform asked s).1).made (fated fates perform asked s).2.2

theorem fated_calls (call : Call) (s : σ × List Call) :
    (fated fates perform call s).2.2.2 = s.2 ++ [call] := by
  unfold fated
  split <;> rfl

theorem carriedOut_calls (s : σ × List Call) (calls : List Call) :
    (carriedOut fates perform s calls).2 = s.2 ++ calls := by
  induction calls generalizing s with
  | nil => rw [List.append_nil]; rfl
  | cons call calls ih =>
    rw [List.append_cons, ← fated_calls fates perform]
    exact ih _

theorem carriedOut_concat (s : σ × List Call) (calls : List Call) (call : Call) :
    carriedOut fates perform s (calls ++ [call]) =
      (fated fates perform call (carriedOut fates perform s calls)).2.2 := by
  rw [carriedOut, List.foldl_concat]
  rfl

/-- What is left behind when the reply to a call does not come in time. -/
theorem sent_delayed (s : σ × List Call) (calls : List Call) (late : Call) :
    let left := (delayed fates perform late (carriedOut fates perform s calls)).sent
    left.2 = s.2 ++ (calls ++ [late]) ∧
      left.1 = (carriedOut fates perform s (if (fates (s.2 ++ calls).length).early
        then calls ++ [late] else calls)).1 := by
  unfold delayed
  dsimp only
  rw [carriedOut_calls]
  split
  · rw [← carriedOut_concat, carriedOut_calls]
    exact ⟨rfl, rfl⟩
  · exact ⟨List.append_assoc _ _ _, rfl⟩

variable {fates perform}

/-! ## Time -/

section

variable {timeout n used left : Nat}

/-- One more reply comes in time if its call takes no longer than there is time left. -/
theorem timely_succ_iff (before : spent fates n = some used) :
    Timely fates (used + left) (n + 1) ↔ ∃ wait, (fates n).latency = some wait ∧ wait ≤ left := by
  constructor
  · rintro ⟨total, all, enough⟩
    rw [spent, before, Option.bind_some, Option.map_eq_some_iff] at all
    obtain ⟨wait, takes, rfl⟩ := all
    exact ⟨wait, takes, Nat.le_of_add_le_add_left enough⟩
  · rintro ⟨wait, takes, enough⟩
    refine ⟨used + wait, ?_, Nat.add_le_add_left enough used⟩
    rw [spent, before, Option.bind_some, takes, Option.map_some]

end

/-! ## Decisions -/

namespace Decision

/-- Without a deadline, what a decision leaves behind is what its calls do. -/
theorem result_fated (d : Decision) (s : σ × List Call) :
    (d.result (fated fates perform) s).2 = carriedOut fates perform s (d.made fates perform s) := by
  induction d generalizing s with
  | verdict v => rfl
  | log line next ih => exact ih s
  | call asked next ih =>
    rw [result_of_waiting rfl]
    exact ih _ _

section

variable (perform) {s : σ × List Call} {used left : Nat}
  (before : spent fates s.2.length = some used)
include before

/-- A call whose reply comes in time is followed by what would follow it anyway. -/
theorem timed_call_of_timely (asked : Call) (next : Reply asked → Decision)
    (timely : Timely fates (used + left) (s.2.length + 1)) :
    ∃ wait, spent fates (fated fates perform asked s).2.2.2.length = some (used + wait) ∧
      used + wait + (left - wait) = used + left ∧
      (call asked next).timed (delayed fates perform) left s =
        (next (fated fates perform asked s).1).timed (delayed fates perform) (left - wait)
          (fated fates perform asked s).2.2 := by
  obtain ⟨wait, takes, enough⟩ := (timely_succ_iff before).mp timely
  have waits : (delayed fates perform asked s).latency = some wait := takes
  refine ⟨wait, ?_, by omega, ?_⟩
  · rw [fated_calls, List.length_append, List.length_singleton, spent, before, Option.bind_some,
      takes, Option.map_some]
  · rw [timed_of_waiting rfl, waits]
    exact if_neg (Nat.not_lt_of_le enough)

/-- A call whose reply does not come in time is the last one. -/
theorem timed_call_of_late (asked : Call) (next : Reply asked → Decision)
    (late : ¬ Timely fates (used + left) (s.2.length + 1)) :
    (call asked next).timed (delayed fates perform) left s =
      (none, (delayed fates perform asked s).sent) := by
  rw [timed_of_waiting rfl]
  cases takes : (delayed fates perform asked s).latency with
  | none => rfl
  | some wait =>
    have short : left < wait := Nat.lt_of_not_le fun enough =>
      late ((timely_succ_iff before).mpr ⟨wait, takes, enough⟩)
    exact if_pos short

/-- A decision all of whose replies come in time goes as it would without a deadline. -/
theorem timed_of_timely {d : Decision}
    (timely : Timely fates (used + left) (s.2.length + (d.made fates perform s).length)) :
    d.timed (delayed fates perform) left s =
      (some (d.result (fated fates perform) s).1, (d.result (fated fates perform) s).2) := by
  induction d generalizing s used left with
  | verdict v => rfl
  | log line next ih => exact ih before timely
  | call asked next ih =>
    obtain ⟨wait, before', time, goes⟩ := timed_call_of_timely perform before asked
      next (timely.mono (by simp [made]))
    rw [goes, result_of_waiting rfl]
    refine ih _ before' ?_
    rw [time, fated_calls, List.length_append, List.length_singleton, Nat.add_assoc, Nat.add_comm 1]
    exact timely

/-- A decision with a reply that does not come in time is dropped at the first of them. -/
theorem timed_of_late {d : Decision}
    (late : ¬ Timely fates (used + left) (s.2.length + (d.made fates perform s).length)) :
    ∃ sent last unsent, d.made fates perform s = sent ++ last :: unsent ∧
      Timely fates (used + left) (s.2.length + sent.length) ∧
      ¬ Timely fates (used + left) (s.2.length + sent.length + 1) ∧
      d.timed (delayed fates perform) left s =
        (none, (delayed fates perform last (carriedOut fates perform s sent)).sent) := by
  have now : Timely fates (used + left) s.2.length := ⟨used, before, Nat.le_add_right _ _⟩
  induction d generalizing s used left with
  | verdict v => exact absurd now late
  | log line next ih => exact ih before late now
  | call asked next ih =>
    by_cases timely : Timely fates (used + left) (s.2.length + 1)
    · obtain ⟨wait, before', time, goes⟩ := timed_call_of_timely perform before asked
        next timely
      have later : (fated fates perform asked s).2.2.2.length = s.2.length + 1 := by
        rw [fated_calls, List.length_append, List.length_singleton]
      have shift (n : Nat) : s.2.length + 1 + n = s.2.length + (n + 1) := by omega
      have late' : ¬ Timely fates (used + wait + (left - wait))
          ((fated fates perform asked s).2.2.2.length +
            ((next (fated fates perform asked s).1).made fates perform
              (fated fates perform asked s).2.2).length) := by
        rw [time, later, shift]
        exact late
      obtain ⟨sent, last, unsent, calls, inTime, tooLate, drops⟩ :=
        ih _ before' late' (by rwa [time, later])
      rw [time, later, shift] at inTime tooLate
      refine ⟨asked :: sent, last, unsent, ?_, inTime, tooLate, ?_⟩
      · rw [made, calls, List.cons_append]
      · rw [goes, drops]
        rfl
    · exact ⟨[], asked, _, rfl, now, timely, timed_call_of_late perform before asked next timely⟩

end

/-! From the first call on. -/

section

variable {d : Decision} {s : σ} {timeout : Nat}

variable (fates perform d s) in
theorem calls_fated : (d.result (fated fates perform) (s, [])).2.2 =
    d.made fates perform (s, []) := by
  rw [result_fated, carriedOut_calls, List.nil_append]

variable (fates s) in
theorem spent_start : spent fates (s, ([] : List Call)).2.length = some 0 := rfl

variable (perform) in
theorem timed_whole
    (timely : Timely fates timeout (d.result (fated fates perform) (s, [])).2.2.length) :
    d.timed (delayed fates perform) timeout (s, []) =
      (some (d.result (fated fates perform) (s, [])).1,
        (d.result (fated fates perform) (s, [])).2) := by
  refine timed_of_timely perform (spent_start fates s) ?_
  rw [calls_fated] at timely
  rwa [Nat.zero_add, List.length_nil, Nat.zero_add]

variable (perform) in
theorem timed_cut
    (late : ¬ Timely fates timeout (d.result (fated fates perform) (s, [])).2.2.length) :
    ∃ sent last unsent,
      (d.result (fated fates perform) (s, [])).2.2 = sent ++ last :: unsent ∧
        Timely fates timeout sent.length ∧ ¬ Timely fates timeout (sent.length + 1) ∧
        d.timed (delayed fates perform) timeout (s, []) =
          (none, (carriedOut fates perform (s, [])
            (if (fates sent.length).early then sent ++ [last] else sent)).1, sent ++ [last]) := by
  have late' : ¬ Timely fates (0 + timeout)
      ((s, ([] : List Call)).2.length + (d.made fates perform (s, [])).length) := by
    rw [calls_fated] at late
    rwa [Nat.zero_add, List.length_nil, Nat.zero_add]
  obtain ⟨sent, last, unsent, made, inTime, tooLate, drops⟩ :=
    timed_of_late perform (spent_start fates s) late'
  rw [Nat.zero_add, List.length_nil, Nat.zero_add] at inTime tooLate
  obtain ⟨issued, world⟩ := sent_delayed fates perform (s, []) sent last
  refine ⟨sent, last, unsent, ?_, inTime, tooLate, ?_⟩
  · rw [calls_fated, made]
  · rw [drops]
    exact Prod.ext rfl (Prod.ext world issued)

end

end Decision

/-! ## Reviews -/

/-- The answer is 200 with a JSON admission review, whose response has the `uid`. -/
structure Http.Response.IsAnswerTo (uid : String) (r : Http.Response) : Prop where
  status : r.status = 200
  contentType : r.contentType = some "application/json"
  apiVersion : r.said? ["apiVersion"] = some (.string "admission.k8s.io/v1")
  kind : r.said? ["kind"] = some (.string "AdmissionReview")
  uid : r.said? ["response", "uid"] = some (.string uid)

theorem Http.Response.isAnswerTo_json (uid : String) (v : Verdict) :
    (json (v.responseText uid)).IsAnswerTo uid := by
  refine ⟨rfl, rfl, ?_, ?_, ?_⟩
  all_goals
    cases v <;>
      simp [said?, json, Verdict.ofBytes?_responseText, Verdict.denial?, Json.Value.at?,
        Json.Value.get?, Json.Value.members, Dict.get?]

/-- What a review comes to, from what its decision comes to under the deadline. -/
theorem Webhook.handle_of_timed (send : Webhook.Sender σ) {c : Settings} {timeout : Nat}
    {r : Http.Request} {body : Http.Body} {s s' : σ} {review : EvictionReview}
    (decides : Webhook.step r body = .decide review) {verdict? : Option Verdict}
    (ends : (decideEviction c review.target).timed (send review.dryRun) timeout s =
      (verdict?, s')) :
    (handle send c timeout r body s).response =
        .json ((verdict?.getD (.deny .timedOut)).responseText review.uid) ∧
      (handle send c timeout r body s).state = s' := by
  obtain ⟨verdict, state⟩ := Prod.ext_iff.mp ends
  dsimp only [Decision.timed] at verdict state
  simp only [handle, decides, verdict, state, and_true]
  cases verdict? <;> rfl

/-- A deadline only cuts a decision short. If all replies to the calls of the whole decision
come in time, the review is answered with its verdict. Otherwise the answer is that the time
was up; the calls made are the first ones of the whole decision, each of them before the
deadline, and all of them have been carried out, but for the last one, which may have been. In
either case the answer is an `AdmissionReview` with the `uid` of the review. -/
theorem deadline_only_truncates (perform : Bool → (call : Call) → σ → Reply call × Log × σ)
    (fates : Nat → Fate) (c : Settings) (timeout : Nat) (r : Http.Request) (body : Http.Body)
    (s : σ) (review : EvictionReview) (decides : Webhook.step r body = .decide review) :
    let whole := (decideEviction c review.target).run (fated fates (perform review.dryRun)) (s, [])
    let handled := Webhook.handle (fun dryRun => delayed fates (perform dryRun)) c timeout r body
      (s, [])
    let after := carriedOut fates (perform review.dryRun) (s, [])
    whole.state = after whole.state.2 ∧
    (Timely fates timeout whole.state.2.length →
      handled.response = .json (whole.verdict.responseText review.uid) ∧
        handled.state = whole.state) ∧
    (¬ Timely fates timeout whole.state.2.length →
      handled.response = .json ((Verdict.deny .timedOut).responseText review.uid) ∧
      ∃ sent last unsent, whole.state.2 = sent ++ last :: unsent ∧
        handled.state.2 = sent ++ [last] ∧
        (∀ n ≤ sent.length, Timely fates timeout n) ∧ ¬ Timely fates timeout (sent.length + 1) ∧
        handled.state.1 = (after (if (fates sent.length).early then sent ++ [last] else sent)).1) ∧
    handled.response.IsAnswerTo review.uid := by
  intro whole handled after
  let d := decideEviction c review.target
  have ofTimed {verdict? : Option Verdict} {s' : σ × List Call}
      (ends : d.timed (delayed fates (perform review.dryRun)) timeout (s, []) = (verdict?, s')) :=
    Webhook.handle_of_timed (fun dryRun => delayed fates (perform dryRun)) decides ends
  refine ⟨?_, fun timely => ?_, fun late => ?_, ?_⟩
  · have calls := Decision.calls_fated fates (perform review.dryRun) d s
    exact (Decision.result_fated d (s, [])).trans (congrArg after calls.symm)
  · have ends : d.timed (delayed fates (perform review.dryRun)) timeout (s, []) =
        (some whole.verdict, whole.state) :=
      Decision.timed_whole (perform review.dryRun) (d := d) (s := s) timely
    obtain ⟨answers, state⟩ := ofTimed ends
    exact ⟨answers, state⟩
  · obtain ⟨sent, last, unsent, calls, inTime, tooLate, drops⟩ :=
      Decision.timed_cut (perform review.dryRun) (d := d) (s := s) late
    obtain ⟨answers, state⟩ := ofTimed drops
    obtain ⟨world, issued⟩ := Prod.ext_iff.mp state
    exact ⟨answers, sent, last, unsent, calls, issued, fun n le => inTime.mono le, tooLate, world⟩
  · obtain ⟨answers, -⟩ := ofTimed rfl
    exact answers ▸ Http.Response.isAnswerTo_json _ _

namespace Sample

/-- The fates of calls that take 400 ms each and are `Fate.early`. -/
def slow (_ : Nat) : Fate := ⟨some 400, none, true⟩

/-- `Webhook.handle` of the eviction of the pod, with such calls. -/
def slowly (timeout : Nat) : Webhook.Handled (World × List Call) :=
  Webhook.handle (fun _ => delayed slow (World.perform none)) .default timeout reviewRequest
    (reviewBody db false) (world, [])

theorem spent_slow (n : Nat) : spent slow n = some (400 * n) := by
  induction n with
  | zero => rfl
  | succ n ih =>
    rw [spent, ih]
    rfl

theorem timely_slow_iff {timeout n : Nat} : Timely slow timeout n ↔ 400 * n ≤ timeout := by
  simp only [Timely, spent_slow, Option.some.injEq, exists_eq_left']

theorem run_slow :
    let whole := (decideEviction .default db).run (fated slow (World.perform none)) (world, [])
    whole.verdict = .deny .rescheduleRequested ∧ whole.state.2 = [.getPod db,
      .getTracker .couchbaseCluster ⟨"main", some "prod"⟩,
      .setFlag .default db ⟨"main", some "prod"⟩, .setMarker .default db] := by
  decide

end Sample

/-- Four calls of 400 ms each are all made if there are 1600 ms for them. If there are 1000 ms,
the third one is the last, and the answer is that the time was up. -/
theorem deadline_truncates_slow_calls :
    (Sample.slowly 1600).response = .json ((Verdict.deny .rescheduleRequested).responseText "r") ∧
      (Sample.slowly 1600).state.2.length = 4 ∧
      (Sample.slowly 1000).response = .json ((Verdict.deny .timedOut).responseText "r") ∧
      (Sample.slowly 1000).state.2.length = 3 ∧ (Sample.slowly 1000).response.IsAnswerTo "r" := by
  have truncates (timeout : Nat) := deadline_only_truncates (fun _ => World.perform none)
    Sample.slow .default timeout Sample.reviewRequest (Sample.reviewBody Sample.db false)
    Sample.world ⟨"r", Sample.db, false⟩ (Sample.decides_db false)
  obtain ⟨verdict, calls⟩ := Sample.run_slow
  have length := congrArg List.length calls
  obtain ⟨-, inTime, -, -⟩ := truncates 1600
  obtain ⟨answer, state⟩ := inTime (by rw [calls, Sample.timely_slow_iff]; decide)
  obtain ⟨-, -, tooLate, answers⟩ := truncates 1000
  obtain ⟨timedOut, sent, last, unsent, -, issued, timely, late, -⟩ :=
    tooLate (by rw [calls, Sample.timely_slow_iff]; decide)
  have atMost := Sample.timely_slow_iff.mp (timely sent.length le_rfl)
  have atLeast := mt Sample.timely_slow_iff.mpr late
  rw [verdict] at answer
  unfold Sample.slowly
  refine ⟨answer, ?_, timedOut, ?_, answers⟩
  · rw [state]
    exact length
  · rw [issued, List.length_append, List.length_singleton]
    omega

end EvictionGate
