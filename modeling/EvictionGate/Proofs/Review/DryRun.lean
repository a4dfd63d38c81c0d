import EvictionGate.Proofs.Decision.Linearizable
import EvictionGate.Proofs.Review.Requests

/-!
# Dry runs

A review may ask for a dry run: its patches are answered as they would be for real, and
change nothing. A decision reads before it patches, and how a patch is answered depends on
nothing that it has patched itself; so a dry run goes as the real thing would. And as it
changes nothing, no other decision can tell that it runs.

Results:
1. `rehearsal_agrees`: a dry run and a real one make the same calls and come to the same
   verdict.
2. `Runner.mixed_eq`: among real decisions, dry runs can be left out.
3. `dry_runs_do_not_interfere`: both, and the mode of the patches that a review sends.
4. `dry_run_patches_for_real`: a name with a number sign in it makes a dry run patch for real.
-/

namespace EvictionGate

/-! ## A dry run and a real one -/

/-- `Trial.send` in a dry run: the reply is the same, and the world stays as it is. -/
def Trial.rehearse (fates : Nat → Fate) (call : Call) (s : Trial) : Exchange Trial call :=
  let x := Trial.send fates call s
  { x with sent := { x.sent with world := s.world }, done := { x.done with world := s.world } }

/-- `Trial.rehearse` in a dry run, and else `Trial.send`. -/
def Trial.sender (fates : Nat → Fate) : Webhook.Sender Trial
  | true => Trial.rehearse fates
  | false => Trial.send fates

namespace World

variable {w v : World}

/-- `w.SameNames v`: the worlds have pods and tracking objects in the same places. -/
structure SameNames (w v : World) : Prop where
  pods : ∀ t, (w.pods.get? t).isSome = (v.pods.get? t).isSome
  objects : ∀ place, (w.tracking.get? place).isSome = (v.tracking.get? place).isSome

theorem isSome_pod_after (w : World) (call : Call) (t : Target) :
    ((w.after call).pods.get? t).isSome = (w.pods.get? t).isSome := by
  cases found : w.pods.get? t with
  | none => rw [w.pod_after_absent found]
  | some pod =>
    obtain ⟨pod', found', -⟩ := w.pod_after found call
    rw [found']
    rfl

/-- Whatever becomes of a call, it neither brings nor takes anything. -/
theorem SameNames.attempt (same : w.SameNames v) (failure : Option GateError) (call : Call) :
    (w.attempt failure call).2.SameNames v := by
  rw [w.attempt_world]
  split
  · exact ⟨fun t => (w.isSome_pod_after call t).trans (same.pods t),
      fun place => (w.isSome_tracking_after call place).trans (same.objects place)⟩
  · exact same

/-- A read changes nothing. -/
theorem attempt_of_read (w : World) (failure : Option GateError) {call : Call}
    (reads : call.isPatch = false) : (w.attempt failure call).2 = w := by
  rw [w.attempt_world, w.after_of_read reads, ite_self]

/-- How a patch is answered depends on what is there, and not on what is in it. -/
theorem SameNames.reply (same : w.SameNames v) (failure : Option GateError) {call : Call}
    (patches : call.isPatch = true) : (w.attempt failure call).1 = (v.attempt failure call).1 := by
  cases failure with
  | some e => rfl
  | none =>
    unfold World.attempt
    cases call with
    | getPod | getTracker => cases patches
    | patchTracker k i key value =>
      have there := same.objects ⟨k, i⟩
      cases present : v.tracking.get? ⟨k, i⟩ with
      | none =>
        rw [present, Option.isSome_none, Option.isSome_eq_false_iff, Option.isNone_iff_eq_none]
          at there
        rw [answer_patchTracker_absent w there, answer_patchTracker_absent v present]
      | some o =>
        rw [present, Option.isSome_some, Option.isSome_iff_exists] at there
        obtain ⟨o', present'⟩ := there
        rw [answer_patchTracker w present', answer_patchTracker v present]
    | patchPod t key value =>
      have there := same.pods t
      cases found : v.pods.get? t with
      | none =>
        rw [found, Option.isSome_none, Option.isSome_eq_false_iff, Option.isNone_iff_eq_none]
          at there
        rw [answer_patchPod_absent w there, answer_patchPod_absent v found]
      | some pod =>
        rw [found, Option.isSome_some, Option.isSome_iff_exists] at there
        obtain ⟨pod', found'⟩ := there
        rw [answer_patchPod w found', answer_patchPod v found]

end World

/-- After a patch, a decision reads no more. -/
theorem Stage.isPatch_of_patch {c : Settings} {t : Target} {stage : Stage} {call call' : Call}
    {next : Reply call → Stage} {next' : Reply call' → Stage}
    (asks : stage.ask c t = some ⟨call, next⟩) (patches : call.isPatch = true)
    {reply : Reply call} (asks' : (next reply).ask c t = some ⟨call', next'⟩) :
    call'.isPatch = true := by
  cases stage with
  | fetch | look =>
    cases asks
    cases patches
  | unflag | rollBack =>
    cases asks
    cases reply <;> cases asks'
  | flag i =>
    cases asks
    cases reply with
    | ok _ =>
      cases asks'
      rfl
    | error e => cases asks'
  | mark flagged =>
    cases asks
    cases reply with
    | ok _ => cases asks'
    | error e =>
      cases flagged with
      | none => cases asks'
      | some i =>
        cases asks'
        rfl
  | ended v => cases asks

/-- `Rehearses c t w stage dry real`: two decisions that have started in `w` are both at `stage`
and have sent the same calls, one in a dry run, which has left `w` as it is. The world of the
other one is still `w` too as long as the stage waits for a read. -/
structure Rehearses (c : Settings) (t : Target) (w : World) (stage : Stage) (dry real : Trial) :
    Prop where
  unchanged : dry.world = w
  sent : dry.sent = real.sent
  names : real.world.SameNames w
  reads : ∀ call next, stage.ask c t = some ⟨call, next⟩ → call.isPatch = false → real.world = w

theorem Rehearses.step {c : Settings} {t : Target} {w : World} {fates : Nat → Fate}
    {stage : Stage} {dry real : Trial} {call : Call} {next : Reply call → Stage}
    (rehearses : Rehearses c t w stage dry real) (asks : stage.ask c t = some ⟨call, next⟩) :
    (Trial.rehearse fates call dry).latency = (Trial.send fates call real).latency ∧
      (Trial.rehearse fates call dry).reply = (Trial.send fates call real).reply ∧
      ((Trial.rehearse fates call dry).sent.world = w ∧
        (Trial.rehearse fates call dry).sent.sent = (Trial.send fates call real).sent.sent) ∧
      Rehearses c t w (next (Trial.rehearse fates call dry).reply)
        (Trial.rehearse fates call dry).done (Trial.send fates call real).done := by
  obtain ⟨rfl, sent, names, reads⟩ := rehearses
  have reply : (dry.world.attempt (fates dry.sent.length).failure call).1 =
      (real.world.attempt (fates dry.sent.length).failure call).1 := by
    cases patches : call.isPatch with
    | true => exact (names.reply _ patches).symm
    | false => rw [reads call next asks patches]
  refine ⟨?_, ?_, ⟨rfl, ?_⟩, ⟨rfl, ?_, ?_, ?_⟩⟩
  · simp only [Trial.rehearse, Trial.send, sent]
  · simp only [Trial.rehearse, Trial.send]
    rw [reply, sent]
  · simp only [Trial.rehearse, Trial.send, Trial.abandoned, Trial.answered]
    rw [← sent]
    split
    · rw [reply]
    · rfl
  · simp only [Trial.rehearse, Trial.send, Trial.answered]
    rw [reply, sent]
  · exact names.attempt _ call
  · intro call' next' asks' reads'
    cases patches : call.isPatch with
    | true =>
      rw [Stage.isPatch_of_patch asks patches asks'] at reads'
      cases reads'
    | false => exact (real.world.attempt_of_read _ patches).trans (reads call next asks patches)

/-- A dry run and a real one come to the same verdict through the same calls, and the dry run
changes nothing. -/
theorem rehearsal_agrees (c : Settings) (t : Target) (fates : Nat → Fate) (timeout : Nat)
    (w : World) :
    ((decideEviction c t).timed (Trial.rehearse fates) timeout ⟨w, []⟩).1 =
        (decideWithin c t fates timeout w).1 ∧
      ((decideEviction c t).timed (Trial.rehearse fates) timeout ⟨w, []⟩).2.world = w ∧
      ((decideEviction c t).timed (Trial.rehearse fates) timeout ⟨w, []⟩).2.sent =
        (decideWithin c t fates timeout w).2.sent := by
  have start : Rehearses c t w .fetch ⟨w, []⟩ ⟨w, []⟩ :=
    ⟨rfl, rfl, ⟨fun _ => rfl, fun _ => rfl⟩, fun _ _ _ _ => rfl⟩
  exact timed_pair (Trial.rehearse fates) (Trial.send fates)
    (Q := fun dry real => dry.world = w ∧ dry.sent = real.sent)
    (fun asks rehearses => rehearses.step asks)
    (fun rehearses => ⟨rehearses.unchanged, rehearses.sent⟩) start

/-! ## Dry runs among real decisions -/

/-- `World.attempt` in a dry run: the reply is the same, and the world stays as it is. -/
def World.rehearse (failure : Option GateError) (call : Call) (w : World) :
    Reply call × Log × World :=
  ((w.attempt failure call).1, [], w)

namespace Runner

variable {ι : Type} [DecidableEq ι]

/-- `Runner.interleave` with `World.rehearse` for the decisions of `dry`. -/
def mixed (dry : ι → Bool) : List (Slot ι) → (ι → Runner) → World → (ι → Runner) × World
  | [], rs, w => (rs, w)
  | a :: turns, rs, w =>
    let perform := if dry a.who then World.rehearse a.failure else World.perform a.failure
    let next := (rs a.who).turn perform 0 w
    mixed dry turns (Function.update rs a.who next.1) next.2.2

omit [DecidableEq ι] in
/-- A turn of a dry run changes nothing. -/
theorem turn_rehearse (r : Runner) (failure : Option GateError) (w : World) :
    (r.turn (World.rehearse failure) 0 w).2.2 = w := by
  unfold turn
  split
  · split <;> rfl
  · rfl
  · rfl

/-- Among real decisions, dry runs can be left out. -/
theorem mixed_eq (dry : ι → Bool) (turns : List (Slot ι)) {rs rs' : ι → Runner}
    (same : ∀ i, dry i = false → rs i = rs' i) (w : World) :
    (∀ i, dry i = false → (mixed dry turns rs w).1 i =
        (interleave (turns.filter fun a => !dry a.who) rs' w).1 i) ∧
      (mixed dry turns rs w).2 = (interleave (turns.filter fun a => !dry a.who) rs' w).2 := by
  induction turns generalizing rs rs' w with
  | nil => exact ⟨same, rfl⟩
  | cons a turns ih =>
    cases mode : dry a.who with
    | true =>
      rw [List.filter_cons_of_neg (by simp [mode])]
      simp only [mixed, mode, if_true, turn_rehearse]
      refine ih (fun i real => ?_) w
      rw [Function.update_of_ne (by rintro rfl; cases real.symm.trans mode)]
      exact same i real
    | false =>
      rw [List.filter_cons_of_pos (by simp [mode])]
      simp only [mixed, mode, Bool.false_eq_true, if_false, interleave, same a.who mode]
      refine ih (fun i real => ?_) _
      by_cases h : i = a.who
      · rw [h, Function.update_self, Function.update_self]
      · rw [Function.update_of_ne h, Function.update_of_ne h]
        exact same i real

end Runner

/-- Dry runs do not interfere. Every patch that a review sends is of the mode of the review,
whatever the API server does, if the names in the review and in the answers stay in the path.
A dry run is answered as the real thing, through the same calls, and changes nothing. And
where reviews take turns, call by call, leaving out the dry runs changes neither the verdict
of another review nor the world. -/
theorem dry_runs_do_not_interfere (c : Settings) :
    (∀ {σ : Type} (api : Api σ) (timeout : Nat) (r : Http.Request) (body : Http.Body) (s : σ)
      (review : EvictionReview), Webhook.step r body = .decide review →
      review.target.staysInPath = true →
      NamesStay c review.target (Webhook.handle api.send c timeout r body (s, [])).state.2 →
      OfMode review.dryRun (Webhook.handle api.send c timeout r body (s, [])).state.2) ∧
    (∀ (w : World) (fates : Nat → Fate) (timeout : Nat) (r r' : Http.Request)
      (body body' : Http.Body) (uid : String) (t : Target),
      Webhook.step r body = .decide ⟨uid, t, true⟩ →
      Webhook.step r' body' = .decide ⟨uid, t, false⟩ →
      (Webhook.handle (Trial.sender fates) c timeout r body ⟨w, []⟩).response =
          (Webhook.handle (Trial.sender fates) c timeout r' body' ⟨w, []⟩).response ∧
        (Webhook.handle (Trial.sender fates) c timeout r body ⟨w, []⟩).state.sent =
          (Webhook.handle (Trial.sender fates) c timeout r' body' ⟨w, []⟩).state.sent ∧
        (Webhook.handle (Trial.sender fates) c timeout r body ⟨w, []⟩).state.world = w) ∧
    ∀ {n : Nat} (target : Fin n → Target) (dry : Fin n → Bool) (turns : List (Slot (Fin n)))
      (w : World),
      (∀ i, dry i = false →
        ((Runner.mixed dry turns (fun i => evicting c (target i)) w).1 i).verdict? =
          ((Runner.interleave (turns.filter fun a => !dry a.who)
            (fun i => evicting c (target i)) w).1 i).verdict?) ∧
        (Runner.mixed dry turns (fun i => evicting c (target i)) w).2 =
          (Runner.interleave (turns.filter fun a => !dry a.who)
            (fun i => evicting c (target i)) w).2 := by
  refine ⟨?_, ?_, ?_⟩
  · intro σ api timeout r body s review decides stays named
    exact Webhook.ofMode_sent api c timeout s decides stays named
  · intro w fates timeout r r' body body' uid t dry real
    obtain ⟨verdict, unchanged, sent⟩ := rehearsal_agrees c t fates timeout w
    simp only [Webhook.handle, dry, real]
    refine ⟨?_, sent, unchanged⟩
    have answers (v : Option Verdict) :
        (Webhook.conclude ⟨uid, t, true⟩ v).2 = (Webhook.conclude ⟨uid, t, false⟩ v).2 := by
      cases v <;> rfl
    exact (congrArg (fun v => (Webhook.conclude ⟨uid, t, true⟩ v).2) verdict).trans (answers _)
  · intro n target dry turns w
    obtain ⟨runs, leaves⟩ := Runner.mixed_eq dry turns (fun i _ => rfl) w
    exact ⟨fun i real => congrArg Runner.verdict? (runs i real), leaves⟩

namespace Sample

open Json

/-- A review of the eviction of a pod. -/
def reviewBody (t : Target) (dryRun : Bool) : Http.Body :=
  .ok <| Text.bytes <| Value.text <| .object [("request", .object [
    ("uid", .string "r"),
    ("dryRun", .bool dryRun),
    ("object", .object [("metadata", .object [
      ("name", .string t.name), ("namespace", .string t.ns)])])])]

def reviewRequest : Http.Request :=
  ⟨"POST", "/eviction", [⟨"content-type", Text.bytes "application/json"⟩]⟩

/-- The pod and its database cluster, as an API server keeps them. -/
def server : ApiServer := .ofObjects [
  ("/api/v1/namespaces/prod/pods/db-0", .object [("metadata", .object [
    ("namespace", .string "prod"),
    ("labels", .object [("app", .string "couchbase"), ("couchbase_cluster", .string "main")])])]),
  ("/apis/couchbase.com/v2/namespaces/prod/couchbaseclusters/main", .object [
    ("spec", .object [("upgradeProcess", .string "InPlaceUpgrade")])])]

/-- `Webhook.handle` of a dry run about the pod. -/
def rehearsal (t : Target) : Webhook.Handled (ApiServer × Traffic) :=
  Webhook.handle ApiServer.api.send .default 1000 reviewRequest (reviewBody t true) (server, [])

set_option maxRecDepth 100000 in
theorem decides_db (dryRun : Bool) :
    Webhook.step reviewRequest (reviewBody db dryRun) = .decide ⟨"r", db, dryRun⟩ := by
  cases dryRun <;> decide +kernel

set_option maxRecDepth 100000 in
theorem namesStay_rehearsal : NamesStay .default db (rehearsal db).state.2 := by
  have all : ((rehearsal db).state.2.all fun e => e.2.staysInPath .default db) = true := by
    -- the kernel evaluates `String.toList` in quadratic time, so it is rewritten before
    unfold rehearsal reviewBody Api.send
    simp only [ApiServer.api, ApiServer.answer.eq_def, ApiServer.act, ApiServer.jsonAnswer,
      Call.request?, Call.target?, Http.PathAndQuery.isSound, Text.bytes, Value.text,
      String.toList_ofList]
    simp only [Text.toList_eq_chars?]
    decide +kernel
  exact List.all_eq_true.mp all

/-- A dry run and a real decision about one pod, taking turns. -/
def alternating : List (Slot (Fin 2)) :=
  [⟨0, none⟩, ⟨1, none⟩, ⟨0, none⟩, ⟨1, none⟩, ⟨0, none⟩, ⟨1, none⟩, ⟨0, none⟩, ⟨1, none⟩]

end Sample

/-- A dry run of an eviction patches in its mode, is answered as the eviction itself, and
leaves another eviction of the pod alone. -/
theorem dry_run_does_not_interfere_db :
    OfMode true (Sample.rehearsal Sample.db).state.2 ∧
      (Webhook.handle (Trial.sender fun _ => ⟨some 0, none, false⟩) .default 1000
          Sample.reviewRequest (Sample.reviewBody Sample.db true) ⟨Sample.world, []⟩).response =
        (Webhook.handle (Trial.sender fun _ => ⟨some 0, none, false⟩) .default 1000
          Sample.reviewRequest (Sample.reviewBody Sample.db false) ⟨Sample.world, []⟩).response ∧
      ((Runner.mixed (fun i : Fin 2 => i = 0) Sample.alternating
        (fun _ => evicting .default Sample.db) Sample.world).1 1).verdict? =
        some (.deny .rescheduleRequested) := by
  obtain ⟨modes, agrees, leaves⟩ := dry_runs_do_not_interfere .default
  have dry := Sample.decides_db true
  have real := Sample.decides_db false
  have named := Sample.namesStay_rehearsal
  unfold Sample.rehearsal at named
  have mode := modes ApiServer.api 1000 Sample.reviewRequest (Sample.reviewBody Sample.db true)
    Sample.server ⟨"r", Sample.db, true⟩ dry (by decide) named
  have alone := leaves (fun _ => Sample.db) (fun i => i = 0) Sample.alternating Sample.world
  refine ⟨?_, (agrees Sample.world _ 1000 _ _ _ _ _ _ dry real).1, ?_⟩
  · unfold Sample.rehearsal
    exact mode
  · refine (alone.1 1 (by decide)).trans ?_
    decide

set_option maxRecDepth 100000 in
/-- A dry run about a name with a number sign in it patches for real: what comes after the
sign is lost, with the word that it is a dry run, and the pod of the shorter name is patched. -/
theorem dry_run_patches_for_real :
    Webhook.step Sample.reviewRequest (Sample.reviewBody ⟨"db-0#x", "prod"⟩ true) =
        .decide ⟨"r", ⟨"db-0#x", "prod"⟩, true⟩ ∧
      (Sample.rehearsal ⟨"db-0#x", "prod"⟩).state.2.map
          (fun e => (e.1.method, e.1.target.path, ApiServer.isDryRun e.1)) =
        [(.get, "/api/v1/namespaces/prod/pods/db-0", false),
          (.get, "/apis/couchbase.com/v2/namespaces/prod/couchbaseclusters/main", false),
          (.patch, "/apis/couchbase.com/v2/namespaces/prod/couchbaseclusters/main", true),
          (.patch, "/api/v1/namespaces/prod/pods/db-0", false)] := by
  refine ⟨by decide +kernel, ?_⟩
  unfold Sample.rehearsal Sample.reviewBody Api.send
  simp only [ApiServer.api, ApiServer.answer.eq_def, ApiServer.act, ApiServer.jsonAnswer,
    Call.request?, Call.target?, Http.PathAndQuery.isSound, Text.bytes, Json.Value.text,
    String.toList_ofList]
  simp only [Text.toList_eq_chars?]
  decide +kernel

end EvictionGate
