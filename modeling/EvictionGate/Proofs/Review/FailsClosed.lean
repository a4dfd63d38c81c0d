import EvictionGate.Proofs.Decision.Dialogue
import EvictionGate.Proofs.Json.Text
import EvictionGate.Proofs.Review.DryRun
import Mathlib.Data.String.Basic

/-!
# Reviews are denied unless there are grounds

What a review is answered depends on what has been heard from the API server in time. Without
grounds to let the eviction proceed it is denied, and without grounds to say that the pod is
gone, or is to move, the denial says that something has failed.

Results:
1. `Verdict.ofBytes?_responseText`: what the answer to a review says, read as JSON.
2. `Webhook.exists_verdict`: the answer to a review has its grounds in what has been heard.
3. `fails_closed`: which grounds there are for each answer.
-/

namespace EvictionGate

open Json

/-! ## What an answer says -/

theorem Denial.code_mem (d : Denial) : d.code ∈ [404, 429, 500] := by
  cases d <;> decide

namespace Verdict

/-- The answer to a review as it reads: members are in the order of their names. -/
theorem ofBytes?_responseText (uid : String) (v : Verdict) :
    Value.ofBytes? (Text.bytes (v.responseText uid)) = some (.object [
      ("apiVersion", .string "admission.k8s.io/v1"),
      ("kind", .string "AdmissionReview"),
      ("response", .object (("allowed", .bool v.isAllowed) ::
        (match v.denial? with
          | some d => [("status", .object [("code", .ofNat d.code), ("message", .string d.message),
              ("reason", .string d.reason.name), ("status", .string "Failure")])]
          | none => []) ++ [("uid", .string uid)]))]) := by
  have code (d : Denial) : (Number.integer d.code).numeral.keep? = some (.integer d.code) := by
    cases d <;> exact Number.keep_integer (by decide) (by decide)
  cases v with
  | allow =>
    simp [Value.ofBytes?, Schema.ofBytes?, responseText, Value.read?_text, response, denial?,
      isAllowed, Value.raw, Value.rawMembers, Raw.take?, Raw.takeMembers?, pieceText?_stringPieces,
      Schema.member?, Schema.required, Schema.admitsObjects, Schema.admitsText, Schema.admitsBool,
      maxDepth, Dict.insert,
      -String.lt_iff_ltb]
  | deny d =>
    simp [Value.ofBytes?, Schema.ofBytes?, responseText, Value.read?_text, response, denial?,
      isAllowed, Value.raw, Value.rawMembers, Raw.take?, Raw.takeMembers?, pieceText?_stringPieces,
      Schema.member?, Schema.required, Schema.admitsObjects, Schema.admitsText, Schema.admitsBool,
      Schema.admitsNumber, status, Value.ofNat, code, maxDepth, Dict.insert,
      -String.lt_iff_ltb]

end Verdict

namespace Http.Response

/-- The value under a path of names in the body of an answer, if the body is JSON. -/
def said? (r : Response) (path : List String) : Option Value :=
  (Value.ofBytes? (Text.bytes r.body)).bind fun v => v.at? path

/-- The field `response.allowed` of an answer. -/
def allowed? (r : Response) : Option Bool :=
  (r.said? ["response", "allowed"]).bind Value.bool?

/-- The field `response.status.code` of an answer whose `response.status.status` is `Failure`. -/
def failure? (r : Response) : Option Nat :=
  if (r.said? ["response", "status", "status"]).bind Value.text? = some "Failure" then
    (r.said? ["response", "status", "code"]).bind Value.nat?
  else none

theorem allowed?_json (uid : String) (v : Verdict) :
    (json (v.responseText uid)).allowed? = some v.isAllowed := by
  cases v <;>
    simp [allowed?, said?, json, Verdict.ofBytes?_responseText, Value.at?, Value.get?,
      Value.members, Dict.get?, Value.bool?]

theorem failure?_json (uid : String) (v : Verdict) :
    (json (v.responseText uid)).failure? = v.denial?.map Denial.code := by
  cases v <;>
    simp [failure?, said?, json, Verdict.ofBytes?_responseText, Verdict.denial?, Value.at?,
      Value.get?, Value.members, Dict.get?, Value.text?, Value.nat?, Value.ofNat]

theorem allowed?_empty (status : Nat) : (empty status).allowed? = none := rfl

end Http.Response

/-! ## Reviews -/

namespace Webhook

variable {c : Settings} {timeout : Nat} {r : Http.Request} {body : Http.Body}

/-- What is answered without a decision lets nothing proceed. -/
theorem allowed?_of_answer {log : Log} {response : Http.Response}
    (answers : step r body = .answer log response) : response.allowed? = none := by
  have empty : ∃ status, response = .empty status := by
    unfold step at answers
    split at answers
    · next routes =>
      cases answers
      unfold route at routes
      split at routes
      · split at routes
        · cases routes
        · cases routes
          exact ⟨_, rfl⟩
      · split at routes
        · cases routes
          exact ⟨_, rfl⟩
        · cases routes
          exact ⟨_, rfl⟩
    · unfold withBody at answers
      split at answers
      · cases answers
        exact ⟨_, rfl⟩
      · split at answers
        · cases answers
          exact ⟨_, rfl⟩
        · cases answers
  obtain ⟨status, rfl⟩ := empty
  exact Http.Response.allowed?_empty status

theorem response_of_verdict {σ : Type} {send : Sender σ} {s : σ} {review : EvictionReview}
    (decides : step r body = .decide review) {v : Verdict}
    (ends : ((decideEviction c review.target).runWithin (send review.dryRun) timeout s).verdict =
      some v) : (handle send c timeout r body s).response = .json (v.responseText review.uid) := by
  simp only [handle, decides, ends]
  rfl

/-- A review that is decided is answered with a verdict, which has its grounds in what has been
heard, unless the time was up. -/
theorem exists_verdict {σ : Type} (send : Sender σ) (c : Settings) (timeout : Nat) (s : σ)
    {review : EvictionReview}
    (decides : step r body = .decide review) :
    ∃ v : Verdict, (handle send c timeout r body s).response = .json (v.responseText review.uid) ∧
      (v = .deny .timedOut ∨ ∃ heard left,
        Dialogue (send review.dryRun) s timeout heard left (handle send c timeout r body s).state ∧
          Grounds c review.target (.ended v) heard) := by
  cases ends :
    ((decideEviction c review.target).runWithin (send review.dryRun) timeout s).verdict with
  | none =>
    refine ⟨.deny .timedOut, ?_, .inl rfl⟩
    simp only [handle, decides, ends]
    rfl
  | some v =>
    refine ⟨v, response_of_verdict decides ends, .inr ?_⟩
    simp only [handle, decides]
    exact exists_dialogue _ c review.target timeout s ends

end Webhook

/-- The requests to an API server are those of the calls that have been answered. -/
theorem Dialogue.requests {σ : Type} {api : Api σ} {dryRun : Bool} {s : σ} {timeout left : Nat}
    {heard : List Heard} {s' : σ × Traffic}
    (dialogue : Dialogue (api.send dryRun) (s, []) timeout heard left s') :
    s'.2.map Prod.fst = heard.filterMap fun h => h.1.request? dryRun := by
  induction dialogue with
  | start => rfl
  | @answered heard left wait s' call _ _ _ ih =>
    rw [List.filterMap_append, ← ih]
    unfold Api.send
    cases becomes : call.request? dryRun with
    | none => simp [becomes]
    | some q => simp [becomes]

/-! ## Grounds of an answer -/

/-- `Foreign c t heard`: the only reply is a pod for which `Settings.selects` fails. It is the
ground of `allow`. -/
inductive Foreign (c : Settings) (t : Target) : List Heard → Prop
  | read {pod : Pod} : c.selects pod = false → Foreign c t [⟨.getPod t, .ok pod⟩]

/-- `Gone c t heard`: the ground of a denial with the code 404.

* `absent`: `getPod` is answered with 404. The verdict is `podRescheduled`.
* `moved`: the pod is selected and has no marker, its tracking object has the flag, and
  `clearFlag` has succeeded. The verdict is `podRescheduledWithSameName`. -/
inductive Gone (c : Settings) (t : Target) : List Heard → Prop
  | absent {answer : ApiStatus} : answer.code = 404 →
      Gone c t [⟨.getPod t, .error (.api (.refused answer))⟩]
  | moved {pod : Pod} {i : Tracker} {o : DynamicObject} : c.selects pod = true →
      c.markerIsOn pod = false → c.trackerKind.trackerOf? pod = some i →
      o.annotationAt? t.flagKey = some flagValue →
      Gone c t [⟨.getPod t, .ok pod⟩, ⟨.getTracker c.trackerKind i, .ok o⟩,
        ⟨.clearFlag c t i, .ok ()⟩]

/-- `Moving c t heard`: the ground of a denial with the code 429.

* `waiting`: the pod is selected and has the marker. The verdict is `waitingForReschedule`.
* `requested`: the pod is selected, and the last call was a `setMarker` that has succeeded. The
  verdict is `rescheduleRequested`. -/
inductive Moving (c : Settings) (t : Target) : List Heard → Prop
  | waiting {pod : Pod} : c.selects pod = true → c.markerIsOn pod = true →
      Moving c t [⟨.getPod t, .ok pod⟩]
  | requested {pod : Pod} {heard : List Heard} : c.selects pod = true →
      Moving c t (⟨.getPod t, .ok pod⟩ :: heard ++ [⟨.setMarker c t, .ok ()⟩])

namespace Grounds

variable {c : Settings} {t : Target} {heard : List Heard} {d : Denial}

theorem foreign_of_allow (grounds : Grounds c t (.ended .allow) heard) : Foreign c t heard := by
  cases grounds with
  | foreign unselected => exact .read unselected

theorem gone_of_code (grounds : Grounds c t (.ended (.deny d)) heard) (code : d.code = 404) :
    Gone c t heard := by
  cases grounds with
  | gone absent => exact .absent absent
  | moved selected unmarked tracked flagged => exact .moved selected unmarked tracked flagged
  | waiting | requested => cases code
  | failed other => cases other.symm.trans code

theorem moving_of_code (grounds : Grounds c t (.ended (.deny d)) heard) (code : d.code = 429) :
    Moving c t heard := by
  cases grounds with
  | waiting selected marked => exact .waiting selected marked
  | requested selected => exact .requested selected
  | gone | moved => cases code
  | failed other => cases other.symm.trans code

end Grounds

/-- Nothing is patched to learn that a pod is of no concern. -/
theorem Foreign.not_patch {c : Settings} {t : Target} {heard : List Heard}
    (foreign : Foreign c t heard) {σ : Type} {api : Api σ} {dryRun : Bool} {s : σ}
    {timeout left : Nat} {s' : σ × Traffic}
    (dialogue : Dialogue (api.send dryRun) (s, []) timeout heard left s') :
    ∀ e ∈ s'.2, e.1.method ≠ .patch := by
  intro e mem patch
  have request : e.1 ∈ s'.2.map Prod.fst := List.mem_map_of_mem mem
  rw [dialogue.requests] at request
  obtain ⟨h, mem, becomes⟩ := List.mem_filterMap.mp request
  have patches := Call.isPatch_of_request becomes patch
  cases foreign
  rw [List.mem_singleton.mp mem] at patches
  cases patches

/-- The webhook fails closed. Whatever the API server does, an eviction is allowed only if the
pod has been read in time and is of no concern, and then nothing has been patched. Every other
review is denied with code 404, 429 or 500: with 404 only if the pod is gone, and with 429 only
if it is to move, by what has been heard in time. -/
theorem fails_closed {σ : Type} (api : Api σ) (c : Settings) (timeout : Nat) (r : Http.Request)
    (body : Http.Body) (s : σ) :
    let handled := Webhook.handle api.send c timeout r body (s, [])
    (handled.response.allowed? = some true →
      ∃ review heard left, Webhook.step r body = .decide review ∧
        Dialogue (api.send review.dryRun) (s, []) timeout heard left handled.state ∧
        Foreign c review.target heard ∧ ∀ e ∈ handled.state.2, e.1.method ≠ .patch) ∧
    ∀ review, Webhook.step r body = .decide review →
      (handled.response.allowed? = some true ∨ handled.response.allowed? = some false ∧
        ∃ code ∈ [404, 429, 500], handled.response.failure? = some code) ∧
      (handled.response.failure? = some 404 → ∃ heard left,
        Dialogue (api.send review.dryRun) (s, []) timeout heard left handled.state ∧
          Gone c review.target heard) ∧
      (handled.response.failure? = some 429 → ∃ heard left,
        Dialogue (api.send review.dryRun) (s, []) timeout heard left handled.state ∧
          Moving c review.target heard) := by
  intro handled
  constructor
  · intro allowed
    cases decides : Webhook.step r body with
    | answer log response =>
      have answers : handled.response = response := by
        simp only [handled, Webhook.handle, decides]
      rw [answers, Webhook.allowed?_of_answer decides] at allowed
      cases allowed
    | decide review =>
      obtain ⟨v, answers, grounds⟩ :=
        Webhook.exists_verdict api.send c timeout (s, []) decides
      rw [answers, Http.Response.allowed?_json] at allowed
      cases v with
      | deny d => cases allowed
      | allow =>
        rcases grounds with late | ⟨heard, left, dialogue, grounds⟩
        · cases late
        · have foreign := grounds.foreign_of_allow
          exact ⟨review, heard, left, rfl, dialogue, foreign, foreign.not_patch dialogue⟩
  · intro review decides
    obtain ⟨v, answers, grounds⟩ :=
      Webhook.exists_verdict api.send c timeout (s, []) decides
    have allowed : handled.response.allowed? = some v.isAllowed :=
      (congrArg _ answers).trans (Http.Response.allowed?_json review.uid v)
    have failure : handled.response.failure? = v.denial?.map Denial.code :=
      (congrArg _ answers).trans (Http.Response.failure?_json review.uid v)
    rw [allowed, failure]
    cases v with
    | allow =>
      refine ⟨.inl rfl, fun code => ?_, fun code => ?_⟩
      · cases code
      · cases code
    | deny d =>
      refine ⟨.inr ⟨rfl, d.code, d.code_mem, rfl⟩, fun code => ?_, fun code => ?_⟩
      · rcases grounds with late | ⟨heard, left, dialogue, grounds⟩
        · -- what is not decided in time is answered with 500
          cases late
          cases code
        · exact ⟨heard, left, dialogue, grounds.gone_of_code (Option.some.inj code)⟩
      · rcases grounds with late | ⟨heard, left, dialogue, grounds⟩
        · cases late
          cases code
        · exact ⟨heard, left, dialogue, grounds.moving_of_code (Option.some.inj code)⟩

namespace Sample

/-- An API server that gives one answer to every request. -/
def answering (answer : ApiAnswer) : Api Unit where
  arrive _ s := s
  latency _ _ := some 0
  answer _ _ := answer
  handled _ s := s

/-- `Webhook.handle` of the eviction of the pod, with such a server. -/
def evicted (answer : ApiAnswer) : Webhook.Handled (Unit × Traffic) :=
  Webhook.handle (answering answer).send .default 1000 reviewRequest (reviewBody db false) ((), [])

def stranger : ApiAnswer := ApiServer.jsonAnswer 200 (.object [])

def nobody : ApiAnswer := ApiServer.jsonAnswer 404 (.object [])

def leaver : ApiAnswer := ApiServer.jsonAnswer 200 (.object [("metadata", .object [
  ("annotations", .object [("cao.couchbase.com/reschedule", .string "true")]),
  ("labels", .object [("app", .string "couchbase")])])])

theorem response_evicted {answer : ApiAnswer} {v : Verdict}
    (ends : ((decideEviction .default db).runWithin ((answering answer).send false) 1000
      ((), [])).verdict = some v) : (evicted answer).response = .json (v.responseText "r") := by
  unfold evicted
  have answers := Webhook.response_of_verdict (c := .default) (decides_db false) ends
  exact answers

theorem allowed?_stranger : (evicted stranger).response.allowed? = some true := by
  have ends : ((decideEviction .default db).runWithin ((answering stranger).send false) 1000
      ((), [])).verdict = some .allow := by
    decide +kernel
  rw [response_evicted ends, Http.Response.allowed?_json, Verdict.isAllowed]

theorem failure?_nobody : (evicted nobody).response.failure? = some 404 := by
  have ends : ((decideEviction .default db).runWithin ((answering nobody).send false) 1000
      ((), [])).verdict = some (.deny .podRescheduled) := by
    decide +kernel
  rw [response_evicted ends, Http.Response.failure?_json]
  rfl

theorem failure?_leaver : (evicted leaver).response.failure? = some 429 := by
  have ends : ((decideEviction .default db).runWithin ((answering leaver).send false) 1000
      ((), [])).verdict = some (.deny .waitingForReschedule) := by
    decide +kernel
  rw [response_evicted ends, Http.Response.failure?_json]
  rfl

end Sample

/-- A pod without labels may be evicted, a pod that is not there is gone, and a pod that is
marked is to move. -/
theorem fails_closed_on_pods :
    ((Sample.evicted Sample.stranger).response.allowed? = some true ∧
      ∀ e ∈ (Sample.evicted Sample.stranger).state.2, e.1.method ≠ .patch) ∧
    ((Sample.evicted Sample.nobody).response.failure? = some 404 ∧ ∃ heard left,
      Dialogue ((Sample.answering Sample.nobody).send false) ((), []) 1000 heard left
        (Sample.evicted Sample.nobody).state ∧ Gone .default Sample.db heard) ∧
    ((Sample.evicted Sample.leaver).response.failure? = some 429 ∧ ∃ heard left,
      Dialogue ((Sample.answering Sample.leaver).send false) ((), []) 1000 heard left
        (Sample.evicted Sample.leaver).state ∧ Moving .default Sample.db heard) := by
  have allowed := Sample.allowed?_stranger
  have gone := Sample.failure?_nobody
  have moving := Sample.failure?_leaver
  unfold Sample.evicted at allowed gone moving ⊢
  have closed (answer : ApiAnswer) := fails_closed (Sample.answering answer) .default 1000
    Sample.reviewRequest (Sample.reviewBody Sample.db false) ()
  obtain ⟨_, _, _, _, _, _, unpatched⟩ := (closed Sample.stranger).1 allowed
  have decides := Sample.decides_db false
  exact ⟨⟨allowed, unpatched⟩, ⟨gone, ((closed Sample.nobody).2 _ decides).2.1 gone⟩,
    moving, ((closed Sample.leaver).2 _ decides).2.2 moving⟩

end EvictionGate
