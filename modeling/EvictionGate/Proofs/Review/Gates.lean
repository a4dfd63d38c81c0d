import EvictionGate.Proofs.Http.ContentType
import EvictionGate.Proofs.Review.Answer
import EvictionGate.Serving.Connection

/-!
# The gates before the cluster

The API server hears of a request only once the request has passed all gates: its path, its
content type, its body to the end, the review in it. A request that passes is answered with a
review, and no other one on that path is; the answer says at which gate the others have failed, and
has no body. The content type is judged before the body is read, on the wire too.

Results:
1. `Webhook.step_eq_decide_iff`: which requests pass the gates.
2. `Serving.Connection.withHead_of_answer`: what is answered before a body is read.
3. `Webhook.gates`: what is answered at the gates, and that nothing is sent before.
-/

namespace EvictionGate

open Http

namespace Http

/-- A body as it comes in: chunks and trailers, up to its end or to a fault. -/
inductive Incoming
  | ended
  | broken (fault : String)
  | data (chunk : List UInt8) (others : Incoming)
  | trailers (fields : List Header) (others : Incoming)

namespace Incoming

/-- All chunks of the body, or the fault that ends it. -/
def collect : Incoming → Body
  | ended => .ok []
  | broken fault => .error fault
  | data chunk others => others.collect.map (chunk ++ ·)
  | trailers _ others => others.collect

/-- `body.Carries bytes`: the body comes to its end, and its chunks are `bytes`. -/
inductive Carries : Incoming → List UInt8 → Prop
  | ended : Carries ended []
  | data {chunk bytes : List UInt8} {others : Incoming} :
      Carries others bytes → Carries (data chunk others) (chunk ++ bytes)
  | trailers {fields : List Header} {bytes : List UInt8} {others : Incoming} :
      Carries others bytes → Carries (trailers fields others) bytes

theorem collect_of_carries {body : Incoming} {bytes : List UInt8} (carries : body.Carries bytes) :
    body.collect = .ok bytes := by
  induction carries with
  | ended => rfl
  | data _ ih => rw [collect, ih]; rfl
  | trailers _ ih => rw [collect, ih]

theorem carries_of_collect {body : Incoming} {bytes : List UInt8}
    (collects : body.collect = .ok bytes) : body.Carries bytes := by
  induction body generalizing bytes with
  | ended =>
    cases collects
    exact .ended
  | broken => cases collects
  | data chunk others ih =>
    rw [collect] at collects
    cases rest : others.collect with
    | error => rw [rest] at collects; cases collects
    | ok left =>
      rw [rest] at collects
      cases collects
      exact .data (ih rest)
  | trailers _ others ih => exact .trailers (ih collects)

theorem collect_eq_ok_iff {body : Incoming} {bytes : List UInt8} :
    body.collect = .ok bytes ↔ body.Carries bytes :=
  ⟨carries_of_collect, collect_of_carries⟩

end Incoming

end Http

namespace Webhook

/-! ## Passing -/

/-- `Admits r body review`: the path is that of evictions, the content type is `Request.SaysJson`,
and the body is read to the end and is `EvictionReview.Accepted` as `review`. -/
structure Admits (r : Request) (body : Incoming) (review : EvictionReview) : Prop where
  path : r.path = "/eviction"
  contentType : r.SaysJson
  accepted : ∃ bytes, body.Carries bytes ∧ EvictionReview.Accepted bytes review

theorem route_eq_readBody_iff {r : Request} :
    route r = .readBody ↔ r.path = "/eviction" ∧ r.SaysJson := by
  rw [← Request.isJson_iff, route, evictionPath]
  constructor
  · intro reads
    split at reads
    · next path =>
      split at reads
      · next json => exact ⟨path, json⟩
      · cases reads
    · split at reads <;> cases reads
  · rintro ⟨path, json⟩
    rw [if_pos path, if_pos json]

theorem withBody_eq_decide_iff {body : Body} {review : EvictionReview} :
    withBody body = .decide review ↔
      ∃ bytes, body = .ok bytes ∧ EvictionReview.Accepted bytes review := by
  cases body with
  | error fault => exact ⟨nofun, nofun⟩
  | ok bytes =>
    have found := EvictionReview.accepted_or_fails bytes
    constructor
    · intro decides
      unfold withBody at decides
      cases reads : EvictionReview.read bytes with
      | error fault => simp [reads] at decides
      | ok review' =>
        simp only [reads, Step.decide.injEq] at decides found
        exact ⟨bytes, rfl, decides ▸ found⟩
    · rintro ⟨_, ⟨⟩, accepted⟩
      rw [withBody, EvictionReview.read_of_accepted accepted]

/-- The requests that are decided are those that pass all gates. -/
theorem step_eq_decide_iff {r : Request} {body : Incoming} {review : EvictionReview} :
    step r body.collect = .decide review ↔ Admits r body review := by
  constructor
  · intro decides
    unfold step at decides
    split at decides
    · cases decides
    · next routes =>
      obtain ⟨path, json⟩ := route_eq_readBody_iff.mp routes
      obtain ⟨bytes, collects, accepted⟩ := withBody_eq_decide_iff.mp decides
      exact ⟨path, json, bytes, Incoming.collect_eq_ok_iff.mp collects, accepted⟩
  · rintro ⟨path, json, bytes, carries, accepted⟩
    rw [step, route_eq_readBody_iff.mpr ⟨path, json⟩]
    exact withBody_eq_decide_iff.mpr ⟨bytes, Incoming.collect_eq_ok_iff.mpr carries, accepted⟩

/-! ## Answers at the gates -/

/-- `TurnedAway r response`: the answer to a request that is not admitted. It has no body.

* `path`: 404 on a path of no route.
* `readiness`: 200 on the path of readiness.
* `contentType`: 415 if the content type is not JSON.
* `body`: 400 otherwise. -/
inductive TurnedAway (r : Request) : Response → Prop
  | path : r.path ≠ "/eviction" → r.path ≠ "/readyz" → TurnedAway r (.empty 404)
  | readiness : r.path = "/readyz" → TurnedAway r (.empty 200)
  | contentType : r.path = "/eviction" → ¬ r.SaysJson → TurnedAway r (.empty 415)
  | body : r.path = "/eviction" → r.SaysJson → TurnedAway r (.empty 400)

theorem turnedAway_of_route {r : Request} {log : Log} {response : Response}
    (answers : route r = .answer log response) : TurnedAway r response := by
  unfold route at answers
  split at answers
  · next path =>
    split at answers
    · cases answers
    · next other =>
      cases answers
      exact .contentType path fun json => other (r.isJson_iff.mpr json)
  · next path =>
    split at answers
    · next ready =>
      cases answers
      exact .readiness ready
    · next other =>
      cases answers
      exact .path path other

theorem turnedAway_of_step {r : Request} {body : Body} {log : Log} {response : Response}
    (answers : step r body = .answer log response) : TurnedAway r response := by
  unfold step at answers
  split at answers
  · next routes =>
    cases answers
    exact turnedAway_of_route routes
  · next routes =>
    obtain ⟨path, json⟩ := route_eq_readBody_iff.mp routes
    unfold withBody at answers
    split at answers
    · cases answers
      exact .body path json
    · split at answers
      · cases answers
        exact .body path json
      · cases answers

namespace TurnedAway

variable {r : Request} {response : Response}

theorem body_eq (away : TurnedAway r response) :
    response.body = "" ∧ response.contentType = none := by
  cases away <;> exact ⟨rfl, rfl⟩

theorem status_of_path (away : TurnedAway r response) (path : r.path = "/eviction") :
    (¬ r.SaysJson ∧ response.status = 415) ∨ (r.SaysJson ∧ response.status = 400) := by
  cases away with
  | path other _ => exact absurd path other
  | readiness ready => exact absurd (path.symm.trans ready) (by decide)
  | contentType _ other => exact .inl ⟨other, rfl⟩
  | body _ json => exact .inr ⟨json, rfl⟩

end TurnedAway

section

variable {σ : Type} (send : Sender σ) (c : Settings) (timeout : Nat) {r : Request}
  {body : Incoming} (s : σ)

/-- A request that does not pass is turned away, and nothing happens. -/
theorem handle_of_not_admits (not : ∀ review, ¬ Admits r body review) :
    TurnedAway r (handle send c timeout r body.collect s).response ∧
      (handle send c timeout r body.collect s).state = s := by
  cases stepped : step r body.collect with
  | answer log response =>
    rw [handle, stepped]
    exact ⟨turnedAway_of_step stepped, rfl⟩
  | decide review => exact absurd (step_eq_decide_iff.mp stepped) (not review)

/-- The answer is JSON that is `IsAnswerText` under the `uid`. -/
def AnswersReview (response : Response) (uid : String) : Prop :=
  ∃ text v, response = .json text ∧ IsAnswerText (Text.bytes text) uid v

theorem handle_of_admits {review : EvictionReview} (admits : Admits r body review) :
    AnswersReview (handle send c timeout r body.collect s).response review.uid := by
  obtain ⟨v, answers, -⟩ := exists_verdict send c timeout s (step_eq_decide_iff.mpr admits)
  exact ⟨_, v, answers, v.isAnswerText_responseText review.uid⟩

end

end Webhook

/-! ## On the wire -/

namespace Serving.Connection

open Http1

/-- After an answer a connection waits for a head, or ends. -/
theorem phase_answer (conn : Connection) (asked : Asked) (response : Response) :
    (conn.answer asked response).connection.phase = .head 0 ∨
      (conn.answer asked response).connection.phase = .over := by
  unfold answer
  dsimp only
  split
  · exact .inl rfl
  · exact .inr rfl

/-- A request that needs no body is answered as soon as its head is there, whatever has arrived of
a body, and the connection does not begin to read one. -/
theorem withHead_of_answer (conn : Connection) {r : Request} {log : Log} {response : Response}
    (routes : Webhook.route r = .answer log response) (f : Framing) (version : Version) :
    (conn.withHead r f version).sent =
        (Answer.mk version r.method (f.keepsAlive && !conn.stopping) response).bytes ∧
      ∀ asked got d, (conn.withHead r f version).connection.phase ≠ .body asked got d := by
  have answered (intake : Intake) (isReadOut : Bool) :
      let t := ({ conn with intake }.answer ⟨version, r.method, f.keepsAlive, isReadOut⟩
        response).after [] log
      t.sent = (Answer.mk version r.method (f.keepsAlive && !conn.stopping) response).bytes ∧
        ∀ asked got d, t.connection.phase ≠ .body asked got d := by
    refine ⟨rfl, fun asked got d phase => ?_⟩
    rcases phase_answer { conn with intake } _ response with head | ended
    · cases head.symm.trans phase
    · cases ended.symm.trans phase
  unfold withHead
  rw [routes]
  cases Decoder.ofLength? f.bodyLength with
  | none => exact answered _ true
  | some d => exact answered _ _

end Serving.Connection

/-! ## Requests -/

namespace Webhook

open Serving in
/-- The API server hears nothing of a request that has not passed all gates. One that has is
answered with its review, and no other one is. The others are answered without a body: on the path
of reviews by 415 for their content type, before a body is read, and else by 400; on the path of
readiness by 200; on any other by 404. -/
theorem gates {σ : Type} (api : Api σ) (c : Settings) (timeout : Nat) (method : String)
    (address : Address) (headers : List Header) (body : Incoming) (s : σ) :
    let r : Request := ⟨method, address.path, headers⟩
    let done := handle api.send c timeout r body.collect (s, [])
    (done.state.2 ≠ [] → ∃ review, Admits r body review) ∧
      (∀ review, Admits r body review → AnswersReview done.response review.uid) ∧
      ((∀ review, ¬ Admits r body review) →
        done.state = (s, []) ∧ TurnedAway r done.response ∧
        done.response.body = "" ∧ done.response.contentType = none) ∧
      (r.path = "/eviction" → ((∃ review, Admits r body review) ↔ done.response.status = 200)) ∧
      (r.path = "/eviction" → ¬ r.SaysJson →
        (∃ log, route r = .answer log (.empty 415)) ∧
        ∀ (conn : Connection) f version,
          (conn.withHead r f version).sent =
            (Http1.Answer.mk version method (f.keepsAlive && !conn.stopping) (.empty 415)).bytes ∧
          ∀ asked got d, (conn.withHead r f version).connection.phase ≠ .body asked got d) := by
  intro r done
  refine ⟨fun sent => ?_, fun review admits => handle_of_admits _ c timeout _ admits,
    fun not => ?_, fun path => ⟨?_, fun ok => ?_⟩, fun path other => ?_⟩
  · by_contra not
    have nothing := (handle_of_not_admits api.send c timeout (s, []) (not_exists.mp not)).2
    exact sent (congrArg Prod.snd nothing)
  · obtain ⟨away, nothing⟩ := handle_of_not_admits api.send c timeout (s, []) not
    exact ⟨nothing, away, away.body_eq⟩
  · rintro ⟨review, admits⟩
    obtain ⟨_, _, answers, -⟩ := handle_of_admits api.send c timeout (s, []) admits
    exact congrArg Response.status answers
  · by_contra not
    have away := (handle_of_not_admits api.send c timeout (s, []) (not_exists.mp not)).1
    rcases away.status_of_path path with ⟨-, status⟩ | ⟨-, status⟩
    · cases status.symm.trans ok
    · cases status.symm.trans ok
  · obtain ⟨log, answers⟩ : ∃ log, route r = .answer log (.empty 415) := by
      rw [route, evictionPath, if_pos path, if_neg fun json => other (r.isJson_iff.mp json)]
      exact ⟨_, rfl⟩
    exact ⟨⟨log, answers⟩, fun conn => conn.withHead_of_answer answers⟩

end Webhook

namespace Sample

/-- A review in two chunks. -/
def chunked (t : Target) : Incoming :=
  match reviewBody t true with
  | .ok bytes => .data (bytes.take 20) (.data (bytes.drop 20) (.trailers [] .ended))
  | .error fault => .broken fault

def paddedType : List Header :=
  [⟨"content-type", Text.bytes "\tApplication/JSON ;charset=\"utf-8\""⟩,
    ⟨"content-type", Text.bytes "text/plain"⟩]

def otherFirst : List Header := paddedType.reverse

/-- The path of evictions, with a query. -/
def reviewAddress : Address := ⟨none, [], ⟨"/eviction", some "timeout=10s"⟩⟩

end Sample

open Webhook in
/-- The first content type counts, and its blanks, case and parameters do not. -/
theorem gates_of_chunked :
    (Admits ⟨"PUT", Sample.reviewAddress.path, Sample.paddedType⟩ (Sample.chunked Sample.db)
        ⟨"r", Sample.db, true⟩ ∧
      AnswersReview (handle ApiServer.api.send .default 1000
        ⟨"PUT", Sample.reviewAddress.path, Sample.paddedType⟩ (Sample.chunked Sample.db).collect
        (Sample.server, [])).response "r") ∧
    (¬ Request.SaysJson ⟨"PUT", Sample.reviewAddress.path, Sample.otherFirst⟩ ∧
      ∃ log, route ⟨"PUT", Sample.reviewAddress.path, Sample.otherFirst⟩ =
        .answer log (.empty 415)) := by
  have admits : Admits ⟨"PUT", Sample.reviewAddress.path, Sample.paddedType⟩
      (Sample.chunked Sample.db) ⟨"r", Sample.db, true⟩ :=
    step_eq_decide_iff.mp (by decide +kernel)
  have other : ¬ Request.SaysJson ⟨"PUT", Sample.reviewAddress.path, Sample.otherFirst⟩ := by
    rw [← Request.isJson_iff]
    decide
  obtain ⟨-, answers, -⟩ := gates ApiServer.api .default 1000 "PUT" Sample.reviewAddress
    Sample.paddedType (Sample.chunked Sample.db) Sample.server
  obtain ⟨-, -, -, -, refused⟩ := gates ApiServer.api .default 1000 "PUT" Sample.reviewAddress
    Sample.otherFirst .ended Sample.server
  exact ⟨⟨admits, answers _ admits⟩, other, (refused rfl other).1⟩

end EvictionGate
