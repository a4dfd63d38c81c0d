import EvictionGate.Proofs.Review.Gates

/-!
# Which requests have a route

A review is to be posted, and readiness to be asked for with GET. But it is only the path of a
request that chooses its route, so a request of another method is served on these paths too, and a
review that has been sent in another way is decided like one that has been posted. Of a request for
any other path nothing comes, whatever else it holds.

Results:
1. `Webhook.handle_withMethod`: the method of a request does not count.
2. `Webhook.comesToNothing_iff`: of which requests nothing comes.
3. `Webhook.routed_by_path`: what comes of the others.
-/

namespace EvictionGate

open Http

/-- `POST` on the path of evictions, or `GET` on the path of readiness. -/
def Http.Request.IsExpected (r : Request) : Prop :=
  (r.method = "POST" ∧ r.path = "/eviction") ∨ (r.method = "GET" ∧ r.path = "/readyz")

instance (r : Request) : Decidable r.IsExpected := inferInstanceAs (Decidable (_ ∨ _))

namespace Webhook

/-- The answer is 404, and no request has been sent to the API server. -/
def ComesToNothing {σ : Type} (s : σ) (done : Handled (σ × Traffic)) : Prop :=
  done.response.status = 404 ∧ done.state = (s, [])

theorem route_of_other {r : Request} (other : r.path ≠ "/eviction") (other' : r.path ≠ "/readyz") :
    route r = .answer [⟨.error, "Unexpected request for " ++ r.path⟩] (.empty 404) := by
  rw [route, evictionPath, readinessPath, if_neg other, if_neg other']

theorem route_of_readiness {r : Request} (ready : r.path = "/readyz") :
    route r = .answer [] (.empty 200) := by
  have other : r.path ≠ evictionPath := by
    rw [ready]
    decide
  rw [route, if_neg other, readinessPath, if_pos ready]

section

variable {σ : Type} (c : Settings) (timeout : Nat) (r : Request)

/-- A request that is answered without its body is handled by that answer. -/
theorem handle_of_route (send : Sender σ) (body : Body) (s : σ) {log : Log} {response : Response}
    (answers : route r = .answer log response) :
    handle send c timeout r body s = ⟨response, log, s⟩ := by
  rw [handle, step, answers]

/-- A request is handled alike whatever its method is. -/
theorem handle_withMethod (send : Sender σ) (body : Body) (s : σ) (method : String) :
    handle send c timeout { r with method } body s = handle send c timeout r body s := rfl

variable (api : Api σ) (body : Incoming) (s : σ)

/-- On the path of reviews there is an answer to any request. -/
theorem status_of_eviction {r : Request} (path : r.path = "/eviction") :
    (handle api.send c timeout r body.collect (s, [])).response.status ∈ [200, 400, 415] := by
  by_cases passes : ∃ review, Admits r body review
  · obtain ⟨review, admits⟩ := passes
    obtain ⟨_, _, answers, -⟩ := handle_of_admits api.send c timeout (s, []) admits
    rw [answers]
    exact List.mem_cons_self
  · have away := (handle_of_not_admits api.send c timeout (s, []) (not_exists.mp passes)).1
    rcases away.status_of_path path with ⟨-, status⟩ | ⟨-, status⟩
    · simp [status]
    · simp [status]

/-- Nothing comes of a request exactly if its path is neither of the two. -/
theorem comesToNothing_iff :
    ComesToNothing s (handle api.send c timeout r body.collect (s, [])) ↔
      r.path ≠ "/eviction" ∧ r.path ≠ "/readyz" := by
  constructor
  · rintro ⟨status, -⟩
    refine ⟨fun path => ?_, fun ready => ?_⟩
    · have known := status_of_eviction c timeout api body s path
      rw [status] at known
      exact absurd known (by decide)
    · rw [handle_of_route c timeout r _ _ _ (route_of_readiness ready)] at status
      cases status
  · rintro ⟨other, other'⟩
    rw [handle_of_route c timeout r _ _ _ (route_of_other other other')]
    exact ⟨rfl, rfl⟩

end

/-- `RoutedByPath api c timeout r body s done`: what `Webhook.handle` makes of `r` depends on its
path, and not on its method. -/
structure RoutedByPath {σ : Type} (api : Api σ) (c : Settings) (timeout : Nat) (r : Request)
    (body : Incoming) (s : σ) (done : Handled (σ × Traffic)) : Prop where
  /-- Nothing comes of a request for any other path, and of no request for one of the two. -/
  nothing : ComesToNothing s done ↔ r.path ≠ "/eviction" ∧ r.path ≠ "/readyz"
  unknown : r.path ≠ "/eviction" → r.path ≠ "/readyz" →
    done = ⟨.empty 404, [⟨.error, "Unexpected request for " ++ r.path⟩], (s, [])⟩
  ready : r.path = "/readyz" → done = ⟨.empty 200, [], (s, [])⟩
  /-- On the path of reviews, any request is handled as if it had been posted. -/
  posted : r.path = "/eviction" → done.response.status ∈ [200, 400, 415] ∧
    done = handle api.send c timeout { r with method := "POST" } body.collect (s, [])

/-- Nothing comes of a request exactly if its path is neither that of reviews nor that of readiness:
the answer is 404, and the API server hears nothing. Any other request is served, expected or not.
On the path of readiness the answer is 200, and on the path of reviews the request is handled as if
it had been posted. -/
theorem routed_by_path {σ : Type} (api : Api σ) (c : Settings) (timeout : Nat) (r : Request)
    (body : Incoming) (s : σ) : RoutedByPath api c timeout r body s
      (handle api.send c timeout r body.collect (s, [])) where
  nothing := comesToNothing_iff c timeout r api body s
  unknown other other' := handle_of_route c timeout r _ _ _ (route_of_other other other')
  ready path := handle_of_route c timeout r _ _ _ (route_of_readiness path)
  posted path := ⟨status_of_eviction c timeout api body s path,
    (handle_withMethod c timeout r _ _ _ "POST").symm⟩

end Webhook

namespace Sample

/-- A review with the method `PUT`. -/
def putReview : Request := { reviewRequest with method := "PUT" }

/-- A review on a path of no route. -/
def strayReview : Request := { reviewRequest with path := "/evictions" }

/-- A pod that `Settings.default` selects. -/
def managed : ApiAnswer := ApiServer.jsonAnswer 200 (.object [("metadata", .object [
  ("labels", .object [("app", .string "couchbase")])])])

/-- `Webhook.handle` of the review with the method `PUT`, by a gate that does not track. -/
def put : Webhook.Handled (Unit × Traffic) :=
  Webhook.handle (answering managed).send { Settings.default with tracks := false } 1000 putReview
    (reviewBody db false) ((), [])

end Sample

open Webhook in
/-- A review is not found under another path, and readiness not only asked for with GET. -/
theorem routed_by_path_of_strays :
    (¬ Sample.strayReview.IsExpected ∧ ComesToNothing Sample.server
      (handle ApiServer.api.send .default 1000 Sample.strayReview (Sample.chunked Sample.db).collect
        (Sample.server, []))) ∧
    ¬ Request.IsExpected ⟨"DELETE", "/readyz", []⟩ ∧
      handle ApiServer.api.send .default 1000 ⟨"DELETE", "/readyz", []⟩
        (Sample.chunked Sample.db).collect (Sample.server, []) =
          ⟨.empty 200, [], (Sample.server, [])⟩ := by
  have routed (r : Request) := routed_by_path ApiServer.api .default 1000 r
    (Sample.chunked Sample.db) Sample.server
  exact ⟨⟨by decide, (routed Sample.strayReview).nothing.mpr (by decide)⟩, by decide,
    (routed ⟨"DELETE", "/readyz", []⟩).ready rfl⟩

set_option maxRecDepth 100000 in
/-- A review that is not posted is decided, and its pod is marked. -/
theorem put_review_marks : ¬ Sample.putReview.IsExpected ∧ Sample.put.response.status = 200 ∧
    Sample.put.state.2.map (fun e => (e.1.method, e.1.target.path)) =
      [(.get, "/api/v1/namespaces/prod/pods/db-0"),
        (.patch, "/api/v1/namespaces/prod/pods/db-0")] := by
  refine ⟨by decide, ?_, by decide +kernel⟩
  have decides : Webhook.step Sample.putReview (Sample.reviewBody Sample.db false) =
      .decide ⟨"r", Sample.db, false⟩ := Sample.decides_db false
  obtain ⟨v, answers, -⟩ := Webhook.exists_verdict (Sample.answering Sample.managed).send
    { Settings.default with tracks := false } 1000 ((), []) decides
  rw [Sample.put, answers]
  rfl

end EvictionGate
