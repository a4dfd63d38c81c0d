import EvictionGate.Proofs.Kubernetes.Address
import EvictionGate.Proofs.Review.DryRun

/-!
# Requests about the pod of a review

Names are put into the path of a request as they are. A request about a pod has the path of the
pod exactly if neither its name nor its namespace has a slash, a question mark or a number sign
in it: then each of them is one part of the path, whole, and the query is the gate's own. A name
with one of these signs in it leads elsewhere.

Results:
1. `Call.addresses_iff_isPlain`: which requests lead to the pod that they are about.
2. `Call.exists_request_iff`: about which pods a request can be written.
3. `Webhook.sentAbout_traffic`: what the requests of a review are about.
4. `pod_requests_of_review`: all of it, and that no two pods have the same path.
-/

namespace EvictionGate

/-- Each name of the pod is one segment of a path, with no slash, question mark or number sign in
it. -/
def Target.isPlain (t : Target) : Bool := t.staysInPath && isSegment t.name && isSegment t.ns

/-- `IsPathOf segments path`: the path has exactly these segments. -/
structure IsPathOf (segments : List String) (path : String) : Prop where
  whole : ∀ s ∈ segments, isSegment s = true
  chars : path.toList = pathChars segments

/-- `Addresses t dryRun q`: the request goes to the path of the pod `t`, and a patch has the query
of a dry run exactly if it is one. -/
structure Addresses (t : Target) (dryRun : Bool) (q : ApiRequest) : Prop where
  path : IsPathOf ["api", "v1", "namespaces", t.ns, "pods", t.name] q.target.path
  query : q.target.query =
    if q.method = .patch then some (Call.patchQuery dryRun) else none

theorem IsPathOf.unique {first second : List String} {path : String} (is : IsPathOf first path)
    (is' : IsPathOf second path) : first = second :=
  eq_of_pathChars is.whole is'.whole (is.chars.symm.trans is'.chars)

/-! ## Targets -/

theorem Http.PathAndQuery.toList_path_ofChars (cs : List Char) :
    (ofChars cs).path.toList = (withoutFragment cs).takeWhile (· ≠ '?') := by
  unfold ofChars
  dsimp only
  split <;> simp

/-- A path has neither a number sign nor a question mark in it. -/
theorem Http.PathAndQuery.stays_of_ofChars (cs : List Char) :
    ∀ c ∈ (ofChars cs).path.toList, c ≠ '#' ∧ c ≠ '?' := by
  intro c mem
  rw [toList_path_ofChars] at mem
  have inside := (List.takeWhile_prefix _).subset mem
  exact ⟨by simpa using List.mem_takeWhile_imp inside, by simpa using List.mem_takeWhile_imp mem⟩

theorem toList_path_pod (t : Target) : (Place.pod t).path.toList =
    pathChars ["api", "v1", "namespaces", t.ns, "pods", t.name] :=
  (Place.pod t).toList_path

theorem staysInPath_iff {s : String} :
    staysInPath s = true ↔ ∀ c ∈ s.toList, c ≠ '#' ∧ c ≠ '?' := by
  simp [staysInPath]

theorem forall_pathChars {P : Char → Prop} (slash : P '/') {segments : List String} :
    (∀ c ∈ pathChars segments, P c) ↔ ∀ s ∈ segments, ∀ c ∈ s.toList, P c := by
  simp only [pathChars, List.mem_flatMap, List.mem_cons]
  constructor
  · exact fun all s mem c inside => all c ⟨s, mem, .inr inside⟩
  · rintro all c ⟨s, mem, rfl | inside⟩
    · exact slash
    · exact all s mem c inside

/-- The path of a pod goes on to its end exactly if the names of the pod do. -/
theorem forall_path_pod {t : Target} : (∀ c ∈ (Place.pod t).path.toList, c ≠ '#' ∧ c ≠ '?') ↔
    t.staysInPath = true := by
  rw [toList_path_pod, forall_pathChars (by decide)]
  simp only [← staysInPath_iff, List.forall_mem_cons, Target.staysInPath, Bool.and_eq_true]
  have fixed : staysInPath "api" = true ∧ staysInPath "v1" = true ∧
      staysInPath "namespaces" = true ∧ staysInPath "pods" = true := by decide
  simp [fixed, and_comm]

namespace Call

variable {call : Call} {t : Target} {dryRun : Bool} {q : ApiRequest}

/-- The part of `Call.targetText` behind the path. -/
def queryText (call : Call) (dryRun : Bool) : String :=
  if call.isPatch then "?" ++ patchQuery dryRun else ""

theorem targetText_eq (call : Call) (dryRun : Bool) :
    call.targetText dryRun = call.place.path ++ call.queryText dryRun := by
  unfold targetText queryText patchQuery
  rw [path_place]
  cases call.isPatch <;> cases dryRun <;> rfl

theorem target_of_request (becomes : call.request? dryRun = some q) :
    q.target = Http.PathAndQuery.ofChars (call.targetText dryRun).toList ∧
      q.method = if call.isPatch then .patch else .get := by
  obtain ⟨target, sound, rfl⟩ := Option.map_eq_some_iff.mp becomes
  obtain ⟨-, same⟩ := Option.ite_none_right_eq_some.mp sound
  rw [Option.some.inj same]
  cases call <;> exact ⟨rfl, rfl⟩

/-- If the path goes on to its end, the query is what follows it. -/
theorem ofChars_targetText (stays : ∀ c ∈ call.place.path.toList, c ≠ '#' ∧ c ≠ '?')
    (dryRun : Bool) : Http.PathAndQuery.ofChars (call.targetText dryRun).toList =
      ⟨call.place.path, if call.isPatch then some (patchQuery dryRun) else none⟩ := by
  rw [targetText_eq, String.toList_append, queryText]
  cases call.isPatch with
  | false =>
    rw [if_neg (by decide), if_neg (by decide), String.toList_empty, List.append_nil,
      Http.PathAndQuery.ofChars_path stays, String.ofList_toList]
  | true =>
    rw [if_pos rfl, if_pos rfl, String.toList_append]
    refine (Http.PathAndQuery.ofChars_append stays (patchQuery_stays dryRun)).trans ?_
    rw [String.ofList_toList, String.ofList_toList]

/-- A request leads to the pod that it is about exactly if the names of the pod are plain. -/
theorem addresses_iff_isPlain (about : call.place = .pod t)
    (becomes : call.request? dryRun = some q) : Addresses t dryRun q ↔ t.isPlain = true := by
  obtain ⟨target, method⟩ := target_of_request becomes
  rw [Target.isPlain, Bool.and_eq_true, Bool.and_eq_true]
  constructor
  · rintro ⟨⟨whole, chars⟩, -⟩
    simp only [List.forall_mem_cons] at whole
    refine ⟨⟨forall_path_pod.mp ?_, whole.2.2.2.2.2.1⟩, whole.2.2.2.1⟩
    rw [toList_path_pod, ← chars, target]
    exact Http.PathAndQuery.stays_of_ofChars _
  · rintro ⟨⟨stays, name⟩, ns⟩
    have stays : ∀ c ∈ call.place.path.toList, c ≠ '#' ∧ c ≠ '?' := by
      rw [about]
      exact forall_path_pod.mpr stays
    rw [ofChars_targetText stays] at target
    constructor
    · rw [target]
      refine ⟨?_, by rw [about]; exact toList_path_pod t⟩
      have fixed : isSegment "api" = true ∧ isSegment "v1" = true ∧
        isSegment "namespaces" = true ∧ isSegment "pods" = true := by decide
      simp [fixed, name, ns]
    · rw [target, method]
      cases call.isPatch <;> rfl

/-- About a pod with plain names a request can be written if the pod has a name, the target is
not too long, and all characters of the names may stand in a path. -/
theorem exists_request_iff (about : call.place = .pod t) (plain : t.isPlain = true) :
    (∃ q, call.request? dryRun = some q) ↔ t.name ≠ "" ∧
      (Text.bytes (call.targetText dryRun)).length ≤ Http.maxTarget ∧
        ∀ s ∈ [t.ns, t.name], s.toList.all Http.isPathChar = true := by
  have stays : ∀ c ∈ call.place.path.toList, c ≠ '#' ∧ c ≠ '?' := by
    rw [Target.isPlain, Bool.and_eq_true, Bool.and_eq_true] at plain
    rw [about]
    exact forall_path_pod.mpr plain.1.1
  have name : call.objectName = t.name := by rw [objectName_place, about]; rfl
  have sound : (Http.PathAndQuery.ofChars (call.targetText dryRun).toList).isSound = true ↔
      ∀ s ∈ [t.ns, t.name], s.toList.all Http.isPathChar = true := by
    have query : ((if call.isPatch then some (patchQuery dryRun) else none).getD "").toList.all
        Http.isQueryChar = true := by
      cases call.isPatch <;> cases dryRun <;> decide
    have fixed : ∀ s ∈ ["api", "v1", "namespaces", "pods"],
        s.toList.all Http.isPathChar = true := by decide
    rw [ofChars_targetText stays, about, Http.PathAndQuery.isSound, query, Bool.and_true,
      List.all_eq_true, toList_path_pod, forall_pathChars (by decide)]
    simp only [List.all_eq_true, List.forall_mem_cons] at fixed ⊢
    obtain ⟨api, version, namespaces, pods, nothing⟩ := fixed
    constructor
    · rintro ⟨-, -, -, ns, -, name, -⟩
      exact ⟨ns, name, nothing⟩
    · rintro ⟨ns, name, -⟩
      exact ⟨api, version, namespaces, ns, pods, name, nothing⟩
  unfold request? target?
  simp only [Option.map_eq_some_iff, Option.ite_none_right_eq_some, name, Bool.and_eq_true,
    decide_eq_true_eq, sound]
  constructor
  · rintro ⟨q, target, ⟨⟨⟨named, fits⟩, chars⟩, -⟩, -⟩
    exact ⟨by simpa using named, fits, chars⟩
  · rintro ⟨named, fits, chars⟩
    exact ⟨_, _, ⟨⟨⟨by simpa using named, fits⟩, chars⟩, rfl⟩, rfl⟩

end Call

/-! ## The requests of a review -/

/-- Every request of the traffic is the `Call.request?` of a call about the pod `t` or about a
tracking object. -/
def SentAbout (t : Target) (dryRun : Bool) (traffic : Traffic) : Prop :=
  ∀ e ∈ traffic, ∃ call : Call, call.request? dryRun = some e.1 ∧
    (call.place = .pod t ∨ ∃ k, call.place = .tracking k)

theorem Stage.place_of_ask {c : Settings} {t : Target} {stage : Stage} {call : Call}
    {next : Reply call → Stage} (asks : stage.ask c t = some ⟨call, next⟩) :
    call.place = .pod t ∨ ∃ k, call.place = .tracking k := by
  cases stage with
  | fetch | mark =>
    cases asks
    exact .inl rfl
  | look | unflag | flag | rollBack =>
    cases asks
    exact .inr ⟨_, rfl⟩
  | ended => cases asks

theorem Webhook.sentAbout_traffic {σ : Type} (api : Api σ) (c : Settings) (timeout : Nat)
    {r : Http.Request} {body : Http.Body} (s : σ) {review : EvictionReview}
    (decides : Webhook.step r body = .decide review) :
    SentAbout review.target review.dryRun
      (Webhook.handle api.send c timeout r body (s, [])).state.2 := by
  have leaves : (Webhook.handle api.send c timeout r body (s, [])).state =
      ((Stage.fetch.rest c review.target).timed (api.send review.dryRun) timeout (s, [])).2 := by
    simp only [Webhook.handle, decides]
    rfl
  rw [leaves]
  refine timed_preserves
    (Q := fun s : σ × Traffic => SentAbout review.target review.dryRun s.2)
    (I := fun _ (s : σ × Traffic) => SentAbout review.target review.dryRun s.2)
    (fun {stage s call next} asks sent => ?_) id fun _ mem => absurd mem List.not_mem_nil
  unfold Api.send
  cases becomes : call.request? review.dryRun with
  | none => exact ⟨sent, sent⟩
  | some q =>
    have more : SentAbout review.target review.dryRun (s.2 ++ [(q, api.answer q s.1)]) := by
      intro e mem
      rcases List.mem_append.mp mem with mem | mem
      · exact sent e mem
      · obtain rfl := List.mem_singleton.mp mem
        exact ⟨call, becomes, Stage.place_of_ask asks⟩
    exact ⟨more, more⟩

/-- What a review sends is about its pod and about tracking objects. A request about a pod leads
to it, with the query of its mode, exactly if the names of the pod are plain; about such a pod no
request is sent at all if the name is missing, or the target is too long or holds a character
that it may not. Requests about different pods with plain names have different paths. -/
theorem pod_requests_of_review {σ : Type} (api : Api σ) (c : Settings) (timeout : Nat)
    (r : Http.Request) (body : Http.Body) (s : σ) {review : EvictionReview}
    (decides : Webhook.step r body = .decide review) :
    SentAbout review.target review.dryRun
        (Webhook.handle api.send c timeout r body (s, [])).state.2 ∧
      (∀ t call dryRun q, Call.place call = .pod t → call.request? dryRun = some q →
        (Addresses t dryRun q ↔ t.isPlain = true)) ∧
      (∀ t call dryRun, Call.place call = .pod t → t.isPlain = true →
        ((∃ q, call.request? dryRun = some q) ↔ t.name ≠ "" ∧
          (Text.bytes (call.targetText dryRun)).length ≤ Http.maxTarget ∧
            ∀ s ∈ [t.ns, t.name], s.toList.all Http.isPathChar = true)) ∧
      ∀ t t' call call' dryRun dryRun' q q', Call.place call = .pod t →
        Call.place call' = .pod t' → t.isPlain = true → t'.isPlain = true →
        call.request? dryRun = some q → call'.request? dryRun' = some q' →
        q.target.path = q'.target.path → t = t' := by
  refine ⟨Webhook.sentAbout_traffic api c timeout s decides,
    fun _ _ _ _ => Call.addresses_iff_isPlain, fun _ _ _ => Call.exists_request_iff, ?_⟩
  intro t t' call call' dryRun dryRun' q q' about about' plain plain' becomes becomes' same
  have leads := ((Call.addresses_iff_isPlain about becomes).mpr plain).path
  have leads' := ((Call.addresses_iff_isPlain about' becomes').mpr plain').path
  have parts := leads.unique (same ▸ leads')
  simp only [List.cons.injEq, true_and, and_true] at parts
  cases t
  cases t'
  rw [Target.mk.injEq]
  exact ⟨parts.2, parts.1⟩

namespace Sample

/-- The requests and answers of the eviction of the pod. -/
def traffic (t : Target) : Traffic :=
  (Webhook.handle ApiServer.api.send .default 1000 reviewRequest (reviewBody t false)
    (server, [])).state.2

def queried : Target := ⟨"db-0?x", "prod"⟩

end Sample

theorem pod_requests_of_db :
    Webhook.step Sample.reviewRequest (Sample.reviewBody Sample.db false) =
        .decide ⟨"r", Sample.db, false⟩ ∧
      SentAbout Sample.db false (Sample.traffic Sample.db) ∧
      ∃ q, (Call.getPod Sample.db).request? false = some q ∧ Addresses Sample.db false q := by
  have decides := Sample.decides_db false
  obtain ⟨sent, leads, sends, -⟩ := pod_requests_of_review ApiServer.api .default 1000
    Sample.reviewRequest (Sample.reviewBody Sample.db false) Sample.server decides
  obtain ⟨q, becomes⟩ := (sends Sample.db (.getPod Sample.db) false rfl (by decide)).mpr (by decide)
  refine ⟨decides, ?_, q, becomes, (leads _ _ _ _ rfl becomes).mpr (by decide)⟩
  rw [Sample.traffic]
  exact sent

set_option maxRecDepth 100000 in
/-- A review about a pod with a question mark in its name is accepted, and the requests about that
pod, to read it and to mark it, have the path of another pod. -/
theorem other_pod_is_addressed :
    Webhook.step Sample.reviewRequest (Sample.reviewBody Sample.queried false) =
        .decide ⟨"r", Sample.queried, false⟩ ∧
      ((Call.getPod Sample.queried).request? false).map ApiRequest.target =
        some ⟨"/api/v1/namespaces/prod/pods/db-0", some "x"⟩ ∧
      ((Call.setMarker .default Sample.queried).request? false).map ApiRequest.target =
        some ⟨"/api/v1/namespaces/prod/pods/db-0", some "x?"⟩ ∧
      ((Call.getPod Sample.db).request? false).map ApiRequest.target =
        some ⟨"/api/v1/namespaces/prod/pods/db-0", none⟩ := by
  decide +kernel

end EvictionGate
