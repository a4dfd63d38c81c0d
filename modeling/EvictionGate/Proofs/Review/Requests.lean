import EvictionGate.Handling
import EvictionGate.Proofs.Decision.Solo
import EvictionGate.Proofs.Decision.Trial
import EvictionGate.Simulation.ApiServer
import Mathlib.Data.List.TakeWhile

/-!
# What a review sends to the API server

Every call of a decision becomes a request of the same mode: in a dry run every patch says
that it is one, and otherwise none does. Names are put into the target as they are, so this
holds of names that stay in the path; what comes after a number sign in a name is lost, with
the query, and a question mark in a name begins a query of its own.

Results:
1. `Call.query_of_request`: the query of a patch.
2. `Webhook.ofMode_sent`: the mode of all patches that a review sends, whatever the API server
   does.
-/

namespace EvictionGate

/-- A text without a number sign and without a question mark, which ends no path that it is put
into. -/
def staysInPath (s : String) : Bool := s.toList.all fun c => c ≠ '#' && c ≠ '?'

/-- `staysInPath` of the name of the tracking object and of its namespace. -/
def Tracker.staysInPath (i : Tracker) : Bool :=
  EvictionGate.staysInPath i.name && i.ns.all EvictionGate.staysInPath

/-- `staysInPath` of the name and the namespace of the pod. -/
def Target.staysInPath (t : Target) : Bool :=
  EvictionGate.staysInPath t.name && EvictionGate.staysInPath t.ns

@[simp] theorem staysInPath_append (first second : String) :
    staysInPath (first ++ second) = (staysInPath first && staysInPath second) := by
  simp [staysInPath, String.toList_append, List.all_append]

/-! ## Queries -/

/-- What stays in the path is the path, and the query follows it. -/
theorem Http.PathAndQuery.ofChars_append {path query : List Char}
    (stays : ∀ c ∈ path, c ≠ '#' ∧ c ≠ '?') (whole : ∀ c ∈ query, c ≠ '#') :
    ofChars (path ++ '?' :: query) = ⟨String.ofList path, some (String.ofList query)⟩ := by
  have all : withoutFragment (path ++ '?' :: query) = path ++ '?' :: query := by
    refine List.takeWhile_eq_self_iff.mpr fun c mem => decide_eq_true ?_
    rcases List.mem_append.mp mem with mem | mem
    · exact (stays c mem).1
    · rcases List.mem_cons.mp mem with rfl | mem
      · decide
      · exact whole c mem
  have first : (path ++ '?' :: query).takeWhile (· ≠ '?') = path := by
    rw [List.takeWhile_append_of_pos fun c mem => decide_eq_true (stays c mem).2]
    simp
  simp only [ofChars, all, first, List.drop_left]

namespace Call

/-- `staysInPath` of the path of the object that the call is about. -/
def staysInPath (call : Call) : Bool :=
  EvictionGate.staysInPath call.collection && EvictionGate.staysInPath call.objectName

/-- The query of a patch. -/
def patchQuery (dryRun : Bool) : String := if dryRun then "&dryRun=All" else ""

theorem patchQuery_stays (dryRun : Bool) : ∀ c ∈ (patchQuery dryRun).toList, c ≠ '#' := by
  have all : ((patchQuery dryRun).toList.all fun c => c ≠ '#') = true := by
    cases dryRun <;> decide
  intro c mem
  simpa using List.all_eq_true.mp all c mem

/-- A patch about names that stay in the path carries the query of its mode. -/
theorem query_of_request {call : Call} (stays : call.staysInPath = true)
    (patches : call.isPatch = true) {dryRun : Bool} {r : ApiRequest}
    (becomes : call.request? dryRun = some r) : r.target.query = some (patchQuery dryRun) := by
  have text : (call.targetText dryRun).toList =
      (call.collection ++ "/" ++ call.objectName).toList ++ '?' :: (patchQuery dryRun).toList := by
    unfold targetText patchQuery
    cases dryRun <;> simp [patches, String.toList_append]
  have path : ∀ c ∈ (call.collection ++ "/" ++ call.objectName).toList, c ≠ '#' ∧ c ≠ '?' := by
    have all : EvictionGate.staysInPath (call.collection ++ "/" ++ call.objectName) = true := by
      rw [staysInPath_append, staysInPath_append, Bool.and_right_comm]
      exact (Bool.and_eq_true _ _).mpr ⟨stays, by decide⟩
    intro c mem
    simpa using List.all_eq_true.mp all c mem
  simp only [request?, target?, Option.map_eq_some_iff, Option.ite_none_right_eq_some] at becomes
  obtain ⟨target, ⟨-, same⟩, rfl⟩ := becomes
  rw [text, Http.PathAndQuery.ofChars_append path (patchQuery_stays dryRun)] at same
  obtain rfl := Option.some.inj same
  cases call.patch? <;> simp

theorem isPatch_of_request {call : Call} {dryRun : Bool} {r : ApiRequest}
    (becomes : call.request? dryRun = some r) (patch : r.method = .patch) :
    call.isPatch = true := by
  simp only [request?, Option.map_eq_some_iff] at becomes
  obtain ⟨target, -, rfl⟩ := becomes
  cases call with
  | getPod | getTracker => cases patch
  | patchTracker | patchPod => rfl

/-- A request about names that stay in the path is of the mode of its review, if it patches. -/
theorem isDryRun_of_request {call : Call} (stays : call.staysInPath = true) {dryRun : Bool}
    {r : ApiRequest} (becomes : call.request? dryRun = some r) (patch : r.method = .patch) :
    ApiServer.isDryRun r = dryRun := by
  unfold ApiServer.isDryRun
  rw [query_of_request stays (isPatch_of_request becomes patch) becomes, Option.getD_some]
  cases dryRun <;> decide

end Call

/-! ## Names -/

/-- `staysInPath` of what a type has for names. -/
def ResourceType.staysInPath (type : ResourceType) : Bool :=
  EvictionGate.staysInPath type.apiVersion && EvictionGate.staysInPath type.plural

theorem ResourceType.staysInPath_path {type : ResourceType} (stays : type.staysInPath = true)
    {ns : Option String} (inside : ns.all EvictionGate.staysInPath = true) :
    EvictionGate.staysInPath (type.path ns) = true := by
  rw [ResourceType.staysInPath, Bool.and_eq_true] at stays
  have root : EvictionGate.staysInPath (if type.group = "" then "/api/" else "/apis/") = true := by
    split <;> decide
  have slash : EvictionGate.staysInPath "/" = true := by decide
  have word : EvictionGate.staysInPath "/namespaces/" = true := by decide
  have none : EvictionGate.staysInPath "" = true := by decide
  unfold ResourceType.path
  cases ns with
  | none => simp only [staysInPath_append, root, stays, none, slash, Bool.and_self]
  | some ns =>
    rw [Option.all_some] at inside
    simp only [staysInPath_append, root, stays, word, inside, slash, Bool.and_self]

/-- A decision about a pod and a tracking object whose names stay in the path makes calls
about such names. -/
theorem Stage.staysInPath_of_ask {c : Settings} {t : Target} (stays : t.staysInPath = true)
    {stage : Stage} (about : stage.About fun i => i.staysInPath = true) {call : Call}
    {next : Reply call → Stage} (asks : stage.ask c t = some ⟨call, next⟩) :
    call.staysInPath = true := by
  have pod : EvictionGate.staysInPath (ResourceType.pods.path (some t.ns)) = true ∧
      EvictionGate.staysInPath t.name = true := by
    rw [Target.staysInPath, Bool.and_eq_true] at stays
    exact ⟨ResourceType.staysInPath_path (by decide) stays.2, stays.1⟩
  have object {i : Tracker} (i_stays : i.staysInPath = true) :
      EvictionGate.staysInPath (c.trackerKind.path i) = true ∧
        EvictionGate.staysInPath i.name = true := by
    rw [Tracker.staysInPath, Bool.and_eq_true] at i_stays
    refine ⟨ResourceType.staysInPath_path ?_ i_stays.2, i_stays.1⟩
    cases c.trackerKind <;> decide
  cases stage with
  | fetch | mark =>
    cases asks
    exact (Bool.and_eq_true _ _).mpr pod
  | look i | unflag i | flag i | rollBack i =>
    cases asks
    exact (Bool.and_eq_true _ _).mpr (object (about i rfl))
  | ended v => cases asks

/-! ## Any API server -/

/-- An API server as functions of the request and of its own state. Nothing is assumed of them. -/
structure Api (σ : Type) where
  /-- The state once a request has arrived. -/
  arrive : ApiRequest → σ → σ
  latency : ApiRequest → σ → Option Nat
  answer : ApiRequest → σ → ApiAnswer
  /-- The state once a request has been handled. -/
  handled : ApiRequest → σ → σ

/-- Requests with their answers, in order. -/
abbrev Traffic := List (ApiRequest × ApiAnswer)

/-- The calls of `Webhook.handle` as requests to `api`, which are kept with their answers. -/
def Api.send {σ : Type} (api : Api σ) : Webhook.Sender (σ × Traffic) :=
  fun dryRun call s =>
    match call.request? dryRun with
    | none => ⟨s, some 0, .error (.api .requestNotBuilt), [], s⟩
    | some r =>
      let answer := api.answer r s.1
      let traffic := s.2 ++ [(r, answer)]
      ⟨(api.arrive r s.1, traffic), api.latency r s.1, call.reply answer,
        call.replyLog (call.reply answer), (api.handled r s.1, traffic)⟩

/-- The simulated API server as an `Api`. -/
def ApiServer.api : Api ApiServer where
  arrive r server := (server.receive r).2
  latency r server := ApiServer.latency (server.receive r).1
  answer r server := ((server.receive r).2.answer r (server.receive r).1).1
  handled r server := ((server.receive r).2.answer r (server.receive r).1).2

/-! ## The patches of a review -/

/-- `Tracker.staysInPath` of the tracking object of the pod that the answer is read as. An answer
that is read as no pod has it too. -/
def ApiAnswer.staysInPath (c : Settings) (t : Target) (answer : ApiAnswer) : Bool :=
  match (Call.getPod t).reply answer with
  | .ok pod => (c.trackerKind.trackerOf? pod).all Tracker.staysInPath
  | .error _ => true

/-- `ApiAnswer.staysInPath` of all answers. -/
def NamesStay (c : Settings) (t : Target) (traffic : Traffic) : Prop :=
  ∀ e ∈ traffic, e.2.staysInPath c t = true

/-- All patches among the requests are dry runs exactly if `dryRun`. -/
def OfMode (dryRun : Bool) (traffic : Traffic) : Prop :=
  ∀ e ∈ traffic, e.1.method = .patch → ApiServer.isDryRun e.1 = dryRun

theorem OfMode.concat {dryRun : Bool} {traffic : Traffic} {call : Call} {q : ApiRequest}
    (before : OfMode dryRun traffic) (stays : call.staysInPath = true)
    (becomes : call.request? dryRun = some q) (answer : ApiAnswer) :
    OfMode dryRun (traffic ++ [(q, answer)]) := by
  intro r mem patch
  rcases List.mem_append.mp mem with mem | mem
  · exact before r mem patch
  · obtain rfl := List.mem_singleton.mp mem
    exact Call.isDryRun_of_request stays becomes patch

/-- Whatever the API server does, every patch that a review sends is of the mode of the
review, if the names in the review and in the answers stay in the path. -/
theorem Webhook.ofMode_sent {σ : Type} (api : Api σ) (c : Settings) (timeout : Nat)
    {r : Http.Request} {body : Http.Body} (s : σ) {review : EvictionReview}
    (decides : Webhook.step r body = .decide review) (stays : review.target.staysInPath = true)
    (named : NamesStay c review.target
      (Webhook.handle api.send c timeout r body (s, [])).state.2) :
    OfMode review.dryRun (Webhook.handle api.send c timeout r body (s, [])).state.2 := by
  have leaves : (Webhook.handle api.send c timeout r body (s, [])).state =
      ((Stage.fetch.rest c review.target).timed (api.send review.dryRun) timeout (s, [])).2 := by
    simp only [Webhook.handle, decides]
    rfl
  rw [leaves] at named ⊢
  refine timed_preserves
    (Q := fun s : σ × Traffic => NamesStay c review.target s.2 → OfMode review.dryRun s.2)
    (I := fun (stage : Stage) (s : σ × Traffic) => NamesStay c review.target s.2 →
      (stage.About fun i => i.staysInPath = true) ∧ OfMode review.dryRun s.2)
    (fun {stage s call next} asks holds => ?_) (fun holds named => (holds named).2) ?_ named
  · unfold Api.send
    cases becomes : call.request? review.dryRun with
    | none =>
      refine ⟨fun named => (holds named).2, fun named => ⟨?_, (holds named).2⟩⟩
      refine (holds named).1.next asks _ fun pod i same => ?_
      obtain ⟨rfl, reply⟩ := Sigma.mk.inj same
      cases eq_of_heq reply
    | some q =>
      -- what is said of all the traffic holds of that before
      have earlier (named : NamesStay c review.target (s.2 ++ [(q, api.answer q s.1)])) :=
        holds fun e mem => named e (List.mem_append_left _ mem)
      have sent (named : NamesStay c review.target (s.2 ++ [(q, api.answer q s.1)])) :=
        (earlier named).2.concat (Stage.staysInPath_of_ask stays (earlier named).1 asks) becomes
          (api.answer q s.1)
      refine ⟨sent, fun named => ⟨?_, sent named⟩⟩
      refine (earlier named).1.next asks _ fun pod i same tracked => ?_
      obtain ⟨rfl, reply⟩ := Sigma.mk.inj same
      have answered : (Call.getPod review.target).reply (api.answer q s.1) = .ok pod :=
        (eq_of_heq reply).symm
      have names := named (q, api.answer q s.1) (List.mem_append_right _ List.mem_cons_self)
      simp only [ApiAnswer.staysInPath, answered, tracked] at names
      exact names
  · exact fun _ => ⟨fun _ about => (nomatch about), fun _ mem => (nomatch mem)⟩

end EvictionGate
