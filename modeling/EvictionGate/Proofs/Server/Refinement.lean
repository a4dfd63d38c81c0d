import EvictionGate.Proofs.Decision.Candidate
import EvictionGate.Proofs.Server.Representation

/-!
# Decisions on a server and in a world

On a server that answers with what it stores, a decision about an eviction goes as it goes in
the world that the server represents: to the same verdict, with one request for each call, and
to a server that represents the world after it.

Results:
1. `Stage.Finds.turn`: a decision removes an annotation only from annotations that are there.
2. `server_refines_world`: a decision on a server and in a world.
-/

namespace EvictionGate

open Json

/-! ## Annotations to remove -/

namespace Stage

/-- The tracking object on which a stage or one that follows it may call `clearFlag`. -/
def flagged? : Stage → Option Tracker
  | unflag i => some i
  | mark flagged => flagged
  | rollBack i => some i
  | _ => none

/-- `stage.Finds c w`: the object of `Stage.flagged?` has annotations in `w`. -/
def Finds (c : Settings) (w : World) (stage : Stage) : Prop :=
  ∀ i, stage.flagged? = some i → ∀ o, w.tracking.get? ⟨c.trackerKind, i⟩ = some o →
    o.metadata.annotations.isSome = true

variable {c : Settings} {t : Target} {w : World}

theorem finds_of_none {stage : Stage} (nothing : stage.flagged? = none) : stage.Finds c w := by
  intro i flagged
  cases nothing.symm.trans flagged

/-- The call of a stage finds the annotations that it removes one from. -/
theorem Finds.findsAnnotations {stage : Stage} (finds : stage.Finds c w) {call : Call}
    {next : Reply call → Stage} (asks : stage.ask c t = some ⟨call, next⟩) :
    call.FindsAnnotations w := by
  cases stage with
  | unflag i | rollBack i =>
    cases asks
    exact finds i rfl
  | fetch | look | flag | mark =>
    cases asks
    trivial
  | ended v => cases asks

theorem flagged?_ofPod (pod : Pod) : (ofPod c pod).flagged? = none := by
  have after := afterPod c pod
  generalize ofPod c pod = stage at after ⊢
  cases after <;> rfl

theorem isSome_annotations_of_annotationAt? {o : DynamicObject} {key value : String}
    (found : o.annotationAt? key = some value) : o.metadata.annotations.isSome = true := by
  unfold DynamicObject.annotationAt? ObjectMeta.annotationAt? at found
  cases annotations : o.metadata.annotations with
  | none =>
    rw [annotations] at found
    cases found
  | some d => rfl

/-- A decision removes an annotation only from annotations that are there: it has found its
flag among them, or has set it. -/
theorem Finds.turn {stage : Stage} (finds : stage.Finds c w) :
    (stage.turn c t none w).1.Finds c (stage.turn c t none w).2 := by
  cases stage with
  | fetch =>
    cases found : w.pods.get? t with
    | none =>
      rw [turn_fetch_absent c t found]
      exact finds_of_none rfl
    | some pod =>
      rw [turn_fetch c t found]
      exact finds_of_none (flagged?_ofPod pod)
  | look i =>
    cases present : w.tracking.get? ⟨c.trackerKind, i⟩ with
    | none =>
      rw [turn_look_absent c t present]
      exact finds_of_none rfl
    | some o =>
      rw [turn_look c t present]
      unfold ofObject
      split
      · next flagged =>
        -- the flag has been found
        intro i' same o' present'
        cases same
        cases present.symm.trans present'
        exact isSome_annotations_of_annotationAt? (beq_iff_eq.mp flagged)
      · split <;> exact finds_of_none rfl
  | flag i =>
    cases present : w.tracking.get? ⟨c.trackerKind, i⟩ with
    | none =>
      simp only [Stage.turn, ask, World.attempt, w.answer_patchTracker_absent present]
      exact finds_of_none rfl
    | some o =>
      rw [turn_flag c t present]
      intro i' same o' present'
      cases same
      rw [World.tracking_after_patchTracker, if_pos rfl, present, Option.map_some] at present'
      cases present'
      rfl
  | mark flagged =>
    cases found : w.pods.get? t with
    | none =>
      simp only [Stage.turn, ask, World.attempt, w.answer_patchPod_absent found]
      cases flagged with
      | none => exact finds_of_none rfl
      | some i => exact finds
    | some pod =>
      rw [turn_mark c t found]
      exact finds_of_none rfl
  | unflag i | rollBack i =>
    cases present : w.tracking.get? ⟨c.trackerKind, i⟩ with
    | none =>
      simp only [Stage.turn, ask, World.attempt, w.answer_patchTracker_absent present]
      exact finds_of_none rfl
    | some o =>
      simp only [Stage.turn, ask, World.attempt, w.answer_patchTracker present]
      exact finds_of_none rfl
  | ended v => exact finds

end Stage

/-! ## One call -/

/-- The tracking object of the pod `t` is `Place.Addressable`. -/
def World.Named (w : World) (c : Settings) (t : Target) : Prop :=
  ∀ pod i, w.pods.get? t = some pod → c.trackerKind.trackerOf? pod = some i →
    (Place.tracking ⟨c.trackerKind, i⟩).Addressable

/-- `Refines c t start stage server m`: a decision at `stage` has come from the server `start` to
`server` and on the memory to `m`. The server `Represents` the world of `m`, has received one
request for each call on `m`, and differs from `start` by `OnlyAnnotations`. -/
structure Refines (c : Settings) (t : Target) (start : ApiServer) (stage : Stage)
    (server : ApiServer) (m : Memory) : Prop where
  quiet : server.scripts = []
  works : m.faults = []
  represents : server.Represents m.world
  received : server.received.map some =
    start.received.map some ++ m.calls.map fun call => call.request? false
  only : OnlyAnnotations start.objects server.objects
  named : m.world.Named c t
  about : stage.About fun i => (Place.tracking ⟨c.trackerKind, i⟩).Addressable
  finds : stage.Finds c m.world

theorem World.Named.after {w : World} {c : Settings} {t : Target} (named : w.Named c t)
    (call : Call) : (w.after call).Named c t := by
  intro pod i found tracked
  cases before : w.pods.get? t with
  | none =>
    rw [w.pod_after_absent before] at found
    cases found
  | some pod' =>
    obtain ⟨pod'', found'', alike⟩ := w.pod_after before call
    cases found''.symm.trans found
    exact named pod' i before ((alike.toAkin.trackerOf? _).symm.trans tracked)

/-- A stage is about an object that a path leads to. -/
theorem Stage.addressable_of_ask {c : Settings} {t : Target} (target : (Place.pod t).Addressable)
    {stage : Stage} (about : stage.About fun i => (Place.tracking ⟨c.trackerKind, i⟩).Addressable)
    {call : Call} {next : Reply call → Stage} (asks : stage.ask c t = some ⟨call, next⟩) :
    call.place.Addressable := by
  cases stage with
  | fetch | mark =>
    cases asks
    exact target
  | look i | unflag i | flag i | rollBack i =>
    cases asks
    exact about i rfl
  | ended v => cases asks

/-- A call to a server with nothing scripted is handled at once. -/
theorem ApiServer.send_quiet {server : ApiServer} (quiet : server.scripts = []) {call : Call}
    {r : ApiRequest} (becomes : call.Becomes r) :
    ApiServer.send false call server =
      let sent : ApiServer := { server with received := server.received ++ [r] }
      ⟨sent, some 0, call.reply (sent.act r).1, call.replyLog (call.reply (sent.act r).1),
        (sent.act r).2⟩ := by
  obtain ⟨objects, scripts, received⟩ := server
  obtain rfl : scripts = [] := quiet
  rw [ApiServer.send, becomes.request]
  rfl

theorem Memory.perform_works {m : Memory} (works : m.faults = []) (call : Call) :
    m.perform call = ((m.world.answer call).1, [],
      ⟨m.world.after call, [], m.calls ++ [call]⟩) := by
  obtain ⟨world, faults, calls⟩ := m
  obtain rfl : faults = [] := works
  rfl

/-- One call keeps the server and the world together. -/
theorem Refines.step {c : Settings} {t : Target} {start server : ApiServer} {m : Memory}
    {stage : Stage} (target : (Place.pod t).Addressable)
    (refines : Refines c t start stage server m) {call : Call} {next : Reply call → Stage}
    (asks : stage.ask c t = some ⟨call, next⟩) :
    (ApiServer.send false call server).latency = some 0 ∧
      next (ApiServer.send false call server).reply = next (m.perform call).1 ∧
      Refines c t start (next (ApiServer.send false call server).reply)
        (ApiServer.send false call server).done (m.perform call).2.2 := by
  have addressable := Stage.addressable_of_ask target refines.about asks
  obtain ⟨r, becomes⟩ := Call.exists_request addressable
  obtain ⟨quiet, works, represents, received, only, named, about, finds⟩ := refines
  rw [ApiServer.send_quiet quiet becomes, Memory.perform_works works]
  dsimp only
  -- noting the request leaves the objects as they are
  have represents' : ApiServer.Represents { server with received := server.received ++ [r] }
      m.world := represents
  obtain ⟨alike, after⟩ := represents'.act addressable becomes (finds.findsAnnotations asks)
  have leads := Stage.next_eq_of_alike asks alike
  have turned : stage.turn c t none m.world =
      (next (m.world.answer call).1, m.world.after call) := by
    simp only [Stage.turn, asks]
    rfl
  have about' := about.turn named none
  have finds' := finds.turn (t := t)
  rw [turned] at about' finds'
  refine ⟨rfl, leads, ?_⟩
  rw [leads]
  refine ⟨?_, rfl, after, ?_, ?_, named.after call, about', finds'⟩
  · exact (ApiServer.act_keeps _ r).1.trans quiet
  · rw [(ApiServer.act_keeps _ r).2, List.map_append, List.map_append, received,
      List.append_assoc, List.map_singleton, List.map_singleton, becomes.request]
  · exact only.trans (ApiServer.onlyAnnotations_act represents' addressable becomes)

/-! ## Whole decisions -/

/-- A decision on a server that answers with what it stores comes to the verdict that it comes
to in the world that the server represents. It sends one request for each call, the server
represents the world after it, and nothing but annotations has changed on the server. -/
theorem server_refines_world (c : Settings) (t : Target) (timeout : Nat) (server : ApiServer)
    (w : World) (quiet : server.scripts = []) (represents : server.Represents w)
    (target : (Place.pod t).Addressable) (named : w.Named c t) :
    ((decideEviction c t).runWithin (ApiServer.send false) timeout server).verdict =
        some ((decideEviction c t).run Memory.perform (.ofWorld w)).verdict ∧
      ((decideEviction c t).runWithin (ApiServer.send false) timeout server).state.received.map some =
        server.received.map some ++
          ((decideEviction c t).run Memory.perform (.ofWorld w)).state.calls.map
            (fun call => call.request? false) ∧
      ((decideEviction c t).runWithin (ApiServer.send false) timeout server).state.Represents
        ((decideEviction c t).run Memory.perform (.ofWorld w)).state.world ∧
      OnlyAnnotations server.objects
        ((decideEviction c t).runWithin (ApiServer.send false) timeout server).state.objects := by
  have start : Refines c t server .fetch server (.ofWorld w) :=
    ⟨quiet, rfl, represents, (List.append_nil _).symm, .refl _, named,
      fun _ about => (nomatch about), Stage.finds_of_none rfl⟩
  obtain ⟨verdict, received, after, only⟩ := timed_alike (ApiServer.send false)
    (Decision.atOnce Memory.perform) timeout
    (Q := fun server' m => server'.received.map some = server.received.map some ++
        m.calls.map (fun call => call.request? false) ∧
      server'.Represents m.world ∧ OnlyAnnotations server.objects server'.objects)
    (fun {stage server' m call next} asks refines => by
      obtain ⟨latency, leads, after⟩ := refines.step target asks
      exact ⟨latency, leads, fun late => absurd latency late, after⟩)
    (fun refines => ⟨refines.received, refines.represents, refines.only⟩) start
  rw [Decision.timed_atOnce] at verdict received after
  exact ⟨verdict, received, after, only⟩

namespace Sample

/-- The pod and its database cluster, as an API server keeps them. -/
def storedPod : Value := .object [
  ("apiVersion", .string "v1"),
  ("kind", .string "Pod"),
  ("metadata", .object [
    ("labels", .object [("app", .string "couchbase"), ("couchbase_cluster", .string "main")]),
    ("name", .string "db-0"),
    ("namespace", .string "prod")])]

def storedCluster : Value := .object [
  ("apiVersion", .string "couchbase.com/v2"),
  ("kind", .string "CouchbaseCluster"),
  ("metadata", .object [("name", .string "main"), ("namespace", .string "prod")]),
  ("spec", .object [("upgradeProcess", .string "InPlaceUpgrade")])]

def main : TrackingKey := ⟨.couchbaseCluster, "main", some "prod"⟩

def keeper : ApiServer := .ofObjects [
  ((Place.pod db).path, storedPod), ((Place.tracking main).path, storedCluster)]

theorem addressable_db : (Place.pod db).Addressable :=
  ⟨by decide, by decide, by decide⟩

theorem addressable_main : (Place.tracking main).Addressable :=
  ⟨by decide, by decide, by decide⟩

theorem trackerOf_fresh : TrackerKind.couchbaseCluster.trackerOf? fresh = some main.tracker := by
  decide

theorem named_world : world.Named .default db := by
  intro pod i found tracked
  cases found
  cases trackerOf_fresh.symm.trans tracked
  exact addressable_main

theorem ofBytes?_storedPod : Pod.ofBytes? (Text.bytes storedPod.text) = some fresh := by
  simp [Pod.ofBytes?, Schema.ofBytes?, Value.read?_text, storedPod, Value.raw, Value.rawMembers,
    pieceText?_stringPieces, Pod.schema, ObjectMeta.schema, Raw.take?, Raw.takeMembers?,
    Schema.admitsText, Schema.admitsObjects, Schema.required, Schema.member?, Dict.get?,
    Dict.insert, maxDepth, Pod.read, ObjectMeta.ofValue, ObjectMeta.texts?, Value.get?,
    Value.members, Value.text?, fresh, -String.lt_iff_ltb]

theorem ofBytes?_storedCluster :
    DynamicObject.ofBytes? (Text.bytes storedCluster.text) = some cluster := by
  have taken : DynamicObject.takeMembers? [] (Value.rawMembers storedCluster.members) =
      some storedCluster.members := by
    simp [storedCluster, Value.members, Value.raw, Value.rawMembers, DynamicObject.takeMembers?,
      pieceText?_stringPieces, DynamicObject.memberSchema, Raw.take?, Raw.takeMembers?,
      Schema.admitsText, Schema.admitsObjects, Schema.required, Schema.member?, ObjectMeta.schema,
      Dict.get?, Dict.insert, maxDepth, Dict.contains, -String.lt_iff_ltb]
  exact (DynamicObject.ofBytes?_object _).trans
    (congrArg (Option.map DynamicObject.ofMembers) taken)

theorem keeper_represents : keeper.Represents world := by
  intro p addressable
  by_cases pod : p = .pod db
  · subst pod
    exact ⟨by decide, ofBytes?_storedPod⟩
  · by_cases tracking : p = .tracking main
    · subst tracking
      exact ⟨by decide, ofBytes?_storedCluster⟩
    · have first : (Place.pod db).path ≠ p.path := fun same =>
        pod (Place.eq_of_path addressable addressable_db same.symm)
      have second : (Place.tracking main).path ≠ p.path := fun same =>
        tracking (Place.eq_of_path addressable addressable_main same.symm)
      have absent : keeper.objects.get? p.path = none := by
        simp [keeper, ApiServer.ofObjects, Table.get?, first, second]
      rw [absent]
      cases p with
      | pod t =>
        have other : db ≠ t := fun same => pod (same ▸ rfl)
        simp [World.StoredAt, world, Table.get?, other, Stores]
      | tracking k =>
        have other : main ≠ k := fun same => tracking (same ▸ rfl)
        have other' : (⟨.couchbaseCluster, "main", some "prod"⟩ : TrackingKey) ≠ k := other
        simp [World.StoredAt, world, Table.get?, other', Stores]

def kept : Decision.Outcome Memory :=
  (decideEviction .default db).run Memory.perform (.ofWorld world)

def onKeeper : TimedOutcome ApiServer :=
  (decideEviction .default db).runWithin (ApiServer.send false) 1000 keeper

end Sample

/-- The pod is flagged and marked on the server as in the world, by four requests. -/
theorem server_refines_world_db :
    Sample.keeper.Represents Sample.world ∧
      Sample.onKeeper.verdict = some (.deny .rescheduleRequested) ∧
      Sample.onKeeper.state.received.length = 4 ∧
      Sample.onKeeper.state.Represents Sample.kept.state.world ∧
      Sample.kept.state.world.markerOn .default Sample.db = true ∧
      Sample.kept.state.world.podFlagOn .default Sample.db = true ∧
      OnlyAnnotations Sample.keeper.objects Sample.onKeeper.state.objects := by
  obtain ⟨verdict, received, represents, only⟩ := server_refines_world .default Sample.db 1000
    Sample.keeper Sample.world rfl Sample.keeper_represents Sample.addressable_db
    Sample.named_world
  have count := congrArg List.length received
  simp only [List.length_map, List.length_append] at count
  have calls : Sample.kept.state.calls.length = 4 := by decide
  refine ⟨Sample.keeper_represents, verdict.trans (by decide), count.trans ?_, represents,
    by decide, by decide, only⟩
  exact (congrArg (0 + ·) calls).trans rfl

end EvictionGate
