import EvictionGate.Proofs.Review.Requests

/-!
# Addresses

Every call is about one object, and becomes a request to the path of that object. Of objects
whose names are safe in a path, no two have the same path: the parts of a path tell the type
of the object, its namespace and its name.

Results:
1. `Place.eq_of_path`: a path leads to one object.
2. `Call.exists_request`: the request that a call becomes.
-/

namespace EvictionGate

/-- An object that a call is about. -/
inductive Place
  | pod (t : Target)
  | tracking (k : TrackingKey)
  deriving DecidableEq

namespace Place

def type : Place → ResourceType
  | pod _ => .pods
  | tracking k => k.kind.resourceType

/-- The namespace of the object, if it lies in one. -/
def ns : Place → Option String
  | pod t => some t.ns
  | tracking k => k.tracker.ns

def name : Place → String
  | pod t => t.name
  | tracking k => k.tracker.name

def path (p : Place) : String := p.type.path p.ns ++ "/" ++ p.name

end Place

/-- The object that the call is about. -/
def Call.place : Call → Place
  | .getPod t => .pod t
  | .getTracker k i => .tracking ⟨k, i⟩
  | .patchTracker k i _ _ => .tracking ⟨k, i⟩
  | .patchPod t _ _ => .pod t

/-- A name that is one segment of a path: its characters are `Http.isPathChar`, and none of them
is a slash, a question mark or a number sign. -/
def isSafeName (s : String) : Bool :=
  s ≠ "" && s.toList.all fun c => Http.isPathChar c && c ≠ '/' && c ≠ '?' && c ≠ '#'

/-- The name and the namespace of the object are `isSafeName`, and a target has room for its path,
so that requests about it can be written. -/
structure Place.Addressable (p : Place) : Prop where
  name : isSafeName p.name = true
  ns : p.ns.all isSafeName = true
  room : (Text.bytes (p.path ++ "?")).length ≤ Http.maxTarget

/-! ## Paths -/

/-- The segments of `ResourceType.path`. -/
def ResourceType.segments (type : ResourceType) (ns : Option String) : List String :=
  (if type.group = "" then ["api", type.version] else ["apis", type.group, type.version]) ++
    (ns.elim [] fun ns => ["namespaces", ns]) ++ [type.plural]

/-- The segments of `Place.path`. -/
def Place.segments (p : Place) : List String := p.type.segments p.ns ++ [p.name]

/-- The path with the given segments. -/
def pathChars (segments : List String) : List Char := segments.flatMap fun s => '/' :: s.toList

theorem ResourceType.toList_path (type : ResourceType) (ns : Option String) :
    (type.path ns).toList = pathChars (type.segments ns) := by
  unfold ResourceType.path ResourceType.segments ResourceType.apiVersion pathChars
  cases ns <;> split <;> simp [String.toList_append]

theorem Place.toList_path (p : Place) : p.path.toList = pathChars p.segments := by
  simp [path, segments, String.toList_append, ResourceType.toList_path, pathChars]

/-- A text without a slash. -/
def isSegment (s : String) : Bool := s.toList.all fun c => c ≠ '/'

theorem isSegment_of_isSafeName {s : String} (safe : isSafeName s = true) :
    isSegment s = true := by
  rw [isSafeName, Bool.and_eq_true] at safe
  refine List.all_eq_true.mpr fun c mem => ?_
  have := List.all_eq_true.mp safe.2 c mem
  simp only [Bool.and_eq_true] at this
  exact this.1.1.2

theorem takeWhile_segment {s : String} (segment : isSegment s = true) (others : List String) :
    (s.toList ++ pathChars others).takeWhile (fun c => c ≠ '/') = s.toList := by
  rw [List.takeWhile_append_of_pos fun c mem => List.all_eq_true.mp segment c mem]
  cases others <;> simp [pathChars]

/-- The parts of a path can be told from the path. -/
theorem eq_of_pathChars {first second : List String} (parts : ∀ s ∈ first, isSegment s = true)
    (parts' : ∀ s ∈ second, isSegment s = true) (same : pathChars first = pathChars second) :
    first = second := by
  induction first generalizing second with
  | nil =>
    cases second with
    | nil => rfl
    | cons s second => cases same
  | cons s first ih =>
    cases second with
    | nil => cases same
    | cons s' second =>
      have tail : s.toList ++ pathChars first = s'.toList ++ pathChars second := by
        simpa [pathChars] using same
      have head : s.toList = s'.toList := by
        rw [← takeWhile_segment (parts s List.mem_cons_self) first, tail,
          takeWhile_segment (parts' s' List.mem_cons_self) second]
      rw [head] at tail
      rw [String.toList_inj.mp head, ih (fun s mem => parts s (List.mem_cons_of_mem _ mem))
        (fun s mem => parts' s (List.mem_cons_of_mem _ mem)) (List.append_cancel_left tail)]

namespace Place

theorem segments_pod (t : Target) :
    (pod t).segments = ["api", "v1", "namespaces", t.ns, "pods", t.name] := rfl

theorem segments_namespace (i : Tracker) : (tracking ⟨.homeNamespace, i⟩).segments =
    ["api", "v1"] ++ (i.ns.elim [] fun ns => ["namespaces", ns]) ++ ["namespaces", i.name] := by
  simp [segments, ResourceType.segments, type, ns, name, TrackerKind.resourceType,
    ResourceType.namespaces]

theorem segments_cluster (i : Tracker) : (tracking ⟨.couchbaseCluster, i⟩).segments =
    ["apis", "couchbase.com", "v2"] ++ (i.ns.elim [] fun ns => ["namespaces", ns]) ++
      ["couchbaseclusters", i.name] := by
  simp [segments, ResourceType.segments, type, ns, name, TrackerKind.resourceType,
    ResourceType.couchbaseClusters]

theorem safe_of_addressable {p : Place} (addressable : p.Addressable) :
    ∀ s ∈ p.segments, isSafeName s = true := by
  obtain ⟨name, ns, -⟩ := addressable
  have fixed : ∀ s ∈ ["api", "v1", "apis", "couchbase.com", "v2", "namespaces", "pods",
      "couchbaseclusters"], isSafeName s = true := by decide
  simp only [List.forall_mem_cons] at fixed
  cases p with
  | pod t =>
    have ns := Option.all_some.symm.trans ns
    simp_all [segments_pod, Place.name]
  | tracking k =>
    obtain ⟨kind, i, _ | namespace'⟩ := k
    · cases kind <;> simp_all [segments_namespace, segments_cluster, Place.name]
    · have ns := Option.all_some.symm.trans ns
      cases kind <;> simp_all [segments_namespace, segments_cluster, Place.name]

/-- The object whose path has the given segments. -/
def ofSegments? : List String → Option Place
  | ["api", "v1", "namespaces", ns, "pods", name] => some (.pod ⟨name, ns⟩)
  | ["api", "v1", "namespaces", name] => some (.tracking ⟨.homeNamespace, ⟨name, none⟩⟩)
  | ["api", "v1", "namespaces", ns, "namespaces", name] =>
    some (.tracking ⟨.homeNamespace, ⟨name, some ns⟩⟩)
  | ["apis", "couchbase.com", "v2", "couchbaseclusters", name] =>
    some (.tracking ⟨.couchbaseCluster, ⟨name, none⟩⟩)
  | ["apis", "couchbase.com", "v2", "namespaces", ns, "couchbaseclusters", name] =>
    some (.tracking ⟨.couchbaseCluster, ⟨name, some ns⟩⟩)
  | _ => none

theorem ofSegments?_segments (p : Place) : ofSegments? p.segments = some p := by
  cases p with
  | pod t => rfl
  | tracking k =>
    obtain ⟨kind, i, _ | namespace'⟩ := k <;> cases kind <;> rfl

/-- A path leads to one object. -/
theorem eq_of_path {p q : Place} (addressable : p.Addressable) (addressable' : q.Addressable)
    (same : p.path = q.path) : p = q := by
  have parts : p.segments = q.segments := by
    refine eq_of_pathChars
      (fun s mem => isSegment_of_isSafeName (safe_of_addressable addressable s mem))
      (fun s mem => isSegment_of_isSafeName (safe_of_addressable addressable' s mem)) ?_
    rw [← toList_path, ← toList_path, same]
  have found := ofSegments?_segments p
  rw [parts, ofSegments?_segments] at found
  exact (Option.some.inj found).symm

/-- The characters of a path may stand in one, and do not end it. -/
theorem chars_path {p : Place} (addressable : p.Addressable) :
    ∀ c ∈ p.path.toList, Http.isPathChar c = true ∧ c ≠ '#' ∧ c ≠ '?' := by
  rw [toList_path]
  intro c mem
  obtain ⟨s, segment, mem⟩ := List.mem_flatMap.mp mem
  rcases List.mem_cons.mp mem with rfl | mem
  · decide
  · have safe := safe_of_addressable addressable s segment
    rw [isSafeName, Bool.and_eq_true] at safe
    have := List.all_eq_true.mp safe.2 c mem
    simp only [Bool.and_eq_true, decide_eq_true_eq] at this
    exact ⟨this.1.1.1, this.2, this.1.2⟩

end Place

/-! ## Requests -/

/-- What stays in the path is the path. -/
theorem Http.PathAndQuery.ofChars_path {path : List Char} (stays : ∀ c ∈ path, c ≠ '#' ∧ c ≠ '?') :
    ofChars path = ⟨String.ofList path, none⟩ := by
  have all : withoutFragment path = path :=
    List.takeWhile_eq_self_iff.mpr fun c mem => decide_eq_true (stays c mem).1
  have first : path.takeWhile (· ≠ '?') = path :=
    List.takeWhile_eq_self_iff.mpr fun c mem => decide_eq_true (stays c mem).2
  simp only [ofChars, all, first, List.drop_length]

namespace Call

/-- `Becomes call r`: `Call.request?` gives `r`, which goes to the path of the object, patches
exactly if the call does, and is not a dry run. -/
structure Becomes (call : Call) (r : ApiRequest) : Prop where
  request : call.request? false = some r
  path : r.target.path = call.place.path
  method : r.method = if call.isPatch then .patch else .get
  body : r.body = call.patch?.getD ""
  real : ApiServer.isDryRun r = false

theorem path_place (call : Call) :
    call.collection ++ "/" ++ call.objectName = call.place.path := by
  cases call <;> rfl

theorem objectName_place (call : Call) : call.objectName = call.place.name := by
  cases call <;> rfl

/-- The target of a call about an object that a path can lead to. -/
theorem target?_of_addressable {call : Call} (addressable : call.place.Addressable) :
    call.target? false = some ⟨call.place.path, if call.isPatch then some "" else none⟩ := by
  have chars := Place.chars_path addressable
  have stays : ∀ c ∈ call.place.path.toList, c ≠ '#' ∧ c ≠ '?' := fun c mem => (chars c mem).2
  have sound : call.place.path.toList.all Http.isPathChar = true :=
    List.all_eq_true.mpr fun c mem => (chars c mem).1
  have name : call.objectName ≠ "" := by
    have safe := addressable.name
    rw [isSafeName, Bool.and_eq_true, decide_eq_true_eq] at safe
    rw [objectName_place]
    exact safe.1
  have room := addressable.room
  unfold target? targetText
  rw [path_place]
  cases call.isPatch with
  | false =>
    have fits : (Text.bytes call.place.path).length ≤ Http.maxTarget := by
      rw [Text.bytes, String.toList_append, List.flatMap_append, List.length_append] at room
      exact (Nat.le_add_right _ _).trans room
    simp only [Bool.false_eq_true, if_false, String.append_empty,
      Http.PathAndQuery.ofChars_path stays, String.ofList_toList]
    rw [if_pos]
    simp [name, fits, Http.PathAndQuery.isSound, sound]
  | true =>
    have target : Http.PathAndQuery.ofChars (call.place.path ++ "?").toList =
        ⟨call.place.path, some ""⟩ := by
      have whole : ∀ c ∈ ([] : List Char), c ≠ '#' := fun _ mem => absurd mem List.not_mem_nil
      rw [String.toList_append]
      refine (Http.PathAndQuery.ofChars_append stays whole).trans ?_
      rw [String.ofList_toList]
    simp only [if_true, Bool.false_eq_true, if_false, target]
    rw [if_pos]
    simp [name, room, Http.PathAndQuery.isSound, sound]

/-- A request whose query is empty is no dry run. -/
theorem isDryRun_of_query {r : ApiRequest} (empty : r.target.query.getD "" = "") :
    ApiServer.isDryRun r = false := by
  rw [ApiServer.isDryRun, empty]
  decide

theorem exists_request {call : Call} (addressable : call.place.Addressable) :
    ∃ r, call.Becomes r := by
  have request : ∃ r, call.request? false = some r := by
    rw [request?, target?_of_addressable addressable]
    exact ⟨_, rfl⟩
  obtain ⟨r, becomes⟩ := request
  have sent := becomes
  rw [request?, target?_of_addressable addressable, Option.map_some, Option.some.injEq] at becomes
  subst becomes
  cases call with
  | getPod | getTracker | patchTracker | patchPod =>
    exact ⟨_, sent, rfl, rfl, rfl, isDryRun_of_query rfl⟩

end Call

end EvictionGate
