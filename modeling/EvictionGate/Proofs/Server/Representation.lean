import EvictionGate.Proofs.Kubernetes.Address
import EvictionGate.Proofs.Kubernetes.Annotated
import Mathlib.Data.String.Basic

/-!
# A world on a server

A server represents a world if the object under each path reads as the pod or the tracking
object that the world has there. It then acts on the request of a call as the world answers
the call, and goes on representing it; and of the objects under all paths nothing but
annotations changes.

Results:
1. `Represents.act`: a request is answered alike on the server and in the world.
2. `Stage.next_eq_of_alike`: alike replies lead a decision to the same stage.
3. `ApiServer.onlyAnnotations_act`: what a request changes on the server.
-/

namespace EvictionGate

open Json
open Json.Value (membersOf)

/-! ## Replies alike -/

/-- Replies upon which a decision goes on alike: the same answer, or two errors with one
`GateError.isAbsence`. -/
inductive Reply.Alike {call : Call} : Reply call → Reply call → Prop
  | ok (answer : call.Answer) : Alike (.ok answer) (.ok answer)
  | error {e e' : GateError} : e.isAbsence = e'.isAbsence → Alike (.error e) (.error e')

theorem Stage.refused_eq_of_isAbsence {e e' : GateError} (same : e.isAbsence = e'.isAbsence)
    (stage : Stage) : stage.refused e = stage.refused e' := by
  cases stage with
  | fetch => simp only [refused, same]
  | mark flagged => cases flagged <;> rfl
  | _ => rfl

theorem Stage.next_error {c : Settings} {t : Target} {stage : Stage} {call : Call}
    {next : Reply call → Stage} (asks : stage.ask c t = some ⟨call, next⟩) (e : GateError) :
    next (.error e) = stage.refused e := by
  cases stage with
  | ended v => cases asks
  | _ =>
    cases asks
    rfl

/-- Alike replies lead a decision to the same stage. -/
theorem Stage.next_eq_of_alike {c : Settings} {t : Target} {stage : Stage} {call : Call}
    {next : Reply call → Stage} (asks : stage.ask c t = some ⟨call, next⟩)
    {reply reply' : Reply call} (alike : reply.Alike reply') : next reply = next reply' := by
  cases alike with
  | ok answer => rfl
  | error same => rw [next_error asks, next_error asks, refused_eq_of_isAbsence same]

/-! ## What a server says -/

namespace ApiServer

/-- The status in the answer about a path that leads nowhere. -/
theorem ofBytes?_missing (path : String) : ApiStatus.ofBytes? (Text.bytes (missing path).text) =
    some ⟨"Failure", path ++ " not found", "NotFound", 404⟩ := by
  have code : (Number.integer 404).numeral.keep? = some (.integer 404) :=
    Number.keep_integer (by decide) (by decide)
  -- the fields in the order in which the text has them
  simp [ApiStatus.ofBytes?, Value.read?_text, missing, Value.raw, Value.rawMembers,
    pieceText?_stringPieces, fields?, namedFields?, Dict.contains, Dict.get?, Dict.insert, field?,
    Raw.take?, Schema.required, Schema.admitsText, Schema.admitsNumber, Schema.fits, Value.text?,
    Value.ofNat, Value.nat?, code, guard, -String.lt_iff_ltb]

theorem reply_missing (call : Call) (path : String) :
    call.reply (jsonAnswer 404 (missing path)) =
      .error (.api (.refused ⟨"Failure", path ++ " not found", "NotFound", 404⟩)) := by
  have error : Call.isErrorStatus 404 = true := rfl
  simp only [jsonAnswer, Call.reply, Text.ofBytes?_bytes, error, if_true, ApiStatus.ofResponse,
    ofBytes?_missing, Option.getD_some]

theorem reply_object (call : Call) (v : Value) :
    call.reply (jsonAnswer 200 v) = match call.read? (Text.bytes v.text) with
      | some answer => .ok answer
      | none => .error (.api .notDecoded) := by
  have plain : Call.isErrorStatus 200 = false := rfl
  cases read : call.read? (Text.bytes v.text) <;>
    simp only [jsonAnswer, Call.reply, Text.ofBytes?_bytes, plain, Bool.false_eq_true, if_false,
      read]

end ApiServer

/-! ## Worlds on servers -/

/-- `Stores read stored entry`: the stored value, if there is one, is `isOrdered` and is read as
the entry of the world; and there is none if there is no entry. -/
def Stores {α : Type} (read : List UInt8 → Option α) : Option Value → Option α → Prop
  | none, none => True
  | some v, some x => v.isOrdered = true ∧ read (Text.bytes v.text) = some x
  | _, _ => False

namespace Stores

variable {α : Type} {read : List UInt8 → Option α} {entry : Option α}

theorem eq_none (stores : Stores read none entry) : entry = none := by
  cases entry with
  | none => rfl
  | some x => cases stores

theorem exists_entry {v : Value} (stores : Stores read (some v) entry) :
    ∃ x, entry = some x ∧ v.isOrdered = true ∧ read (Text.bytes v.text) = some x := by
  cases entry with
  | none => cases stores
  | some x => exact ⟨x, rfl, stores⟩

end Stores

/-- `Stores` for the object of a place, read as a pod or as an object of any kind. -/
def World.StoredAt (w : World) (stored : Option Value) : Place → Prop
  | .pod t => Stores Pod.ofBytes? stored (w.pods.get? t)
  | .tracking k => Stores DynamicObject.ofBytes? stored (w.tracking.get? k)

/-- `World.StoredAt` for every place that is `Place.Addressable`. -/
def ApiServer.Represents (server : ApiServer) (w : World) : Prop :=
  ∀ p : Place, p.Addressable → w.StoredAt (server.objects.get? p.path) p

/-- If the call removes an annotation, the object has annotations in `w`. -/
def Call.FindsAnnotations (w : World) : Call → Prop
  | .patchTracker k i _ none =>
    ∀ o, w.tracking.get? ⟨k, i⟩ = some o → o.metadata.annotations.isSome = true
  | _ => True

namespace World

/-- A call is about one object, and leaves the others as they are. -/
theorem storedAt_after_of_ne {w : World} {stored : Option Value} {p : Place} {call : Call}
    (other : p ≠ call.place) : (w.after call).StoredAt stored p ↔ w.StoredAt stored p := by
  cases call with
  | getPod | getTracker => rw [after_of_read w rfl]
  | patchTracker k i key value =>
    cases p with
    | pod t => rw [StoredAt, StoredAt, pods_after_patchTracker]
    | tracking k' =>
      have ne : k' ≠ ⟨k, i⟩ := fun same => other (congrArg Place.tracking same)
      rw [StoredAt, StoredAt, tracking_after_patchTracker, if_neg ne]
  | patchPod t key value =>
    cases p with
    | pod u =>
      have ne : u ≠ t := fun same => other (congrArg Place.pod same)
      rw [StoredAt, StoredAt, pod_after_patchPod_of_ne w key value ne]
    | tracking k => rw [StoredAt, StoredAt, tracking_after_patchPod]

end World

namespace ApiServer

variable {server : ApiServer} {w : World} {call : Call} {r : ApiRequest}

/-- Acting leaves what has been received, and what is scripted, as it is. -/
theorem act_keeps (server : ApiServer) (r : ApiRequest) :
    (server.act r).2.scripts = server.scripts ∧ (server.act r).2.received = server.received := by
  unfold act
  split
  · exact ⟨rfl, rfl⟩
  · split <;> exact ⟨rfl, rfl⟩

theorem act_absent (absent : server.objects.get? r.target.path = none) :
    server.act r = (jsonAnswer 404 (missing r.target.path), server) := by
  simp only [act, absent]

theorem act_get {v : Value} (stored : server.objects.get? r.target.path = some v)
    (get : r.method = .get) : server.act r = (jsonAnswer 200 v, server) := by
  simp only [act, stored, get]

theorem act_patch {v : Value} (stored : server.objects.get? r.target.path = some v)
    (patch : r.method = .patch) (real : isDryRun r = false) {key : String}
    {value : Option String} (body : r.body = annotationPatchText key value) :
    server.act r = (jsonAnswer 200 (v.annotated key value),
      { server with objects := server.objects.set r.target.path (v.annotated key value) }) := by
  simp only [act, stored, patch, real, body, Value.ofBytes?_annotationPatchText, Option.getD_some,
    Value.patched_annotationPatch, Bool.false_eq_true, if_false]

/-- What is not stored is missed alike on the server and in the world. -/
theorem alike_of_absent (absent : server.objects.get? r.target.path = none)
    (missed : w.answer call = (.error notFound, w)) (represents : server.Represents w) :
    (call.reply (server.act r).1).Alike (w.answer call).1 ∧
      (server.act r).2.Represents (w.after call) := by
  rw [act_absent absent, reply_missing, World.after, missed]
  exact ⟨.error rfl, represents⟩

theorem alike_of_get {v : Value} (stored : server.objects.get? r.target.path = some v)
    (get : r.method = .get) {answer : call.Answer}
    (reads : call.read? (Text.bytes v.text) = some answer)
    (answers : w.answer call = (.ok answer, w)) (represents : server.Represents w) :
    (call.reply (server.act r).1).Alike (w.answer call).1 ∧
      (server.act r).2.Represents (w.after call) := by
  rw [act_get stored get, reply_object, reads, World.after, answers]
  exact ⟨.ok answer, represents⟩

theorem alike_of_patch {v : Value} (stored : server.objects.get? r.target.path = some v)
    (becomes : call.Becomes r) (addressable : call.place.Addressable) {key : String}
    {value : Option String} (patches : call.patch? = some (annotationPatchText key value))
    (isPatch : call.isPatch = true) {answer : call.Answer}
    (reads : call.read? (Text.bytes (v.annotated key value).text) = some answer)
    (answers : (w.answer call).1 = .ok answer)
    (here : (w.after call).StoredAt (some (v.annotated key value)) call.place)
    (represents : server.Represents w) :
    (call.reply (server.act r).1).Alike (w.answer call).1 ∧
      (server.act r).2.Represents (w.after call) := by
  have method := becomes.method
  have body := becomes.body
  rw [isPatch, if_pos rfl] at method
  rw [patches, Option.getD_some] at body
  rw [act_patch stored method becomes.real body, reply_object, reads, answers]
  refine ⟨.ok answer, fun p addressable' => ?_⟩
  rw [becomes.path]
  by_cases same : p = call.place
  · rw [same, Table.get?_set_self]
    exact here
  · have path : p.path ≠ call.place.path :=
      fun paths => same (Place.eq_of_path addressable' addressable paths)
    rw [Table.get?_set_of_ne _ _ path, World.storedAt_after_of_ne same]
    exact represents p addressable'

/-- A request is answered on the server as the call is answered in the world, and the server
goes on representing the world. -/
theorem Represents.act (represents : server.Represents w) (addressable : call.place.Addressable)
    (becomes : call.Becomes r) (finds : call.FindsAnnotations w) :
    (call.reply (server.act r).1).Alike (w.answer call).1 ∧
      (server.act r).2.Represents (w.after call) := by
  have stored := represents call.place addressable
  rw [← becomes.path] at stored
  cases found : server.objects.get? r.target.path with
  | none =>
    rw [found] at stored
    refine alike_of_absent found ?_ represents
    cases call with
    | getPod t => exact w.answer_getPod_absent stored.eq_none
    | getTracker k i => exact w.answer_getTracker_absent stored.eq_none
    | patchTracker k i key value => exact w.answer_patchTracker_absent stored.eq_none key value
    | patchPod t key value => exact w.answer_patchPod_absent stored.eq_none key value
  | some v =>
    rw [found] at stored
    cases call with
    | getPod t =>
      obtain ⟨pod, entry, -, reads⟩ := stored.exists_entry
      exact alike_of_get found becomes.method reads (w.answer_getPod entry) represents
    | getTracker k i =>
      obtain ⟨o, entry, -, reads⟩ := stored.exists_entry
      exact alike_of_get found becomes.method reads (w.answer_getTracker entry) represents
    | patchTracker k i key value =>
      obtain ⟨o, entry, ordered, reads⟩ := stored.exists_entry
      have there : value = none → o.metadata.annotations.isSome = true := by
        rintro rfl
        exact finds o entry
      have reads' := DynamicObject.ofBytes?_annotated ordered reads key value there
      have answers := w.answer_patchTracker entry key value
      refine alike_of_patch found becomes addressable rfl rfl (congrArg (Option.map _) reads')
        (congrArg Prod.fst answers) ?_ represents
      have entry' := w.tracking_after_patchTracker k i key value ⟨k, i⟩
      rw [if_pos rfl, entry, Option.map_some] at entry'
      rw [Call.place, World.StoredAt, entry']
      exact ⟨Value.isOrdered_annotated ordered key value, reads'⟩
    | patchPod t key value =>
      obtain ⟨pod, entry, ordered, reads⟩ := stored.exists_entry
      have reads' := Pod.ofBytes?_annotated ordered reads key (some value) (fun h => nomatch h)
      have answers := w.answer_patchPod entry key value
      refine alike_of_patch found becomes addressable rfl rfl (congrArg (Option.map _) reads')
        (congrArg Prod.fst answers) ?_ represents
      rw [Call.place, World.StoredAt, World.after, answers, Table.get?_set_self]
      exact ⟨Value.isOrdered_annotated ordered key (some value), reads'⟩

end ApiServer

/-! ## What changes on a server -/

/-- The values are the same, or objects that agree but for `metadata.annotations`. -/
inductive Json.Value.OnlyAnnotations : Value → Value → Prop
  | same (v : Value) : OnlyAnnotations v v
  | annotated {ms ms' : Dict Value} : ms'.erase "metadata" = ms.erase "metadata" →
      (membersOf (ms'.get? "metadata")).erase "annotations" =
        (membersOf (ms.get? "metadata")).erase "annotations" →
      OnlyAnnotations (.object ms) (.object ms')

namespace Json.Value.OnlyAnnotations

theorem trans {u v w : Value} (first : OnlyAnnotations u v) (second : OnlyAnnotations v w) :
    OnlyAnnotations u w := by
  cases first with
  | same => exact second
  | annotated members metadata =>
    cases second with
    | same => exact .annotated members metadata
    | annotated members' metadata' =>
      exact .annotated (members'.trans members) (metadata'.trans metadata)

/-- An annotation that is set or removed in an object changes nothing else of it. -/
theorem of_annotated (ms : Dict Value) (key : String) (value : Option String) :
    OnlyAnnotations (.object ms) (Value.annotated (.object ms) key value) := by
  refine .annotated (Dict.erase_insert _ _ _) ?_
  rw [Dict.get?_insert_self]
  exact Dict.erase_insert _ _ _

end Json.Value.OnlyAnnotations

/-- The tables have values under the same paths, which agree by `Value.OnlyAnnotations`. -/
def OnlyAnnotations (before after : Table String Value) : Prop :=
  ∀ path, Option.Rel Value.OnlyAnnotations (before.get? path) (after.get? path)

namespace OnlyAnnotations

theorem refl (objects : Table String Value) : OnlyAnnotations objects objects := by
  intro path
  cases objects.get? path with
  | none => exact .none
  | some v => exact .some (.same v)

theorem trans {first second third : Table String Value} (before : OnlyAnnotations first second)
    (after : OnlyAnnotations second third) : OnlyAnnotations first third := by
  intro path
  have b := before path
  have a := after path
  revert b a
  generalize first.get? path = u
  generalize second.get? path = v
  generalize third.get? path = w
  intro b a
  cases b with
  | none =>
    cases a
    exact .none
  | some b =>
    cases a with
    | some a => exact .some (b.trans a)

end OnlyAnnotations

theorem Call.exists_patch (call : Call) (isPatch : call.isPatch = true) :
    ∃ key value, call.patch? = some (annotationPatchText key value) := by
  cases call with
  | getPod | getTracker => cases isPatch
  | patchTracker k i key value => exact ⟨key, value, rfl⟩
  | patchPod t key value => exact ⟨key, some value, rfl⟩

/-- A value that is read as a pod is an object. -/
theorem Pod.exists_members {v : Value} {pod : Pod}
    (reads : Pod.ofBytes? (Text.bytes v.text) = some pod) : ∃ ms, v = .object ms := by
  simp only [Pod.ofBytes?, Schema.ofBytes?, Value.read?_text, Option.bind_some] at reads
  cases v with
  | object ms => exact ⟨ms, rfl⟩
  | null | bool b | array items =>
    simp [Value.raw, Raw.take?, schema, Schema.admitsNull, Schema.admitsBool, Schema.item?,
      Schema.required] at reads
  | string s =>
    simp [Value.raw, Raw.take?, pieceText?_stringPieces, schema, Schema.admitsText,
      Schema.required] at reads
  | number n =>
    rw [Value.raw, Raw.take?] at reads
    generalize n.numeral.keep? = kept at reads
    cases kept <;> simp [schema, Schema.admitsNumber, Schema.required] at reads

/-- So is one that is read as an object of any kind. -/
theorem DynamicObject.exists_members {v : Value} {o : DynamicObject}
    (reads : DynamicObject.ofBytes? (Text.bytes v.text) = some o) : ∃ ms, v = .object ms := by
  simp only [DynamicObject.ofBytes?, Value.read?_text] at reads
  cases v with
  | object ms => exact ⟨ms, rfl⟩
  | _ => cases reads

namespace ApiServer

variable {server : ApiServer} {w : World} {call : Call} {r : ApiRequest}

theorem exists_members_of_represents (represents : server.Represents w) {p : Place}
    (addressable : p.Addressable) {v : Value} (stored : server.objects.get? p.path = some v) :
    ∃ ms, v = .object ms := by
  have stores := represents p addressable
  rw [stored] at stores
  cases p with
  | pod t =>
    obtain ⟨pod, -, -, reads⟩ := stores.exists_entry
    exact Pod.exists_members reads
  | tracking k =>
    obtain ⟨o, -, -, reads⟩ := stores.exists_entry
    exact DynamicObject.exists_members reads

/-- A request changes nothing but annotations. -/
theorem onlyAnnotations_act (represents : server.Represents w)
    (addressable : call.place.Addressable) (becomes : call.Becomes r) :
    OnlyAnnotations server.objects (server.act r).2.objects := by
  cases stored : server.objects.get? r.target.path with
  | none =>
    rw [act_absent stored]
    exact .refl _
  | some v =>
    have method := becomes.method
    cases isPatch : call.isPatch with
    | false =>
      rw [isPatch, if_neg (by decide)] at method
      rw [act_get stored method]
      exact .refl _
    | true =>
      rw [isPatch, if_pos rfl] at method
      obtain ⟨key, value, patches⟩ := call.exists_patch isPatch
      have body := becomes.body
      rw [patches, Option.getD_some] at body
      rw [act_patch stored method becomes.real body]
      rw [becomes.path] at stored ⊢
      obtain ⟨ms, rfl⟩ := exists_members_of_represents represents addressable stored
      intro path
      by_cases same : path = call.place.path
      · rw [same, Table.get?_set_self, stored]
        exact .some (.of_annotated ms key value)
      · rw [Table.get?_set_of_ne _ _ same]
        exact OnlyAnnotations.refl _ path

end ApiServer

end EvictionGate
