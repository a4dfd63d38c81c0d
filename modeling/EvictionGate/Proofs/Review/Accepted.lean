import EvictionGate.Proofs.Json.Grammar
import EvictionGate.Proofs.Json.Meaning
import EvictionGate.Review.Request

/-!
# Which reviews are accepted

The bytes of a review are accepted if they are a text of an envelope with a request in it, and
the request holds an eviction that has a name and a namespace, its own or the request's. Other
bytes fail, at the first of these that is not so.

What is asked of bytes is said here in terms of the trees that they are a text of and of what
these mean; how a reader finds it out does not matter.

Results:
1. `AdmissionReview.ofBytes?_eq_some_iff`: the envelope that bytes are a text of.
2. `Eviction.isEviction_iff`: which values are evictions.
3. `EvictionReview.read_iff`: which bytes are accepted, and at which stage the others fail.
-/

namespace EvictionGate

open Json

/-! ## Envelopes -/

namespace AdmissionRequest

theorem take?_present {r : Raw} (other : r ≠ .null) {room : Nat} {o : Option Value} :
    (∃ v, r.take? room .anything = some v ∧ present v = o) ↔
      ∃ v, o = some v ∧ KeptWhole room r v := by
  have kept (v : Value) : r.take? room .anything = some v ↔ KeptWhole room r v :=
    Raw.keep?_eq_some_iff
  have there {v : Value} (means : Means r v) : present v = some v := by
    cases means with
    | null => exact absurd rfl other
    | bool | number | string | array | object => rfl
  simp only [kept]
  constructor
  · rintro ⟨v, whole, rfl⟩
    exact ⟨v, there whole.1, whole⟩
  · rintro ⟨v, rfl, whole⟩
    exact ⟨v, whole, there whole.1⟩

/-- `q.WrittenAs r`: the tree `r` is a record with the fields of `AdmissionRequest`, of which
`uid` is a text, the others are of their kinds, null or absent, and `object` is of any kind. -/
structure WrittenAs (q : AdmissionRequest) (r : Raw) : Prop where
  record : r.IsRecord fieldNames 1
  uid : ∃ u, r.given fieldNames "uid" = some u ∧ MeansText u q.uid
  name : Optional MeansText (r.given fieldNames "name") q.name
  ns : Optional MeansText (r.given fieldNames "namespace") q.ns
  dryRun : Optional MeansFlag (r.given fieldNames "dryRun") q.dryRun
  object : Optional (KeptWhole (maxDepth - 2)) (r.given fieldNames "object") q.object

theorem optionalField?_anything {fields : Dict Raw} {name : String} {room : Nat}
    {o : Option Value} :
    (∃ v, optionalField? fields name .anything room = some v ∧ present v = o) ↔
      Optional (KeptWhole room) (fields.get? name) o :=
  optionalField?_iff rfl fun _ other _ => take?_present other

theorem ofRaw?_eq_some_iff {r : Raw} {q : AdmissionRequest} :
    ofRaw? r = some q ↔ q.WrittenAs r := by
  unfold ofRaw?
  simp only [Option.bind_eq_bind, Option.bind_eq_some_iff, Option.some.injEq]
  constructor
  · rintro ⟨fields, reads, v, given, uid, text, name, readsName, ns, readsNs, dryRun,
      readsDryRun, object, readsObject, rfl⟩
    obtain ⟨record, gives⟩ := Raw.isRecord_of_fields? reads
    constructor
    case record => exact record
    all_goals rw [← gives _ (by decide)]
    case uid => exact field?_text.mp ⟨v, given, text⟩
    case name => exact optionalField?_text.mp ⟨name, readsName, rfl⟩
    case ns => exact optionalField?_text.mp ⟨ns, readsNs, rfl⟩
    case dryRun => exact optionalField?_flag.mp ⟨dryRun, readsDryRun, rfl⟩
    case object => exact optionalField?_anything.mp ⟨object, readsObject, rfl⟩
  · rintro ⟨record, uid, name, ns, dryRun, object⟩
    obtain ⟨fields, reads⟩ := Raw.exists_fields? record
    have gives := (Raw.isRecord_of_fields? reads).2
    rw [← gives _ (by decide)] at uid name ns dryRun object
    obtain ⟨v, given, text⟩ := field?_text.mpr uid
    obtain ⟨name, readsName, name_eq⟩ := optionalField?_text.mpr name
    obtain ⟨ns, readsNs, ns_eq⟩ := optionalField?_text.mpr ns
    obtain ⟨dryRun, readsDryRun, dryRun_eq⟩ := optionalField?_flag.mpr dryRun
    obtain ⟨object, readsObject, object_eq⟩ := optionalField?_anything.mpr object
    exact ⟨fields, reads, v, given, _, text, name, readsName, ns, readsNs, dryRun, readsDryRun,
      object, readsObject, by rw [name_eq, ns_eq, dryRun_eq, object_eq]⟩

end AdmissionRequest

namespace AdmissionReview

/-- `review.WrittenAs r`: the tree `r` is a record, whose `request` is
`AdmissionRequest.WrittenAs`, null or absent. -/
structure WrittenAs (review : AdmissionReview) (r : Raw) : Prop where
  record : r.IsRecord ["request"] 1
  request : Optional (fun r q => AdmissionRequest.WrittenAs q r)
    (r.given ["request"] "request") review.request

/-- `AdmissionReview.ofBytes?` once the text has been read. -/
def ofRaw? (r : Raw) : Option AdmissionReview :=
  (fields? ["request"] 1 r).bind fun fields =>
    match Dict.get? fields "request" with
    | none => some ⟨none⟩
    | some .null => some ⟨none⟩
    | some q => (AdmissionRequest.ofRaw? q).map fun request => ⟨some request⟩

theorem ofBytes?_eq_bind (body : List UInt8) : ofBytes? body = (read? body).bind ofRaw? := rfl

theorem ofRaw?_eq_some_iff {r : Raw} {review : AdmissionReview} :
    ofRaw? r = some review ↔ review.WrittenAs r := by
  obtain ⟨request⟩ := review
  have reads (fields : Dict Raw) : (match Dict.get? fields "request" with
      | none => some ⟨none⟩
      | some .null => some ⟨none⟩
      | some q => (AdmissionRequest.ofRaw? q).map fun request => ⟨some request⟩) =
        some (⟨request⟩ : AdmissionReview) ↔
      Optional (fun r q => AdmissionRequest.WrittenAs q r) (fields.get? "request") request := by
    split
    · next absent =>
      rw [absent]
      refine ⟨?_, fun optional => by cases optional; rfl⟩
      rintro ⟨⟩
      exact .absent
    · next null =>
      rw [null]
      constructor
      · rintro ⟨⟩
        exact .null
      · rintro (_ | _ | ⟨other, _⟩)
        · rfl
        · exact absurd rfl other
    · next q other present =>
      rw [present, Option.map_eq_some_iff]
      constructor
      · rintro ⟨q', written, ⟨⟩⟩
        exact .given other (AdmissionRequest.ofRaw?_eq_some_iff.mp written)
      · rintro (_ | _ | ⟨_, written⟩)
        · exact absurd rfl other
        · exact ⟨_, AdmissionRequest.ofRaw?_eq_some_iff.mpr written, rfl⟩
  rw [ofRaw?, Option.bind_eq_some_iff]
  constructor
  · rintro ⟨fields, read, request⟩
    obtain ⟨record, gives⟩ := Raw.isRecord_of_fields? read
    exact ⟨record, gives "request" (by decide) ▸ (reads fields).mp request⟩
  · rintro ⟨record, request⟩
    obtain ⟨fields, read⟩ := Raw.exists_fields? record
    rw [← (Raw.isRecord_of_fields? read).2 "request" (by decide)] at request
    exact ⟨fields, read, (reads fields).mpr request⟩

/-- The bytes are a JSON text of a tree that is `WrittenAs` the envelope. -/
def WrittenIn (review : AdmissionReview) (body : List UInt8) : Prop :=
  ∃ r, IsText r body ∧ review.WrittenAs r

theorem ofBytes?_eq_some_iff {body : List UInt8} {review : AdmissionReview} :
    ofBytes? body = some review ↔ review.WrittenIn body := by
  rw [ofBytes?_eq_bind, Option.bind_eq_some_iff]
  simp only [read?_eq_some_iff, ofRaw?_eq_some_iff]
  rfl

end AdmissionReview

/-! ## Evictions -/

/-- The value is an object, of which `apiVersion` and `kind` are those of an eviction or absent,
and `deleteOptions` and `metadata` conform to their schemas, are null or absent. -/
structure IsEviction (v : Value) : Prop where
  object : ∃ ms, v = .object ms
  apiVersion : ∀ w, v.get? "apiVersion" = some w → w = .string "policy/v1"
  kind : ∀ w, v.get? "kind" = some w → w = .string "Eviction"
  deleteOptions : ∀ w, v.get? "deleteOptions" = some w →
    w = .null ∨ w.conforms Eviction.deleteOptionsSchema = true
  metadata : ∀ w, v.get? "metadata" = some w → w = .null ∨ w.conforms ObjectMeta.schema = true

namespace Eviction

theorem isEviction_iff {v : Value} (ascending : v.members.Ascending) :
    v.conforms schema = true ↔ IsEviction v := by
  cases v with
  | object d =>
    rw [conforms_object_iff ascending]
    constructor
    · rintro ⟨-, all⟩
      refine ⟨⟨d, rfl⟩, fun w found => ?_, fun w found => ?_, fun w found => ?_, fun w found => ?_⟩
      · exact conforms_exactly.mp (all _ w found _ rfl)
      · exact conforms_exactly.mp (all _ w found _ rfl)
      · exact conforms_optional.mp (all _ w found _ rfl)
      · exact conforms_optional.mp (all _ w found _ rfl)
    · rintro ⟨-, apiVersion, kind, deleteOptions, metadata⟩
      refine ⟨rfl, fun name w found t declared => ?_⟩
      have mem := Dict.mem_of_get? (declared : Dict.get? _ name = some t)
      simp only [List.mem_cons, Prod.mk.injEq, List.not_mem_nil, or_false] at mem
      rcases mem with ⟨rfl, rfl⟩ | ⟨rfl, rfl⟩ | ⟨rfl, rfl⟩ | ⟨rfl, rfl⟩
      · exact conforms_exactly.mpr (apiVersion w found)
      · exact conforms_optional.mpr (deleteOptions w found)
      · exact conforms_exactly.mpr (kind w found)
      · exact conforms_optional.mpr (metadata w found)
  | null | bool | number | string | array =>
    constructor
    · intro admits
      cases admits
    · intro eviction
      obtain ⟨ms, same⟩ := eviction.object
      cases same

end Eviction

/-! ## Reviews -/

/-- No two stages fail with the same words. -/
theorem ReviewFault.message_injective : Function.Injective ReviewFault.message := by
  intro f g same
  cases f <;> cases g <;> first | rfl | (revert same; decide)

namespace EvictionReview

variable {body : List UInt8}

/-- The text under a path of names. -/
def textAt? (v : Value) (path : List String) : Option String := (v.at? path).bind Value.text?

/-- The name in the metadata of the eviction, or else the one in the request. -/
def nameOf (object : Value) (request : AdmissionRequest) : Option String :=
  (textAt? object ["metadata", "name"]).or request.name

/-- The namespace in the metadata of the eviction, or else the one in the request. -/
def nsOf (object : Value) (request : AdmissionRequest) : Option String :=
  (textAt? object ["metadata", "namespace"]).or request.ns

/-- `Accepted body review`: `body` is the text of an envelope with a request, whose object
`IsEviction` and with it gives a name and a namespace that are not empty. -/
inductive Accepted (body : List UInt8) : EvictionReview → Prop
  | intro {request : AdmissionRequest} {object : Value} {name ns : String} :
      AdmissionReview.WrittenIn ⟨some request⟩ body → request.object = some object →
      IsEviction object → nameOf object request = some name → name ≠ "" →
      nsOf object request = some ns → ns ≠ "" →
      Accepted body ⟨request.uid, ⟨name, ns⟩, request.dryRun.getD false⟩

/-- `FailsAt body fault`: the condition of one stage fails, and those of all stages before it
hold.

* `review`: no envelope is `WrittenIn` the body.
* `request`, `object`: it has no request, or the request has no object.
* `eviction`: the object is no `IsEviction`.
* `name`, `ns`: `nameOf` or `nsOf` is empty or none. -/
inductive FailsAt (body : List UInt8) : ReviewFault → Prop
  | review : (∀ review, ¬ AdmissionReview.WrittenIn review body) → FailsAt body .malformedReview
  | request : AdmissionReview.WrittenIn ⟨none⟩ body → FailsAt body .noRequest
  | object {request : AdmissionRequest} : AdmissionReview.WrittenIn ⟨some request⟩ body →
      request.object = none → FailsAt body .noObject
  | eviction {request : AdmissionRequest} {object : Value} :
      AdmissionReview.WrittenIn ⟨some request⟩ body → request.object = some object →
      ¬ IsEviction object → FailsAt body .malformedEviction
  | name {request : AdmissionRequest} {object : Value} :
      AdmissionReview.WrittenIn ⟨some request⟩ body → request.object = some object →
      IsEviction object → (∀ name, nameOf object request = some name → name = "") →
      FailsAt body .noPodName
  | ns {request : AdmissionRequest} {object : Value} {name : String} :
      AdmissionReview.WrittenIn ⟨some request⟩ body → request.object = some object →
      IsEviction object → nameOf object request = some name → name ≠ "" →
      (∀ ns, nsOf object request = some ns → ns = "") → FailsAt body .noPodNamespace

theorem chosenName?_eq_some_iff {eviction request : Option String} {name : String} :
    chosenName? eviction request = some name ↔ eviction.or request = some name ∧ name ≠ "" := by
  unfold chosenName?
  split
  · next empty =>
    rw [empty]
    simp
  · next other =>
    refine ⟨fun same => ⟨same, ?_⟩, And.left⟩
    rintro rfl
    exact other same

theorem chosenName?_eq_none_iff {eviction request : Option String} :
    chosenName? eviction request = none ↔
      ∀ name, eviction.or request = some name → name = "" := by
  rw [Option.eq_none_iff_forall_ne_some]
  simp only [ne_eq, chosenName?_eq_some_iff, not_and, not_not]

/-- An eviction that is read has the names that its value bears. -/
theorem ofValue?_of_isEviction {v : Value} (ascending : v.members.Ascending)
    (eviction : IsEviction v) : ∃ e, Eviction.ofValue? v = some e ∧
      e.metadata.name = textAt? v ["metadata", "name"] ∧
      e.metadata.ns = textAt? v ["metadata", "namespace"] := by
  refine ⟨_, if_pos ((Eviction.isEviction_iff ascending).mpr eviction), ?_⟩
  simp only [textAt?, Value.at?]
  cases v.get? "metadata" with
  | none => exact ⟨rfl, rfl⟩
  | some w => simp [ObjectMeta.ofValue]

/-- What is read of a text of an envelope. -/
theorem read_of_written {review : AdmissionReview} (written : review.WrittenIn body) :
    read body = ofEnvelope review := by
  rw [read, AdmissionReview.ofBytes?_eq_some_iff.mpr written]

section Object

variable {request : AdmissionRequest} {object : Value} (there : request.object = some object)
  (ascending : object.members.Ascending)

include there ascending

theorem ofEnvelope_of_not_eviction (other : ¬ IsEviction object) :
    ofEnvelope ⟨some request⟩ = .error .malformedEviction := by
  have unfit : Eviction.ofValue? object = none :=
    if_neg fun admits => other ((Eviction.isEviction_iff ascending).mp admits)
  simp only [ofEnvelope, there, unfit]

theorem ofEnvelope_of_eviction (eviction : IsEviction object) : ofEnvelope ⟨some request⟩ =
    match chosenName? (textAt? object ["metadata", "name"]) request.name with
    | none => .error .noPodName
    | some name =>
      match chosenName? (textAt? object ["metadata", "namespace"]) request.ns with
      | none => .error .noPodNamespace
      | some ns => .ok ⟨request.uid, ⟨name, ns⟩, request.dryRun.getD false⟩ := by
  obtain ⟨e, reads, name, ns⟩ := ofValue?_of_isEviction ascending eviction
  simp only [ofEnvelope, there, reads, name, ns]
  cases chosenName? (textAt? object ["metadata", "name"]) request.name with
  | none => rfl
  | some name =>
    cases chosenName? (textAt? object ["metadata", "namespace"]) request.ns <;> rfl

end Object

theorem ascending_of_written {request : AdmissionRequest} {object : Value}
    (written : AdmissionReview.WrittenIn ⟨some request⟩ body)
    (there : request.object = some object) : object.members.Ascending := by
  obtain ⟨r, -, -, asked⟩ := written
  obtain ⟨q, -, -, asked⟩ := asked.exists_of_some
  have optional := asked.object
  rw [there] at optional
  obtain ⟨o, -, -, kept⟩ := optional.exists_of_some
  exact kept.1.ascending

theorem read_of_accepted {review : EvictionReview} (accepted : Accepted body review) :
    read body = .ok review := by
  cases accepted with
  | intro written there eviction name named ns nsNamed =>
    rw [read_of_written written,
      ofEnvelope_of_eviction there (ascending_of_written written there) eviction,
      chosenName?_eq_some_iff.mpr ⟨name, named⟩,
      chosenName?_eq_some_iff.mpr ⟨ns, nsNamed⟩]

theorem read_of_failsAt {fault : ReviewFault} (fails : FailsAt body fault) :
    read body = .error fault := by
  cases fails with
  | review unwritten =>
    cases decoded : AdmissionReview.ofBytes? body with
    | none => rw [read, decoded]
    | some review =>
      exact absurd (AdmissionReview.ofBytes?_eq_some_iff.mp decoded) (unwritten review)
  | request written => rw [read_of_written written]; rfl
  | object written missing => simp only [read_of_written written, ofEnvelope, missing]
  | eviction written there other =>
    rw [read_of_written written,
      ofEnvelope_of_not_eviction there (ascending_of_written written there) other]
  | name written there eviction nameless =>
    rw [read_of_written written,
      ofEnvelope_of_eviction there (ascending_of_written written there) eviction,
      chosenName?_eq_none_iff.mpr nameless]
  | ns written there eviction name named nameless =>
    rw [read_of_written written,
      ofEnvelope_of_eviction there (ascending_of_written written there) eviction,
      chosenName?_eq_some_iff.mpr ⟨name, named⟩,
      chosenName?_eq_none_iff.mpr nameless]

/-- Whatever the bytes are, they are accepted or fail, as it is read. -/
theorem accepted_or_fails (body : List UInt8) :
    match read body with
    | .ok review => Accepted body review
    | .error fault => FailsAt body fault := by
  cases decoded : AdmissionReview.ofBytes? body with
  | none =>
    rw [read, decoded]
    refine FailsAt.review fun review written => ?_
    rw [AdmissionReview.ofBytes?_eq_some_iff.mpr written] at decoded
    cases decoded
  | some review =>
    have written := AdmissionReview.ofBytes?_eq_some_iff.mp decoded
    obtain ⟨_ | request⟩ := review
    · rw [read_of_written written]
      exact .request written
    · cases there : request.object with
      | none =>
        simp only [read_of_written written, ofEnvelope, there]
        exact .object written there
      | some object =>
        have ascending := ascending_of_written written there
        by_cases eviction : IsEviction object
        · rw [read_of_written written, ofEnvelope_of_eviction there ascending eviction]
          cases name : chosenName? (textAt? object ["metadata", "name"]) request.name with
          | none => exact .name written there eviction (chosenName?_eq_none_iff.mp name)
          | some name' =>
            obtain ⟨name, named⟩ := chosenName?_eq_some_iff.mp name
            cases ns : chosenName? (textAt? object ["metadata", "namespace"]) request.ns with
            | none => exact .ns written there eviction name named (chosenName?_eq_none_iff.mp ns)
            | some ns' =>
              obtain ⟨ns, nsNamed⟩ := chosenName?_eq_some_iff.mp ns
              exact .intro written there eviction name named ns nsNamed
        · rw [read_of_written written, ofEnvelope_of_not_eviction there ascending eviction]
          exact .eviction written there eviction

/-- The bytes of a review are read to the review that they are accepted as, or else to the first
stage at which they fail, of which the error has the name. -/
theorem read_iff (body : List UInt8) :
    (∀ review, read body = .ok review ↔ Accepted body review) ∧
      (∀ fault, read body = .error fault ↔ FailsAt body fault) ∧
      ∀ fault fault' : ReviewFault, fault.toError = .invalidRequest fault.message ∧
        (fault.toError = fault'.toError → fault = fault') := by
  have found := accepted_or_fails body
  refine ⟨fun review => ⟨fun reads => ?_, read_of_accepted⟩,
    fun fault => ⟨fun reads => ?_, read_of_failsAt⟩, fun fault fault' => ⟨rfl, fun same => ?_⟩⟩
  · rw [reads] at found
    exact found
  · rw [reads] at found
    exact found
  · exact ReviewFault.message_injective (GateError.invalidRequest.inj same)

/-- The parts of an envelope and of a request may stand in their places, without names. -/
example : read (Text.bytes "[[\"r\", \"db-0\", \"prod\", null, \x7b\x7d]]") =
    .ok ⟨"r", ⟨"db-0", "prod"⟩, false⟩ := by decide +kernel

end EvictionReview

end EvictionGate
