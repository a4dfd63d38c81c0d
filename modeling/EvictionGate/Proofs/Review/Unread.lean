import EvictionGate.Proofs.Json.Changes
import EvictionGate.Proofs.Kubernetes.Annotated
import EvictionGate.Proofs.Review.Accepted

/-!
# What a review does not read

A review is read by certain names: its request, the parts of that, and the parts of the
eviction and of its metadata. Members under other names can be added or left out, and members
can be in any order: the review is read to the same, or fails at the same stage. What is added
below the eviction has to be such that it can be kept, since the eviction is read whole.

Results:
1. `Change.alike_iff`, `Change.isReadable_iff`: what a change does not change.
2. `alike_iff_of_changes`, `isReadable_iff_of_changes`: the same for any changes in turn.
3. `EvictionReview.read_of_alike`: reviews of which the same is read.
4. `EvictionReview.read_eq_of_changes`: what is read of a review after any changes.
-/

namespace EvictionGate

open Json

namespace AdmissionRequest

/-- The fields of a request that are read, each by its schema. -/
def schema : Schema :=
  .record [("uid", .text), ("name", .text), ("namespace", .text), ("dryRun", .flag),
    ("object", Eviction.schema)]

end AdmissionRequest

namespace AdmissionReview

/-- The field of a review that is read. -/
def schema : Schema := .record [("request", AdmissionRequest.schema)]

end AdmissionReview

/-! ## Changes to a review -/

/-- The names of the members that a schema of a record reads. -/
def Json.Schema.names (s : Schema) : List String :=
  match s.required with
  | .record fields => fields.map Prod.fst
  | _ => []

theorem member?_eq_none {s : Schema} {fields : List (String × Schema)}
    (record : s.required = .record fields) {name : String} (foreign : name ∉ s.names) :
    s.member? name = none := by
  rw [Schema.names, record] at foreign
  rw [Schema.member?, record]
  refine Dict.get?_eq_none_of_forall_ne fun p mem => ?_
  rintro rfl
  exact foreign (List.mem_map_of_mem mem)

/-- `Change r r'`: one change of a review that is not read.

* `order`: `Reorder`.
* `review`, `request`, `eviction`, `metadata`: `Adds` one member to the review, its request, its
  eviction or the metadata of that, under a name that the schema does not read. -/
inductive Change : Raw → Raw → Prop
  | order {r r' : Raw} : Reorder r r' → Change r r'
  | review {r r' : Raw} : Adds AdmissionReview.schema.names (fun _ => True) r r' → Change r r'
  | request {r r' : Raw} :
      At (Adds AdmissionRequest.schema.names fun _ => True) ["request"] r r' → Change r r'
  | eviction {r r' : Raw} :
      At (Adds Eviction.schema.names (IsKept (maxDepth - 3))) ["request", "object"] r r' →
      Change r r'
  | metadata {r r' : Raw} :
      At (Adds ObjectMeta.schema.names (IsKept (maxDepth - 4))) ["request", "object", "metadata"]
        r r' → Change r r'

theorem Change.alike_iff {r r' : Raw} (change : Change r r') {q : Raw} :
    Alike AdmissionReview.schema q r ↔ Alike AdmissionReview.schema q r' := by
  cases change with
  | order reorder => exact ⟨reorder.alike, reorder.symm.alike⟩
  | review adds => exact adds.alike_iff fun _ => member?_eq_none rfl
  | request changes =>
    exact changes.alike_iff (t := AdmissionRequest.schema) rfl
      fun adds => adds.alike_iff fun _ => member?_eq_none rfl
  | eviction changes =>
    exact changes.alike_iff (t := Eviction.schema) rfl
      fun adds => adds.alike_iff fun _ => member?_eq_none rfl
  | metadata changes =>
    exact changes.alike_iff (t := .optional ObjectMeta.schema) rfl
      fun adds => adds.alike_iff (s := .optional ObjectMeta.schema) fun _ => member?_eq_none rfl

/-- `KeptAlong room path r`: all names of the objects along the path are texts, and the tree at
its end `IsKept`. -/
def KeptAlong (room : Nat) : List String → Raw → Prop
  | [], r => IsKept room r
  | name :: path, .object ms => Named ms ∧ ∀ r ∈ valuesOf name ms, KeptAlong (room - 1) path r
  | _ :: _, _ => True

variable {r r' : Raw} {room : Nat} {path : List String} {name : String}

theorem keptAlong_member {before after : List (List Piece × Raw)} {pieces : List Piece}
    (same : ∀ name, pieceText? pieces = some name →
      (KeptAlong (room - 1) path r ↔ KeptAlong (room - 1) path r')) :
    KeptAlong room (name :: path) (.object (before ++ (pieces, r) :: after)) ↔
      KeptAlong room (name :: path) (.object (before ++ (pieces, r') :: after)) := by
  rw [KeptAlong, KeptAlong, named_insert, named_insert]
  refine and_congr_right fun _ => ?_
  by_cases isName : pieceText? pieces = some name
  · rw [valuesOf_of_eq isName, valuesOf_of_eq isName, List.forall_mem_append,
      List.forall_mem_append, List.forall_mem_cons, List.forall_mem_cons, same name isName]
  · rw [valuesOf_of_ne isName, valuesOf_of_ne isName]

theorem keptAlong_of_reorder (reorder : Reorder r r') :
    KeptAlong room path r ↔ KeptAlong room path r' := by
  induction reorder generalizing room path with
  | @here ms ms' perm =>
    cases path with
    | nil => exact ⟨(Reorder.here perm).isKept, (Reorder.here perm.symm).isKept⟩
    | cons name path =>
      have values := valuesOf_perm perm name
      exact and_congr (forall_congr' fun m => by rw [perm.mem_iff])
        (forall_congr' fun r => by rw [values.mem_iff])
  | item reorder ih =>
    cases path with
    | nil => exact ⟨(Reorder.item reorder).isKept, (Reorder.item reorder.symm).isKept⟩
    | cons name path => rfl
  | member reorder ih =>
    cases path with
    | nil => exact ⟨(Reorder.member reorder).isKept, (Reorder.member reorder.symm).isKept⟩
    | cons name path => exact keptAlong_member fun _ _ => ih

theorem keptAlong_of_adds {declared : List String} {fits : Raw → Prop}
    (adds : Adds declared fits r r') (read : name ∈ declared) :
    KeptAlong room (name :: path) r ↔ KeptAlong room (name :: path) r' := by
  cases adds with
  | member isName foreign _ =>
    rw [KeptAlong, KeptAlong, named_insert, valuesOf_of_ne]
    · exact and_congr_left fun _ => (and_iff_right ⟨_, isName⟩).symm
    · rw [isName]
      rintro ⟨⟩
      exact foreign read

theorem keptAlong_of_at {Changes : Raw → Raw → Prop} (done todo : List String)
    (changes : At Changes done r r') (keeps : ∀ {r r'}, Changes r r' →
      (KeptAlong (room - done.length) todo r ↔ KeptAlong (room - done.length) todo r')) :
    KeptAlong room (done ++ todo) r ↔ KeptAlong room (done ++ todo) r' := by
  induction changes generalizing room with
  | here changes => exact keeps changes
  | member _ _ ih =>
    refine keptAlong_member fun _ _ => ih fun changes => ?_
    have keeps := keeps changes
    rwa [List.length_cons, Nat.add_comm, ← Nat.sub_sub] at keeps

/-- `KeptAlong` the path to the object of the request. -/
def IsReadable (r : Raw) : Prop := KeptAlong maxDepth ["request", "object"] r

theorem Change.isReadable_iff (change : Change r r') : IsReadable r ↔ IsReadable r' := by
  cases change with
  | order reorder => exact keptAlong_of_reorder reorder
  | review adds => exact keptAlong_of_adds adds (by decide)
  | request changes =>
    exact keptAlong_of_at ["request"] ["object"] changes fun adds =>
      keptAlong_of_adds adds (by decide)
  | eviction changes =>
    exact keptAlong_of_at ["request", "object"] [] changes fun adds => adds.isKept_iff
  | metadata changes =>
    exact keptAlong_of_at ["request", "object"] [] (At.split changes) fun changes =>
      changes.isKept_iff fun adds => adds.isKept_iff

/-- Changes one after another, made or taken back, are noticed no more than one. -/
theorem alike_iff_of_changes (changes : Relation.EqvGen Change r r') {q : Raw} :
    Alike AdmissionReview.schema q r ↔ Alike AdmissionReview.schema q r' := by
  induction changes with
  | rel _ _ change => exact change.alike_iff
  | refl _ => rfl
  | symm _ _ _ ih => exact ih.symm
  | trans _ _ _ _ _ ih ih' => exact ih.trans ih'

theorem isReadable_iff_of_changes (changes : Relation.EqvGen Change r r') :
    IsReadable r ↔ IsReadable r' := by
  induction changes with
  | rel _ _ change => exact change.isReadable_iff
  | refl _ => rfl
  | symm _ _ _ ih => exact ih.symm
  | trans _ _ _ _ _ ih ih' => exact ih.trans ih'

/-! ## Reviews of which the same is read -/

section Parts

variable {s t : Schema} {ms ms' : List (List Piece × Raw)}

theorem given_of_alike (names : List String) (name : String)
    (alike : Alike s (.object ms) (.object ms')) (declared : s.member? name = some t) :
    Option.Rel (Alike t)
      ((Raw.object ms).given names name) ((Raw.object ms').given names name) := by
  rcases alike.member declared with ⟨none, none'⟩ | ⟨r, r', one, one', alike⟩
  · simp only [Raw.given, none, none', List.head?_nil]
    exact .none
  · simp only [Raw.given, one, one', List.head?_cons]
    exact .some alike

/-- A part without containers is read alike if it is alike. -/
theorem optional_of_alike {α : Type} {Reads : Raw → α → Prop} {o o' : Option Raw} {a : Option α}
    (parts : Option.Rel (Alike t) o o') (optional : Optional Reads o a)
    (leaf : ∀ {r a}, Reads r a → r.depth = 0) : Optional Reads o' a := by
  cases optional with
  | absent =>
    cases parts
    exact .absent
  | null =>
    cases parts with
    | some alike =>
      rw [alike.eq_of_depth rfl]
      exact .null
  | given other reads =>
    cases parts with
    | some alike =>
      rw [alike.eq_of_depth (leaf reads)]
      exact .given other reads

/-- A part that is kept whole looks alike if it is alike and can be kept. -/
theorem kept_of_alike {o o' : Option Raw} {a : Option Value} (parts : Option.Rel (Alike t) o o')
    (optional : Optional (KeptWhole room) o a) (kept : ∀ r ∈ o', IsKept room r) :
    ∃ a', Optional (KeptWhole room) o' a' ∧ Option.Rel (LookAlike t) a a' := by
  cases optional with
  | absent =>
    cases parts
    exact ⟨none, .absent, .none⟩
  | null =>
    cases parts with
    | some alike =>
      rw [alike.eq_of_depth rfl]
      exact ⟨none, .null, .none⟩
  | @given r v other whole =>
    cases parts with
    | @some _ r' alike =>
      obtain ⟨v', whole'⟩ := kept r' rfl
      refine ⟨some v', .given ?_ whole', .some ⟨r, r', alike, whole.1, whole'.1⟩⟩
      rintro rfl
      exact other (alike.symm.eq_of_depth rfl)

theorem isRecord_of_alike {names : List String} {least : Nat}
    (alike : Alike s (.object ms) (.object ms'))
    (declared : ∀ name ∈ names, (s.member? name).isSome = true) (named : Named ms') :
    (Raw.object ms').IsRecord names least := by
  refine .object named fun name mem => ?_
  obtain ⟨t, declared⟩ := Option.isSome_iff_exists.mp (declared name mem)
  rcases alike.member declared with ⟨-, none⟩ | ⟨_, _, -, one, -⟩
  · simp [none]
  · simp [one]

end Parts

theorem MeansText.depth {r : Raw} {t : String} (means : MeansText r t) : r.depth = 0 := by
  cases means
  rfl

theorem MeansFlag.depth {r : Raw} {b : Bool} (means : MeansFlag r b) : r.depth = 0 := by
  cases means
  rfl

namespace AdmissionRequest

/-- The requests agree in all fields but `object`, and their objects are `LookAlike`. -/
structure LooksLike (q q' : AdmissionRequest) : Prop where
  uid : q.uid = q'.uid
  name : q.name = q'.name
  ns : q.ns = q'.ns
  dryRun : q.dryRun = q'.dryRun
  object : Option.Rel (LookAlike Eviction.schema) q.object q'.object

/-- What is read as a request has its names and its object in order. -/
theorem keptAlong_of_written {ms : List (List Piece × Raw)} {q : AdmissionRequest}
    (written : q.WrittenAs (.object ms)) : KeptAlong (maxDepth - 1) ["object"] (.object ms) := by
  obtain ⟨named, once⟩ := written.record
  refine ⟨named, fun o mem => ?_⟩
  have object := written.object
  rw [Raw.given, head?_of_mem (once "object" (by decide)) mem] at object
  generalize q.object = v at object
  cases object with
  | null => exact ⟨.null, .null, Nat.zero_le _⟩
  | given _ kept => exact ⟨_, kept⟩

theorem exists_written {ms ms' : List (List Piece × Raw)} {q : AdmissionRequest}
    (alike : Alike schema (.object ms) (.object ms'))
    (kept : KeptAlong (maxDepth - 1) ["object"] (.object ms'))
    (written : q.WrittenAs (.object ms)) : ∃ q', WrittenAs q' (.object ms') ∧ LooksLike q q' := by
  obtain ⟨named, whole⟩ := kept
  obtain ⟨u, given, means⟩ := written.uid
  have part {t : Schema} (name : String) (declared : schema.member? name = some t) :=
    given_of_alike fieldNames name alike declared
  have uid := part "uid" rfl
  rw [given] at uid
  obtain ⟨o, object, looks⟩ := kept_of_alike (part "object" rfl) written.object fun r mem =>
    whole r (List.mem_of_head? mem)
  refine ⟨{ q with object := o }, ?_, rfl, rfl, rfl, rfl, looks⟩
  constructor
  case record => exact isRecord_of_alike alike (by decide) named
  case uid =>
    generalize (Raw.object ms').given fieldNames "uid" = part at uid ⊢
    cases uid with
    | some alike => exact ⟨_, rfl, alike.eq_of_depth (MeansText.depth means) ▸ means⟩
  case name => exact optional_of_alike (part _ rfl) written.name MeansText.depth
  case ns => exact optional_of_alike (part _ rfl) written.ns MeansText.depth
  case dryRun => exact optional_of_alike (part _ rfl) written.dryRun MeansFlag.depth
  case object => exact object

end AdmissionRequest

namespace EvictionReview

theorem textAt?_eq {s t : Schema} {v v' : Value} (alike : LookAlike s v v') {path : List String}
    (leads : s.at? path = some t) : textAt? v path = textAt? v' path := by
  have parts := alike.at? leads
  unfold textAt?
  generalize v.at? path = o, v'.at? path = o' at parts
  cases parts with
  | none => rfl
  | some alike => exact alike.text?_eq

theorem isEviction_congr {v v' : Value} (alike : LookAlike Eviction.schema v v') :
    IsEviction v ↔ IsEviction v' := by
  obtain ⟨ascending, ascending'⟩ := alike.ascending
  rw [← Eviction.isEviction_iff ascending, alike.conforms_eq, Eviction.isEviction_iff ascending']

theorem ofEnvelope_eq {q q' : AdmissionRequest} (looks : q.LooksLike q') :
    ofEnvelope ⟨some q⟩ = ofEnvelope ⟨some q'⟩ := by
  obtain ⟨uid, name, ns, dryRun, object⟩ := looks
  generalize there : q.object = o at object
  generalize there' : q'.object = o' at object
  cases object with
  | none => simp only [ofEnvelope, there, there']
  | @some v v' alike =>
    obtain ⟨ascending, ascending'⟩ := alike.ascending
    by_cases eviction : IsEviction v
    · have eviction' := (isEviction_congr alike).mp eviction
      rw [ofEnvelope_of_eviction there ascending eviction,
        ofEnvelope_of_eviction there' ascending' eviction', textAt?_eq alike rfl,
        textAt?_eq alike rfl, uid, name, ns, dryRun]
    · have other := fun eviction' => eviction ((isEviction_congr alike).mpr eviction')
      rw [ofEnvelope_of_not_eviction there ascending eviction,
        ofEnvelope_of_not_eviction there' ascending' other]

/-- The review is an object, and its request is not an array. -/
def IsObjectForm : Raw → Prop
  | .object ms => ∀ q ∈ valuesOf "request" ms, ∀ items, q ≠ .array items
  | _ => False

theorem isReadable_of_written (form : IsObjectForm r) {review : AdmissionReview}
    (written : review.WrittenAs r) : IsReadable r := by
  cases r with
  | object ms =>
    obtain ⟨record, request⟩ := written
    obtain ⟨named, once⟩ := record
    refine ⟨named, fun q mem => ?_⟩
    rw [Raw.given, head?_of_mem (once "request" (by decide)) mem] at request
    generalize review.request = asked at request
    cases request with
    | null => trivial
    | given _ written =>
      cases written.record with
      | object => exact AdmissionRequest.keptAlong_of_written written
      | array => exact absurd rfl (form _ mem _)
  | null | bool | number | string | array => exact form.elim

/-- Of requests that are alike the same is read. -/
theorem exists_asked {o o' : Option Raw} {asked : Option AdmissionRequest}
    (parts : Option.Rel (Alike AdmissionRequest.schema) o o')
    (shape : ∀ q ∈ o, ∀ items, q ≠ .array items)
    (kept : ∀ q ∈ o', KeptAlong (maxDepth - 1) ["object"] q)
    (request : Optional (fun r q => AdmissionRequest.WrittenAs q r) o asked) :
    ∃ asked', Optional (fun r q => AdmissionRequest.WrittenAs q r) o' asked' ∧
      ofEnvelope ⟨asked⟩ = ofEnvelope ⟨asked'⟩ := by
  cases request with
  | absent =>
    cases parts
    exact ⟨none, .absent, rfl⟩
  | null =>
    cases parts with
    | some alike =>
      rw [alike.eq_of_depth rfl]
      exact ⟨none, .null, rfl⟩
  | given other written =>
    cases parts with
    | some alike =>
      cases written.record with
      | array => exact absurd rfl (shape _ rfl _)
      | object =>
        cases alike with
        | leaf leaf => cases leaf
        | object once each =>
          obtain ⟨asked, written, looks⟩ := AdmissionRequest.exists_written
            (.object once each) (kept _ rfl) written
          exact ⟨some asked, .given (by simp) written, ofEnvelope_eq looks⟩

theorem exists_written (alike : Alike AdmissionReview.schema r r') (form : IsObjectForm r)
    (kept : IsReadable r → IsReadable r') {review : AdmissionReview}
    (written : review.WrittenAs r) :
    ∃ review', AdmissionReview.WrittenAs review' r' ∧ ofEnvelope review = ofEnvelope review' := by
  have readable := kept (isReadable_of_written form written)
  cases r with
  | object ms =>
    cases alike with
    | leaf leaf => cases leaf
    | @object _ _ ms' once each =>
      have alike : Alike AdmissionReview.schema (.object ms) (.object ms') := .object once each
      obtain ⟨named, along⟩ := readable
      obtain ⟨asked, request, same⟩ := exists_asked
        (given_of_alike ["request"] "request" alike rfl)
        (fun q mem => form q (List.mem_of_head? mem))
        (fun q mem => along q (List.mem_of_head? mem)) written.request
      exact ⟨⟨asked⟩, ⟨isRecord_of_alike alike (by decide) named, request⟩, same⟩
  | null | bool | number | string | array => exact form.elim

theorem IsObjectForm.of_alike (alike : Alike AdmissionReview.schema r r') (form : IsObjectForm r) :
    IsObjectForm r' := by
  cases alike with
  | leaf | array => exact form
  | object once each =>
    intro q mem items isArray
    subst isArray
    have declared : AdmissionReview.schema.member? "request" = some AdmissionRequest.schema := rfl
    rcases (Alike.object once each).member declared with ⟨-, none⟩ | ⟨q, q', one, one', alike⟩
    · rw [none] at mem
      cases mem
    · rw [one', List.mem_singleton] at mem
      subst mem
      have shape := form q (by simp [one])
      cases alike with
      | leaf leaf => cases leaf
      | array => exact shape _ rfl

/-- Of texts of reviews that are alike the same is read. -/
theorem read_of_alike (alike : Alike AdmissionReview.schema r r') (form : IsObjectForm r)
    (readable : IsReadable r ↔ IsReadable r') {body body' : List UInt8} (text : IsText r body)
    (text' : IsText r' body') : read body = read body' := by
  have reads {r : Raw} {body : List UInt8} (text : IsText r body) :
      AdmissionReview.ofBytes? body = AdmissionReview.ofRaw? r := by
    rw [AdmissionReview.ofBytes?_eq_bind, read?_eq_some_iff.mpr text, Option.bind_some]
  rw [read, read, reads text, reads text']
  cases found : AdmissionReview.ofRaw? r with
  | some review =>
    obtain ⟨review', written, same⟩ := exists_written alike form readable.mp
      (AdmissionReview.ofRaw?_eq_some_iff.mp found)
    rw [AdmissionReview.ofRaw?_eq_some_iff.mpr written]
    exact same
  | none =>
    cases found' : AdmissionReview.ofRaw? r' with
    | none => rfl
    | some review' =>
      obtain ⟨review, written, -⟩ := exists_written alike.symm (form.of_alike alike) readable.mpr
        (AdmissionReview.ofRaw?_eq_some_iff.mp found')
      rw [AdmissionReview.ofRaw?_eq_some_iff.mpr written] at found
      cases found

/-- A review is read to the same, or fails at the same stage, whatever members that nobody reads
are added to it or taken from it, whatever order its members have, and wherever blanks stand. -/
theorem read_eq_of_changes {r r' : Raw} {body body' : List UInt8} (text : IsText r body)
    (text' : IsText r' body') (form : IsObjectForm r) (distinct : Distinct r)
    (changes : Relation.EqvGen Change r r') : read body = read body' := by
  have alike := Alike.of_distinct distinct AdmissionReview.schema
  exact read_of_alike ((alike_iff_of_changes changes).mp alike) form
    (isReadable_iff_of_changes changes) text text'

end EvictionReview

/-! ## Values that are written -/

namespace Json.Value

theorem valuesOf_rawMembers {d : Dict Value} (ascending : d.Ascending) (name : String) :
    valuesOf name (rawMembers d) = ((d.get? name).map raw).toList := by
  induction d with
  | nil => rfl
  | cons p d ih =>
    obtain ⟨key, v⟩ := p
    obtain ⟨-, others⟩ := List.pairwise_cons.mp ascending
    rw [rawMembers, valuesOf_cons, pieceText?_stringPieces, ih others, Dict.get?]
    by_cases same : key = name
    · subst same
      simp [ascending.get?_of_cons]
    · simp [same]

mutual

/-- A value whose names are in order is written without repeating one. -/
theorem distinct_raw : ∀ v : Value, v.isOrdered = true → Distinct v.raw
  | .null, _ | .bool _, _ | .number _, _ | .string _, _ => .leaf rfl
  | .array items, ordered => .array (distinct_rawItems items ordered)
  | .object members, ordered => by
    rw [isOrdered, Bool.and_eq_true, decide_eq_true_eq] at ordered
    refine .object (fun name => ?_) (distinct_rawMembers members ordered.2)
    rw [valuesOf_rawMembers ordered.1]
    cases Dict.get? members name <;> simp

theorem distinct_rawItems : ∀ vs : List Value, itemsOrdered vs = true →
    ∀ r ∈ rawItems vs, Distinct r
  | [], _ => fun _ mem => absurd mem List.not_mem_nil
  | v :: vs, ordered => by
    rw [itemsOrdered, Bool.and_eq_true] at ordered
    exact List.forall_mem_cons.mpr ⟨distinct_raw v ordered.1, distinct_rawItems vs ordered.2⟩

theorem distinct_rawMembers : ∀ ms : List (String × Value), membersOrdered ms = true →
    ∀ m ∈ rawMembers ms, Distinct m.2
  | [], _ => fun _ mem => absurd mem List.not_mem_nil
  | (_, v) :: ms, ordered => by
    rw [membersOrdered, Bool.and_eq_true] at ordered
    exact List.forall_mem_cons.mpr ⟨distinct_raw v ordered.1, distinct_rawMembers ms ordered.2⟩

end

end Json.Value

namespace EvictionReview

namespace Sample

def metadata : Value := .object [("name", .string "db-0"), ("namespace", .string "prod")]

def review (request : Value) : Value := .object [("request", request)]

/-- A review of the eviction of a pod. -/
def plain : Value :=
  review (.object [("object", .object [("metadata", metadata)]), ("uid", .string "r")])

/-- The same with its kind. -/
def labelled (request : Value) : Value :=
  .object [("kind", .string "AdmissionReview"), ("request", request)]

/-- Its metadata with a member that no metadata has. -/
def longerMetadata : Value :=
  .object [("name", .string "db-0"), ("clusterName", .null), ("namespace", .string "prod")]

/-- The review with its kind, its request in another order, and the longer metadata. -/
def strayed : Value :=
  labelled (.object [("uid", .string "r"), ("object", .object [("metadata", longerMetadata)])])

theorem isObjectForm_review (members : Dict Value) :
    IsObjectForm (review (.object members)).raw := by
  have one := Value.valuesOf_rawMembers (List.pairwise_singleton _ ("request", .object members))
    "request"
  intro q mem items
  rw [one, Dict.get?, if_pos rfl] at mem
  rw [List.mem_singleton.mp mem]
  intro isArray
  cases isArray

theorem changes_strayed : Relation.EqvGen Change plain.raw strayed.raw := by
  have kind : Change plain.raw (labelled (.object [("object", .object [("metadata", metadata)]),
      ("uid", .string "r")])).raw :=
    .review (@Adds.member _ _ [] _ _ _ _ (pieceText?_stringPieces "kind") (by decide) trivial)
  have order : Change (labelled (.object [("object", .object [("metadata", metadata)]),
      ("uid", .string "r")])).raw (labelled (.object [("uid", .string "r"),
        ("object", .object [("metadata", metadata)])])).raw :=
    .order (@Reorder.member [_] _ _ _ _ (.here (.swap _ _ _)))
  have longer : Change (labelled (.object [("uid", .string "r"),
      ("object", .object [("metadata", metadata)])])).raw strayed.raw := by
    refine .metadata (@At.member _ [_] _ _ _ _ _ _ (pieceText?_stringPieces "request")
      (@At.member _ [_] _ _ _ _ _ _ (pieceText?_stringPieces "object")
        (@At.member _ [] _ _ _ _ _ _ (pieceText?_stringPieces "metadata") (.here ?_))))
    exact @Adds.member _ _ [_] _ _ _ _ (pieceText?_stringPieces "clusterName") (by decide)
      ⟨.null, .null, Nat.zero_le _⟩
  exact .trans _ _ _ (.rel _ _ kind) (.trans _ _ _ (.rel _ _ order) (.rel _ _ longer))

theorem read_plain : read (Text.bytes plain.text) = .ok ⟨"r", ⟨"db-0", "prod"⟩, false⟩ := by
  rw [read, AdmissionReview.ofBytes?, Value.read?_text]
  decide +kernel

end Sample

/-- The review of an eviction is accepted as it is, and read alike with its kind and with more
metadata, in any order. -/
theorem read_strayed : (IsObjectForm Sample.plain.raw ∧ Distinct Sample.plain.raw ∧
      Relation.EqvGen Change Sample.plain.raw Sample.strayed.raw) ∧
    read (Text.bytes Sample.plain.text) = read (Text.bytes Sample.strayed.text) ∧
    read (Text.bytes Sample.strayed.text) = .ok ⟨"r", ⟨"db-0", "prod"⟩, false⟩ := by
  have form : IsObjectForm Sample.plain.raw := Sample.isObjectForm_review _
  have distinct : Distinct Sample.plain.raw := Value.distinct_raw _ (by decide)
  have alike := read_eq_of_changes (Value.isText_text _) (Value.isText_text _) form distinct
    Sample.changes_strayed
  exact ⟨⟨form, distinct, Sample.changes_strayed⟩, alike, alike.symm.trans Sample.read_plain⟩

end EvictionReview

end EvictionGate
