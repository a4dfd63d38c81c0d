import EvictionGate.Kubernetes.AnnotationPatch
import EvictionGate.Kubernetes.Pod
import EvictionGate.Proofs.Json.Members

/-!
# Annotation patches on stored objects

An annotation patch that is laid over a stored object sets one annotation, or removes it, and
leaves everything else as it was. If the object reads as a pod, or as an object of any kind,
then the patched object reads as that with the annotation set or removed.

Results:
1. `Value.patched_annotationPatch`: what a patch does to a stored object.
2. `Value.ofBytes?_annotationPatchText`: the patch that is sent is the patch that arrives.
3. `Pod.ofBytes?_annotated`, `DynamicObject.ofBytes?_annotated`: how a patched object reads.
-/

namespace EvictionGate

open Json

namespace Json.Value

/-! ## Ordered values -/

mutual

/-- Whether the names of every object in the value are `Dict.Ascending`. -/
def isOrdered : Value → Bool
  | .array items => itemsOrdered items
  | .object members => decide (Dict.Ascending members) && membersOrdered members
  | _ => true

def itemsOrdered : List Value → Bool
  | [] => true
  | v :: vs => isOrdered v && itemsOrdered vs

def membersOrdered : List (String × Value) → Bool
  | [] => true
  | (_, v) :: ms => isOrdered v && membersOrdered ms

end

theorem membersOrdered_iff {ms : List (String × Value)} :
    membersOrdered ms = true ↔ ∀ p ∈ ms, p.2.isOrdered = true := by
  induction ms with
  | nil => simp [membersOrdered]
  | cons p ms ih => simp [membersOrdered, ih]

/-- The members of a value; none if it is absent. -/
def membersOf (v : Option Value) : Dict Value := (v.map members).getD []

theorem get?_membersOf (v : Option Value) (name : String) :
    (membersOf v).get? name = v.bind fun v => v.get? name := by
  cases v <;> rfl

/-- The value is `isOrdered`, or absent. -/
def OptionOrdered (v : Option Value) : Prop := ∀ u ∈ v, u.isOrdered = true

namespace OptionOrdered

variable {v : Option Value}

theorem members (ordered : OptionOrdered v) :
    (membersOf v).Ascending ∧ ∀ p ∈ membersOf v, p.2.isOrdered = true := by
  have nothing : Dict.Ascending ([] : Dict Value) ∧ ∀ p ∈ ([] : Dict Value), p.2.isOrdered = true :=
    ⟨List.Pairwise.nil, fun _ mem => nomatch mem⟩
  cases v with
  | none => exact nothing
  | some v =>
    have whole := ordered v rfl
    cases v with
    | object ms =>
      rw [isOrdered, Bool.and_eq_true, decide_eq_true_eq, membersOrdered_iff] at whole
      exact whole
    | _ => exact nothing

theorem get? (ordered : OptionOrdered v) (name : String) :
    OptionOrdered (v.bind fun v => v.get? name) := by
  intro u found
  rw [← get?_membersOf] at found
  obtain ⟨-, all⟩ := ordered.members
  exact all _ (Dict.mem_of_get? found)

end OptionOrdered

/-! ## One member set -/

/-- The value with the member `name` set to `x`, as an object if it is none. -/
def put (v : Option Value) (name : String) (x : Value) : Value :=
  .object ((membersOf v).insert name x)

theorem isOrdered_put {v : Option Value} (ordered : OptionOrdered v) (name : String) {x : Value}
    (sound : x.isOrdered = true) : (put v name x).isOrdered = true := by
  obtain ⟨ascending, all⟩ := ordered.members
  rw [put, isOrdered, Bool.and_eq_true, decide_eq_true_eq, membersOrdered_iff]
  refine ⟨ascending.insert name x, fun p mem => ?_⟩
  rcases Dict.mem_of_mem_insert mem with rfl | mem
  · exact sound
  · exact all p mem

/-- The members of annotations with `key` set, or removed if there is no value. -/
def annotatedTexts (d : Dict Value) (key : String) : Option String → Dict Value
  | some text => d.insert key (.string text)
  | none => d.erase key

/-- Metadata with an annotation set or removed. -/
def annotatedMetadata (v : Option Value) (key : String) (value : Option String) : Value :=
  put v "annotations"
    (.object (annotatedTexts (membersOf (v.bind fun v => v.get? "annotations")) key value))

/-- The object with an annotation set or removed. -/
def annotated (v : Value) (key : String) (value : Option String) : Value :=
  put v "metadata" (annotatedMetadata (v.get? "metadata") key value)

/-- A patch of one member that is an object is laid over that member. -/
theorem patched_member (target : Option Value) (name : String) (patch : List (String × Value)) :
    patched target (.object [(name, .object patch)]) =
      put target name (patched (target.bind fun v => v.get? name) (.object patch)) := by
  rw [← get?_membersOf]
  simp [patched, patchedMembers, put, membersOf]

/-- An annotation patch sets one annotation, or removes it, whatever it is laid over. -/
theorem patched_annotationPatch (v : Value) (key : String) (value : Option String) :
    patched (some v) (annotationPatch key value) = v.annotated key value := by
  have texts (target : Option Value) :
      patched target (.object [(key, ofText? value)]) =
        .object (annotatedTexts (membersOf target) key value) := by
    cases value <;> simp [patched, patchedMembers, ofText?, annotatedTexts, membersOf]
  rw [annotationPatch, patched_member, patched_member, texts]
  rfl

/-- The patch that is sent is the patch that arrives. -/
theorem ofBytes?_annotationPatchText (key : String) (value : Option String) :
    ofBytes? (Text.bytes (annotationPatchText key value)) = some (annotationPatch key value) := by
  have texts (room : Nat) : (ofText? value).raw.take? room .anything = some (ofText? value) := by
    cases value with
    | none => simp [ofText?, raw, Raw.take?, Schema.admitsNull]
    | some text =>
      simp [ofText?, raw, Raw.take?, pieceText?_stringPieces, Schema.admitsText, Schema.required]
  have object (room : Nat) {name : String} {x : Value}
      (inner : x.raw.take? room .anything = some x) :
      (Value.object [(name, x)]).raw.take? (room + 1) .anything = some (.object [(name, x)]) := by
    rw [Raw.take?_object (List.pairwise_singleton _ _) rfl]
    simp [Dict.collect, Schema.takesMember, Schema.member?, Schema.required, inner]
  rw [ofBytes?, Schema.ofBytes?, annotationPatchText, read?_text, Option.bind_some]
  exact object _ (object _ (object _ (texts _)))

/-- Putting a member into a value and reading it is reading the value and putting what is read
of the member. -/
theorem take?_put {room : Nat} {s t : Schema} {v w : Option Value} (ordered : OptionOrdered v)
    (members : (membersOf v).collect (s.takesMember room) = some (membersOf w))
    (admits : s.admitsObjects = true) {name : String} (named : s.member? name = some t)
    {x y : Value} (inner : x.raw.take? room t = some y) :
    (put v name x).raw.take? (room + 1) s = some (put w name y) := by
  obtain ⟨ascending, -⟩ := ordered.members
  have takes : s.takesMember room name x = some (some y) := by
    simp only [Schema.takesMember, named, inner, Option.map_some]
  rw [put, Raw.take?_object (ascending.insert name x) admits,
    Dict.collect_insert ascending members takes]
  rfl

theorem collect_membersOf_member {f : String → Value → Option (Option Value)} {room : Nat}
    {t : Schema} {v : Option Value} {d : Dict Value} (ordered : OptionOrdered v)
    (members : (membersOf v).collect f = some d) {name : String}
    (reads : ∀ u, f name u = (u.raw.take? (room + 1) t).map some) :
    (membersOf (v.bind fun v => v.get? name)).collect (t.takesMember room) =
      some (membersOf (d.get? name)) := by
  have read := Dict.get?_collect ordered.members.1 members name
  have inner := ordered.get? name
  rw [get?_membersOf] at read
  generalize v.bind (fun v => v.get? name) = u at *
  cases u with
  | none =>
    rw [show d.get? name = none from read]
    rfl
  | some u =>
    obtain ⟨y, takes, same⟩ := Option.map_eq_some_iff.mp ((reads u).symm.trans read)
    rw [← same]
    exact Raw.collect_members inner.members.1 takes

theorem collect_membersOf_get? {room : Nat} {s t : Schema} {v w : Option Value}
    (ordered : OptionOrdered v)
    (members : (membersOf v).collect (s.takesMember (room + 1)) = some (membersOf w))
    {name : String} (named : s.member? name = some t) :
    (membersOf (v.bind fun v => v.get? name)).collect (t.takesMember room) =
      some (membersOf (w.bind fun w => w.get? name)) := by
  rw [← get?_membersOf w]
  exact collect_membersOf_member ordered members fun u => by simp only [Schema.takesMember, named]

/-! ## Order -/

theorem isOrdered_annotatedTexts {v : Option Value} (ordered : OptionOrdered v) (key : String)
    (value : Option String) :
    (Value.object (annotatedTexts (membersOf v) key value)).isOrdered = true := by
  cases value with
  | some text => exact isOrdered_put ordered key rfl
  | none =>
    obtain ⟨ascending, all⟩ := ordered.members
    rw [isOrdered, Bool.and_eq_true, decide_eq_true_eq, membersOrdered_iff]
    exact ⟨ascending.erase key, fun p mem => all p (Dict.mem_of_mem_erase mem)⟩

theorem isOrdered_annotatedMetadata {v : Option Value} (ordered : OptionOrdered v) (key : String)
    (value : Option String) : (annotatedMetadata v key value).isOrdered = true :=
  isOrdered_put ordered _ (isOrdered_annotatedTexts (ordered.get? _) key value)

/-- An annotation patch keeps an object in order. -/
theorem isOrdered_annotated {v : Value} (ordered : v.isOrdered = true) (key : String)
    (value : Option String) : (v.annotated key value).isOrdered = true := by
  have whole : OptionOrdered (some v) := by
    rintro u ⟨⟩
    exact ordered
  exact isOrdered_put whole _ (isOrdered_annotatedMetadata (whole.get? "metadata") key value)

end Json.Value

open Json.Value (membersOf OptionOrdered put annotatedTexts annotatedMetadata)

namespace ObjectMeta

/-! ## Metadata -/

/-- The members that are texts. -/
def textsOf (d : Dict Value) : Dict String := d.filterMap fun p => p.2.text?.map (p.1, ·)

/-- The texts of annotations of which one is set or removed. -/
theorem textsOf_annotatedTexts {d : Dict Value} (ascending : d.Ascending) (key : String)
    (value : Option String) : textsOf (annotatedTexts d key value) =
      value.elim ((textsOf d).erase key) fun text => (textsOf d).insert key text := by
  have all (d : Dict Value) := Dict.collect_eq_filterMap Value.text? d
  refine Option.some.inj ((all _).symm.trans ?_)
  cases value with
  | none => exact Dict.collect_erase (all d) key
  | some text => exact Dict.collect_insert ascending (all d) rfl

/-- `ObjectMeta.ofValue` of a value; empty if it is absent. -/
def ofOption (w : Option Value) : ObjectMeta := (w.map ofValue).getD .empty

/-- Metadata whose annotations are set. -/
theorem ofValue_put_annotations (w : Option Value) (d : Dict Value) :
    ofValue (put w "annotations" (.object d)) =
      { ofOption w with annotations := some (textsOf d) } := by
  have others {name : String} (other : name ≠ "annotations") :
      (put w "annotations" (.object d)).get? name = w.bind fun w => w.get? name := by
    rw [← Value.get?_membersOf]
    exact Dict.get?_insert_of_ne _ _ other
  have itself : (put w "annotations" (.object d)).get? "annotations" = some (.object d) :=
    Dict.get?_insert_self _ _ _
  unfold ofValue
  rw [others (by decide), others (by decide), others (by decide), itself]
  cases w <;> rfl

theorem annotations_ofOption (w : Option Value) :
    (ofOption w).annotations.getD [] =
      textsOf (membersOf (w.bind fun w => w.get? "annotations")) := by
  have absent : textsOf [] = [] := rfl
  cases w with
  | none => rfl
  | some w =>
    change ((w.get? "annotations").bind texts?).getD [] = textsOf (membersOf (w.get? "annotations"))
    cases w.get? "annotations" with
    | none => rfl
    | some v => cases v <;> rfl

/-- How metadata reads after an annotation has been set or removed, by a schema that wants
texts for annotations. -/
theorem takes_annotatedMetadata {room : Nat} {s : Schema} (admits : s.admitsObjects = true)
    (named : s.member? "annotations" = some (.optional (.map .text)))
    {v w : Option Value} (ordered : OptionOrdered v)
    (members : (membersOf v).collect (s.takesMember (room + 1)) = some (membersOf w))
    (key : String) (value : Option String)
    (there : value = none → (ofOption w).annotations.isSome = true) :
    ∃ w', (annotatedMetadata v key value).raw.take? (room + 2) s = some w' ∧
      ofValue w' = (ofOption w).annotate key value := by
  have texts := Value.collect_membersOf_get? ordered members named
  have inner := ordered.get? "annotations"
  have ascending := inner.members.1.collect texts
  have takes : (Value.object (annotatedTexts (membersOf (v.bind fun v => v.get? "annotations"))
        key value)).raw.take? (room + 1) (.optional (.map .text)) =
      some (.object (annotatedTexts (membersOf (w.bind fun w => w.get? "annotations"))
        key value)) := by
    cases value with
    | some text =>
      refine Value.take?_put inner texts rfl (rfl : Schema.member? _ key = some .text) ?_
      simp [Value.raw, Raw.take?, pieceText?_stringPieces, Schema.admitsText, Schema.required]
    | none =>
      refine (Raw.take?_object (inner.members.1.erase key) rfl).trans ?_
      rw [Dict.collect_erase texts key]
      rfl
  refine ⟨_, Value.take?_put ordered members admits named takes, ?_⟩
  rw [ofValue_put_annotations, textsOf_annotatedTexts ascending, ← annotations_ofOption]
  cases value with
  | some text => rfl
  | none =>
    obtain ⟨d, found⟩ := Option.isSome_iff_exists.mp (there rfl)
    simp [annotate, found]

end ObjectMeta

/-! ## Pods and objects of any kind -/

/-- How a stored pod reads after an annotation patch. An annotation is removed from annotations
that are there. -/
theorem Pod.ofBytes?_annotated {v : Value} (ordered : v.isOrdered = true) {pod : Pod}
    (reads : Pod.ofBytes? (Text.bytes v.text) = some pod) (key : String) (value : Option String)
    (there : value = none → pod.metadata.annotations.isSome = true) :
    Pod.ofBytes? (Text.bytes (v.annotated key value).text) =
      some { pod with metadata := pod.metadata.annotate key value } := by
  have whole : OptionOrdered (some v) := by
    rintro u ⟨⟩
    exact ordered
  simp only [Pod.ofBytes?, Schema.ofBytes?, Value.read?_text, Option.bind_some] at reads ⊢
  obtain ⟨w, takes, rfl⟩ := Option.map_eq_some_iff.mp reads
  have members : (membersOf (some v)).collect (Pod.schema.takesMember (maxDepth - 1)) =
      some (membersOf (some w)) := Raw.collect_members whole.members.1 takes
  have named : Pod.schema.member? "metadata" = some (.optional ObjectMeta.schema) := rfl
  obtain ⟨w', inner, same⟩ := ObjectMeta.takes_annotatedMetadata rfl rfl (whole.get? "metadata")
    (Value.collect_membersOf_get? whole members named) key value there
  have taken := Value.take?_put whole members rfl named inner
  refine (congrArg (Option.map Pod.read) taken).trans ?_
  have found : (put (some w) "metadata" w').get? "metadata" = some w' := Dict.get?_insert_self _ _ _
  rw [Option.map_some, Pod.read, found, Option.map_some, Option.getD_some, same]
  rfl

theorem DynamicObject.ofBytes?_object (ms : Dict Value) :
    DynamicObject.ofBytes? (Text.bytes (Value.object ms).text) =
      (takeMembers? [] (Value.rawMembers ms)).map ofMembers := by
  rw [DynamicObject.ofBytes?, Value.read?_text, Value.raw]

/-- How a stored object of any kind reads after an annotation patch. -/
theorem DynamicObject.ofBytes?_annotated {v : Value} (ordered : v.isOrdered = true)
    {o : DynamicObject} (reads : DynamicObject.ofBytes? (Text.bytes v.text) = some o)
    (key : String) (value : Option String)
    (there : value = none → o.metadata.annotations.isSome = true) :
    DynamicObject.ofBytes? (Text.bytes (v.annotated key value).text) =
      some { o with metadata := o.metadata.annotate key value } := by
  have whole : OptionOrdered (some v) := by
    rintro u ⟨⟩
    exact ordered
  cases v with
  | object ms =>
    have ascending : Dict.Ascending ms := whole.members.1
    rw [ofBytes?_object, takeMembers?_rawMembers ascending] at reads
    obtain ⟨d, members, rfl⟩ := Option.map_eq_some_iff.mp reads
    have reads_metadata (u : Value) : keepsMember "metadata" u =
        (u.raw.take? (maxDepth - 1) ObjectMeta.schema).map some := rfl
    obtain ⟨w', inner, same⟩ := ObjectMeta.takes_annotatedMetadata rfl rfl (whole.get? "metadata")
      (Value.collect_membersOf_member whole members reads_metadata) key value there
    have keeps := (reads_metadata _).trans (congrArg (Option.map some) inner)
    have taken := (takeMembers?_rawMembers (ascending.insert _ _)).trans
      (Dict.collect_insert ascending members keeps)
    refine (ofBytes?_object _).trans ((congrArg (Option.map ofMembers) taken).trans ?_)
    have data := Dict.filter_insert_of_not (show isData "metadata" = false by decide) d w'
    simp only [Option.map_some, ofMembers, Dict.get?_insert_self, Option.getD_some, data, same]
    rfl
  | _ =>
    simp only [DynamicObject.ofBytes?, Value.read?_text] at reads
    cases reads

end EvictionGate
