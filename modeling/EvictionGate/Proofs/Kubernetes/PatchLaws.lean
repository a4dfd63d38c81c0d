import EvictionGate.Proofs.Kubernetes.Annotated

/-!
# Annotation patches as updates of a map

The annotations of an object are a map from names to values, and an annotation patch that is
laid over the object is an update of that map under one key. Patches under different keys
commute, of two patches under one key the later wins, and everything else in the object stays.

Results:
1. `withAnnotations_withAnnotations`, `annotations_withAnnotations`: annotations are a part of
   an object that can be replaced and reads back.
2. `annotatedTexts_comm`, `annotatedTexts_overwrite`: the laws of one entry.
3. `isOrdered_of_ofBytes?`: every value that is read has its names in order.
4. `annotation_patch_updates_map`: the laws of patches.
-/

namespace EvictionGate

open Json

namespace Json.Value

/-- The object after `annotationPatch key value`. -/
def afterPatch (v : Value) (key : String) (value : Option String) : Value :=
  patched (some v) (annotationPatch key value)

/-- The members of `metadata.annotations`; none if there are no annotations. -/
def annotations (v : Value) : Dict Value :=
  membersOf ((v.get? "metadata").bind fun m => m.get? "annotations")

/-- The object with `d` as its `metadata.annotations`. -/
def withAnnotations (v : Value) (d : Dict Value) : Value :=
  put (some v) "metadata" (put (v.get? "metadata") "annotations" (.object d))

/-! ## Annotations as a part of an object -/

section

variable (v : Value) (d e : Dict Value)

@[simp] theorem get?_put_self (v : Option Value) (name : String) (x : Value) :
    (put v name x).get? name = some x :=
  Dict.get?_insert_self _ _ _

theorem get?_put_of_ne (v : Option Value) {name other : String} (x : Value)
    (h : other ≠ name) : (put v name x).get? other = v.bind fun v => v.get? other := by
  rw [← get?_membersOf]
  exact Dict.get?_insert_of_ne _ _ h

theorem put_put (v : Option Value) (name : String) (x y : Value) :
    put (some (put v name x)) name y = put v name y := by
  exact congrArg Value.object (Dict.insert_insert (membersOf v) name x y)

@[simp] theorem get?_metadata_withAnnotations :
    (v.withAnnotations d).get? "metadata" =
      some (put (v.get? "metadata") "annotations" (.object d)) :=
  get?_put_self _ _ _

@[simp] theorem annotations_withAnnotations : (v.withAnnotations d).annotations = d := by
  rw [annotations, get?_metadata_withAnnotations, Option.bind_some, get?_put_self]
  rfl

/-- Of two replacements the later one stands. -/
theorem withAnnotations_withAnnotations :
    (v.withAnnotations d).withAnnotations e = v.withAnnotations e := by
  rw [withAnnotations, get?_metadata_withAnnotations, put_put]
  exact put_put _ _ _ _

theorem afterPatch_eq (key : String) (value : Option String) :
    v.afterPatch key value = v.withAnnotations (annotatedTexts v.annotations key value) :=
  patched_annotationPatch v key value

theorem annotations_afterPatch (key : String) (value : Option String) :
    (v.afterPatch key value).annotations = annotatedTexts v.annotations key value := by
  rw [afterPatch_eq, annotations_withAnnotations]

/-- Two patches replace the annotations by those with both entries updated. -/
theorem afterPatch_afterPatch (key : String) (value : Option String) (key' : String)
    (value' : Option String) : (v.afterPatch key value).afterPatch key' value' =
      v.withAnnotations (annotatedTexts (annotatedTexts v.annotations key value) key' value') := by
  rw [afterPatch_eq _ key', annotations_afterPatch, afterPatch_eq,
    withAnnotations_withAnnotations]

end

/-! ## One entry -/

section

variable {d : Dict Value}

theorem get?_annotatedTexts (d : Dict Value) (key : String) (value : Option String)
    (name : String) : (annotatedTexts d key value).get? name =
      if name = key then value.map .string else d.get? name := by
  split
  · next same =>
    subst same
    cases value with
    | some text => exact Dict.get?_insert_self d _ _
    | none => exact Dict.get?_erase_self d _
  · next other =>
    cases value with
    | some text => exact Dict.get?_insert_of_ne d _ other
    | none => exact Dict.get?_erase_of_ne d other

theorem ascending_annotatedTexts (ascending : d.Ascending) (key : String)
    (value : Option String) : (annotatedTexts d key value).Ascending := by
  cases value with
  | some text => exact ascending.insert _ _
  | none => exact ascending.erase _

/-- Updates under different keys commute. -/
theorem annotatedTexts_comm (ascending : d.Ascending) {key key' : String} (h : key' ≠ key)
    (value value' : Option String) :
    annotatedTexts (annotatedTexts d key value) key' value' =
      annotatedTexts (annotatedTexts d key' value') key value := by
  have once (k : String) (x : Option String) := ascending_annotatedTexts ascending k x
  refine (ascending_annotatedTexts (once key value) _ _).ext
    (ascending_annotatedTexts (once key' value') _ _) fun name => ?_
  simp only [get?_annotatedTexts]
  by_cases first : name = key
  · subst first
    rw [if_neg h.symm, if_pos rfl, if_pos rfl]
  · rw [if_neg first, if_neg first]

/-- Of two updates under one key the later one stands. -/
theorem annotatedTexts_overwrite (ascending : d.Ascending) (key : String)
    (earlier later : Option String) :
    annotatedTexts (annotatedTexts d key earlier) key later = annotatedTexts d key later := by
  refine (ascending_annotatedTexts (ascending_annotatedTexts ascending _ _) _ _).ext
    (ascending_annotatedTexts ascending _ _) fun name => ?_
  simp only [get?_annotatedTexts]
  by_cases same : name = key
  · rw [if_pos same, if_pos same]
  · rw [if_neg same, if_neg same, if_neg same]

end

theorem ascending_annotations {v : Value} (ordered : v.isOrdered = true) :
    v.annotations.Ascending := by
  have whole : OptionOrdered (some v) := by
    rintro u ⟨⟩
    exact ordered
  exact ((whole.get? "metadata").get? "annotations").members.1

end Json.Value

/-! ## What is read is in order -/

namespace Json.Raw

mutual

theorem isOrdered_of_take? : ∀ (r : Raw) (room : Nat) (s : Schema) {v : Value},
    r.take? room s = some v → v.isOrdered = true
  | .null, _, s, v, takes => by
    rw [take?] at takes
    obtain ⟨-, takes⟩ := Option.ite_none_right_eq_some.mp takes
    cases takes
    rfl
  | .bool b, _, s, v, takes => by
    rw [take?] at takes
    obtain ⟨-, takes⟩ := Option.ite_none_right_eq_some.mp takes
    cases takes
    rfl
  | .number n, _, s, v, takes => by
    rw [take?] at takes
    split at takes
    · obtain ⟨-, takes⟩ := Option.ite_none_right_eq_some.mp takes
      cases takes
      rfl
    · cases takes
  | .string pieces, _, s, v, takes => by
    rw [take?] at takes
    split at takes
    · obtain ⟨-, takes⟩ := Option.ite_none_right_eq_some.mp takes
      cases takes
      rfl
    · cases takes
  | .array items, room, s, v, takes => by
    rw [take?.eq_def] at takes
    dsimp only at takes
    split at takes
    · obtain ⟨vs, taken, rfl⟩ := Option.map_eq_some_iff.mp takes
      exact itemsOrdered_of_takeItems? items _ _ taken
    · cases takes
  | .object members, room, s, v, takes => by
    cases room with
    | zero => cases takes
    | succ room =>
      rw [take?] at takes
      obtain ⟨-, takes⟩ := Option.ite_none_right_eq_some.mp takes
      obtain ⟨ms, taken, rfl⟩ := Option.map_eq_some_iff.mp takes
      obtain ⟨ascending, all⟩ :=
        membersOrdered_of_takeMembers? members room [] s List.Pairwise.nil rfl taken
      rw [Value.isOrdered, Bool.and_eq_true, decide_eq_true_eq]
      exact ⟨ascending, all⟩

theorem itemsOrdered_of_takeItems? : ∀ (rs : List Raw) (room : Nat) (s : Schema)
    {vs : List Value}, takeItems? room rs s = some vs → Value.itemsOrdered vs = true
  | [], _, s, vs, takes => by
    cases takes
    rfl
  | r :: rs, room, s, vs, takes => by
    rw [takeItems?] at takes
    split at takes
    · cases takes
    · next v first =>
      obtain ⟨others, rest, rfl⟩ := Option.map_eq_some_iff.mp takes
      rw [Value.itemsOrdered, isOrdered_of_take? r room s first,
        itemsOrdered_of_takeItems? rs room s rest, Bool.and_self]

theorem membersOrdered_of_takeMembers? : ∀ (ms : List (List Piece × Raw)) (room : Nat)
    (before : Dict Value) (s : Schema) {d : Dict Value}, before.Ascending →
    Value.membersOrdered before = true → takeMembers? room before ms s = some d →
    d.Ascending ∧ Value.membersOrdered d = true
  | [], _, before, s, d, ascending, all, takes => by
    cases takes
    exact ⟨ascending, all⟩
  | (name, r) :: ms, room, before, s, d, ascending, all, takes => by
    rw [takeMembers?] at takes
    split at takes
    · cases takes
    · next name _ =>
      split at takes
      · exact membersOrdered_of_takeMembers? ms room before s ascending all takes
      · next t _ =>
        split at takes
        · cases takes
        · next v first =>
          refine membersOrdered_of_takeMembers? ms room _ s (ascending.insert name v) ?_ takes
          rw [Value.membersOrdered_iff] at all ⊢
          intro p mem
          rcases Dict.mem_of_mem_insert mem with rfl | mem
          · exact isOrdered_of_take? r room t first
          · exact all p mem

end

end Json.Raw

/-- Every value that is read from a text has its names in order. -/
theorem Json.Value.isOrdered_of_ofBytes? {bs : List UInt8} {v : Value}
    (reads : Value.ofBytes? bs = some v) : v.isOrdered = true := by
  obtain ⟨r, -, takes⟩ := Option.bind_eq_some_iff.mp reads
  exact Raw.isOrdered_of_take? r maxDepth .anything takes

/-! ## The laws of patches -/

/-- `MapUpdate before after key value`: in `after` the annotation `key` is set, or absent if there
is no value; other annotations, metadata and members are as in `before`. -/
structure MapUpdate (before after : Value) (key : String) (value : Option String) : Prop where
  annotations : ∀ name, after.annotations.get? name =
    if name = key then value.map .string else before.annotations.get? name
  isObject : ∃ d, after.at? ["metadata", "annotations"] = some (.object d)
  metadata : ∀ name ≠ "annotations", after.at? ["metadata", name] = before.at? ["metadata", name]
  members : ∀ name ≠ "metadata", after.get? name = before.get? name

theorem MapUpdate.afterPatch (v : Value) (key : String) (value : Option String) :
    MapUpdate v (v.afterPatch key value) key value where
  annotations name := by
    rw [Value.annotations_afterPatch, Value.get?_annotatedTexts]
  isObject := by
    refine ⟨Value.annotatedTexts v.annotations key value, ?_⟩
    simp [Value.afterPatch_eq, Value.at?]
  metadata name other := by
    simp only [Value.afterPatch_eq, Value.at?, Value.get?_metadata_withAnnotations,
      Option.bind_some, Value.get?_put_of_ne _ _ other]
    cases v.get? "metadata" <;> rfl
  members name other := by
    rw [Value.afterPatch_eq, Value.withAnnotations, Value.get?_put_of_ne _ _ other]
    rfl

/-- An annotation patch, laid over a value whose names are in order as they are in all that is
read, sets one entry of the annotation map or removes it, which changes nothing if the entry is
not there, and leaves the rest of the object alone. Patches under different keys commute, and of
two patches under one key the later wins, so that a patch laid over twice is the patch laid over
once. Whatever characters the key and the value are made of, the text of the patch reads as the
patch. -/
theorem annotation_patch_updates_map (v : Value) (ordered : v.isOrdered = true) (key : String)
    (value : Option String) :
    MapUpdate v (v.afterPatch key value) key value ∧
      (value = none → v.annotations.get? key = none →
        (v.afterPatch key value).annotations = v.annotations) ∧
      (∀ key' value', key' ≠ key → (v.afterPatch key value).afterPatch key' value' =
        (v.afterPatch key' value').afterPatch key value) ∧
      (v.afterPatch key value).afterPatch key value = v.afterPatch key value ∧
      (∀ later, (v.afterPatch key value).afterPatch key later = v.afterPatch key later) ∧
      Value.ofBytes? (Text.bytes (annotationPatchText key value)) =
        some (annotationPatch key value) := by
  have ascending := Value.ascending_annotations ordered
  have wins (later : Option String) :
      (v.afterPatch key value).afterPatch key later = v.afterPatch key later := by
    rw [Value.afterPatch_afterPatch, Value.annotatedTexts_overwrite ascending,
      Value.afterPatch_eq]
  refine ⟨.afterPatch v key value, ?_, ?_, wins value, wins,
    Value.ofBytes?_annotationPatchText key value⟩
  · rintro rfl absent
    rw [Value.annotations_afterPatch]
    exact Dict.erase_eq_self absent
  · intro key' value' other
    rw [Value.afterPatch_afterPatch, Value.afterPatch_afterPatch,
      Value.annotatedTexts_comm ascending other]

namespace Sample

/-- A pod with a name and one annotation. -/
def annotatedPod : Value := .object [
  ("kind", .string "Pod"),
  ("metadata", .object [
    ("annotations", .object [("team", .string "storage")]),
    ("name", .string "db-0")])]

end Sample

/-- Setting an annotation whose key is full of escapes and removing one that is there. -/
theorem annotation_patches_of_pod :
    Sample.annotatedPod.isOrdered = true ∧
      (Sample.annotatedPod.afterPatch "\"quoted\"\n\u0001é" (some "\\")).afterPatch "team" none =
        (Sample.annotatedPod.afterPatch "team" none).afterPatch "\"quoted\"\n\u0001é"
          (some "\\") ∧
      (Sample.annotatedPod.afterPatch "\"quoted\"\n\u0001é" (some "\\")).at?
        ["metadata", "name"] = some (.string "db-0") := by
  have ordered : Sample.annotatedPod.isOrdered = true := by decide
  obtain ⟨update, -, commutes, -⟩ :=
    annotation_patch_updates_map Sample.annotatedPod ordered "\"quoted\"\n\u0001é" (some "\\")
  exact ⟨ordered, commutes "team" none (by decide), update.metadata "name" (by decide)⟩

end EvictionGate
