import EvictionGate.Proofs.Json.Meaning
import Mathlib.Logic.Relation

/-!
# Changes to a tree

A tree can be changed where nobody looks: the members of an object can be put into another
order, and members can be added that a schema does not name. What a schema reads of it stays
the same, as long as no name that is read is repeated.

`Alike` relates the trees of which a schema reads the same. It is kept by every change, and
trees that are alike mean values that look the same by the schema.

Results:
1. `Reorder.alike`, `At.alike_iff`: changes keep what a schema reads.
2. `Reorder.isKept_iff`, `At.isKept_iff`: they keep whether a tree can be kept whole.
3. `LookAlike.conforms_eq`, `LookAlike.at?`, `LookAlike.text?_eq`: values of trees that are alike
are admitted alike, and say the same.
-/

namespace EvictionGate.Json

variable {ms ms' before after : List (List Piece × Raw)} {pieces : List Piece} {name : String}
  {r r' : Raw} {s t : Schema}

/-! ## Changes -/

/-- `Reorder r r'`: the members of one object, in `r` or anywhere inside of it, are permuted. -/
inductive Reorder : Raw → Raw → Prop
  | here {ms ms' : List (List Piece × Raw)} : ms.Perm ms' → Reorder (.object ms) (.object ms')
  | item {before after : List Raw} {r r' : Raw} : Reorder r r' →
      Reorder (.array (before ++ r :: after)) (.array (before ++ r' :: after))
  | member {before after : List (List Piece × Raw)} {pieces : List Piece} {r r' : Raw} :
      Reorder r r' → Reorder (.object (before ++ (pieces, r) :: after))
        (.object (before ++ (pieces, r') :: after))

/-- `Adds declared fits r r'`: the object `r` gets one more member, in any place, with a name that
is not of `declared` and a value of which `fits` holds. -/
inductive Adds (declared : List String) (fits : Raw → Prop) : Raw → Raw → Prop
  | member {before after : List (List Piece × Raw)} {pieces : List Piece} {name : String}
      {r : Raw} : pieceText? pieces = some name → name ∉ declared → fits r →
      Adds declared fits (.object (before ++ after)) (.object (before ++ (pieces, r) :: after))

/-- `At Changes path r r'`: `Changes` holds of the parts at the end of `path`, and the trees are
the same around them. -/
inductive At (Changes : Raw → Raw → Prop) : List String → Raw → Raw → Prop
  | here {r r' : Raw} : Changes r r' → At Changes [] r r'
  | member {before after : List (List Piece × Raw)} {pieces : List Piece} {name : String}
      {path : List String} {r r' : Raw} : pieceText? pieces = some name →
      At Changes path r r' → At Changes (name :: path)
        (.object (before ++ (pieces, r) :: after)) (.object (before ++ (pieces, r') :: after))

theorem Reorder.symm (reorder : Reorder r r') : Reorder r' r := by
  induction reorder with
  | here perm => exact .here perm.symm
  | item _ ih => exact .item ih
  | member _ ih => exact .member ih

theorem At.split {Changes : Raw → Raw → Prop} {path rest : List String}
    (changes : At Changes (path ++ rest) r r') : At (At Changes rest) path r r' := by
  induction path generalizing r r' with
  | nil => exact .here changes
  | cons name path ih =>
    cases changes with
    | member isName changes => exact .member isName (ih changes)

/-! ## Members -/

theorem valuesOf_append (name : String) (ms ms' : List (List Piece × Raw)) :
    valuesOf name (ms ++ ms') = valuesOf name ms ++ valuesOf name ms' :=
  List.filterMap_append

theorem valuesOf_perm (perm : ms.Perm ms') (name : String) :
    (valuesOf name ms).Perm (valuesOf name ms') :=
  perm.filterMap _

theorem named_insert : Named (before ++ (pieces, r) :: after) ↔
    (∃ name, pieceText? pieces = some name) ∧ Named (before ++ after) := by
  unfold Named
  rw [List.forall_mem_append, List.forall_mem_append, List.forall_mem_cons]
  exact and_left_comm

/-- What stands under other names is not touched by a member. -/
theorem valuesOf_of_ne (other : pieceText? pieces ≠ some name) :
    valuesOf name (before ++ (pieces, r) :: after) = valuesOf name (before ++ after) := by
  rw [valuesOf_append, valuesOf_append, valuesOf_cons, if_neg other]

theorem valuesOf_of_eq (isName : pieceText? pieces = some name) :
    valuesOf name (before ++ (pieces, r) :: after) =
      valuesOf name before ++ r :: valuesOf name after := by
  rw [valuesOf_append, valuesOf_cons, if_pos isName]

/-! ## Trees that are kept whole -/

/-- The tree is `KeptWhole` as some value. -/
def IsKept (room : Nat) (r : Raw) : Prop := ∃ v, KeptWhole room r v

theorem isKept_array {room : Nat} {items : List Raw} :
    IsKept room (.array items) ↔ ∃ left, room = left + 1 ∧ ∀ r ∈ items, IsKept left r := by
  unfold IsKept KeptWhole
  simp only [← Raw.keep?_eq_some_iff, Raw.keep?_array]
  constructor
  · rintro ⟨_, left, f, rfl, each, -⟩
    exact ⟨left, rfl, fun r mem => ⟨_, each r mem⟩⟩
  · rintro ⟨left, rfl, each⟩
    refine ⟨_, left, fun r => (r.keep? left).getD .null, rfl, fun r mem => ?_, rfl⟩
    obtain ⟨v, kept⟩ := each r mem
    simp [kept]

theorem isKept_object {room : Nat} : IsKept room (.object ms) ↔
    ∃ left, room = left + 1 ∧ Named ms ∧ ∀ m ∈ ms, IsKept left m.2 := by
  unfold IsKept KeptWhole
  simp only [← Raw.keep?_eq_some_iff, Raw.keep?_object]
  constructor
  · rintro ⟨_, left, d, rfl, takes, -⟩
    obtain ⟨named, each, -, -⟩ := Raw.takeMembers?_anything takes
    exact ⟨left, rfl, named, fun m mem => ⟨_, each m mem⟩⟩
  · rintro ⟨left, rfl, named, each⟩
    obtain ⟨d, takes⟩ := Raw.exists_takeMembers?_anything named each []
    exact ⟨_, left, d, rfl, takes, rfl⟩

theorem isKept_member {room : Nat} : IsKept room (.object (before ++ (pieces, r) :: after)) ↔
    IsKept room (.object (before ++ after)) ∧ (∃ name, pieceText? pieces = some name) ∧
      IsKept (room - 1) r := by
  rw [isKept_object, isKept_object]
  constructor
  · rintro ⟨left, rfl, named, each⟩
    rw [named_insert] at named
    rw [List.forall_mem_append, List.forall_mem_cons] at each
    exact ⟨⟨left, rfl, named.2, List.forall_mem_append.mpr ⟨each.1, each.2.2⟩⟩, named.1, each.2.1⟩
  · rintro ⟨⟨left, rfl, named, each⟩, isName, kept⟩
    rw [List.forall_mem_append] at each
    exact ⟨left, rfl, named_insert.mpr ⟨isName, named⟩,
      List.forall_mem_append.mpr ⟨each.1, List.forall_mem_cons.mpr ⟨kept, each.2⟩⟩⟩

theorem Reorder.isKept (reorder : Reorder r r') {room : Nat} (kept : IsKept room r) :
    IsKept room r' := by
  induction reorder generalizing room with
  | here perm =>
    obtain ⟨left, rfl, named, each⟩ := isKept_object.mp kept
    exact isKept_object.mpr ⟨left, rfl, fun m mem => named m (perm.mem_iff.mpr mem),
      fun m mem => each m (perm.mem_iff.mpr mem)⟩
  | item _ ih =>
    obtain ⟨left, rfl, each⟩ := isKept_array.mp kept
    rw [List.forall_mem_append, List.forall_mem_cons] at each
    exact isKept_array.mpr ⟨left, rfl,
      List.forall_mem_append.mpr ⟨each.1, List.forall_mem_cons.mpr ⟨ih each.2.1, each.2.2⟩⟩⟩
  | member _ ih =>
    rw [isKept_member] at kept ⊢
    exact ⟨kept.1, kept.2.1, ih kept.2.2⟩

theorem Adds.isKept_iff {declared : List String} {room : Nat}
    (adds : Adds declared (IsKept (room - 1)) r r') : IsKept room r ↔ IsKept room r' := by
  cases adds with
  | member isName _ fits =>
    rw [isKept_member]
    exact ⟨fun kept => ⟨kept, ⟨_, isName⟩, fits⟩, And.left⟩

theorem At.isKept_iff {Changes : Raw → Raw → Prop} {path : List String} {room : Nat}
    (changes : At Changes path r r') (keeps : ∀ {r r'}, Changes r r' →
      (IsKept (room - path.length) r ↔ IsKept (room - path.length) r')) :
    IsKept room r ↔ IsKept room r' := by
  induction changes generalizing room with
  | here changes => exact keeps changes
  | @member before after pieces name path r r' isName changes ih =>
    rw [isKept_member, isKept_member, ih]
    intro r r' changes
    have keeps := keeps changes
    rwa [List.length_cons, Nat.add_comm, ← Nat.sub_sub] at keeps

theorem head?_of_mem {α : Type} {xs : List α} (once : xs.length ≤ 1) {x : α} (mem : x ∈ xs) :
    xs.head? = some x := by
  match xs, once with
  | [y], _ => rw [List.mem_singleton.mp mem, List.head?_cons]

/-! ## Trees of which a schema reads the same -/

/-- `Alike s r r'`: no name that the schema reads is repeated, and what it reads of the two trees
agrees.

* `leaf`: the tree is no container, and the two are the same.
* `array`: the items are `Alike` one by one.
* `object`: the values under each name of the schema are `Alike`, and either tree has one if the
  other does. -/
inductive Alike : Schema → Raw → Raw → Prop
  | leaf {s : Schema} {r : Raw} : r.depth = 0 → Alike s r r
  | array {s : Schema} {items items' : List Raw} : items.length = items'.length →
      (∀ t, s.item? = some t → ∀ (i : Nat) (r r' : Raw), items[i]? = some r →
        items'[i]? = some r' → Alike t r r') →
      Alike s (.array items) (.array items')
  | object {s : Schema} {ms ms' : List (List Piece × Raw)} :
      (∀ name t, s.member? name = some t →
        (valuesOf name ms).length = (valuesOf name ms').length ∧ (valuesOf name ms).length ≤ 1) →
      (∀ name t, s.member? name = some t →
        ∀ r ∈ valuesOf name ms, ∀ r' ∈ valuesOf name ms', Alike t r r') →
      Alike s (.object ms) (.object ms')

/-- No object in the tree repeats a name. -/
inductive Distinct : Raw → Prop
  | leaf {r : Raw} : r.depth = 0 → Distinct r
  | array {items : List Raw} : (∀ r ∈ items, Distinct r) → Distinct (.array items)
  | object {ms : List (List Piece × Raw)} : (∀ name, (valuesOf name ms).length ≤ 1) →
      (∀ m ∈ ms, Distinct m.2) → Distinct (.object ms)

namespace Alike

theorem of_distinct (distinct : Distinct r) (s : Schema) : Alike s r r := by
  induction distinct generalizing s with
  | leaf leaf => exact .leaf leaf
  | array _ ih =>
    refine .array rfl fun t _ i r r' first second => ?_
    cases first.symm.trans second
    exact ih r (List.mem_of_getElem? first) t
  | object once _ ih =>
    refine .object (fun name t _ => ⟨rfl, once name⟩) fun name t _ r mem r' mem' => ?_
    cases (head?_of_mem (once name) mem).symm.trans (head?_of_mem (once name) mem')
    obtain ⟨m, inside, -, rfl⟩ := exists_mem_of_mem_valuesOf mem
    exact ih m inside t

theorem symm (alike : Alike s r r') : Alike s r' r := by
  induction alike with
  | leaf leaf => exact .leaf leaf
  | array same _ ih =>
    exact .array same.symm fun t item i r r' first second => ih t item i r' r second first
  | object once _ ih =>
    refine .object (fun name t member => ?_) fun name t member r mem r' mem' =>
      ih name t member r' mem' r mem
    obtain ⟨same, once⟩ := once name t member
    exact ⟨same.symm, same ▸ once⟩

theorem eq_of_depth (alike : Alike s r r') (leaf : r.depth = 0) : r' = r := by
  cases alike with
  | leaf => rfl
  | array | object => cases leaf

/-- What stands under a name that is read: nothing in both, or one tree in each. -/
theorem member (alike : Alike s (.object ms) (.object ms')) (declared : s.member? name = some t) :
    (valuesOf name ms = [] ∧ valuesOf name ms' = []) ∨
      ∃ r r', valuesOf name ms = [r] ∧ valuesOf name ms' = [r'] ∧ Alike t r r' := by
  cases alike with
  | leaf leaf => cases leaf
  | object once each =>
    obtain ⟨same, once⟩ := once name t declared
    have each := each name t declared
    cases found : valuesOf name ms with
    | nil =>
      rw [found] at same
      exact .inl ⟨rfl, List.eq_nil_of_length_eq_zero same.symm⟩
    | cons r rest =>
      rw [found] at same once each
      obtain rfl : rest = [] := List.eq_nil_of_length_eq_zero (by simpa using once)
      obtain ⟨r', found'⟩ := List.length_eq_one_iff.mp same.symm
      exact .inr ⟨r, r', rfl, found', each r List.mem_cons_self r' (by simp [found'])⟩

theorem of_members (members : ∀ name t, s.member? name = some t →
    (valuesOf name ms = [] ∧ valuesOf name ms' = []) ∨
      ∃ r r', valuesOf name ms = [r] ∧ valuesOf name ms' = [r'] ∧ Alike t r r') :
    Alike s (.object ms) (.object ms') := by
  refine .object (fun name t declared => ?_) fun name t declared r mem r' mem' => ?_
  · rcases members name t declared with ⟨none, none'⟩ | ⟨r, r', one, one', -⟩
    · simp [none, none']
    · simp [one, one']
  · rcases members name t declared with ⟨none, none'⟩ | ⟨r, r', one, one', alike⟩
    · rw [none] at mem
      cases mem
    · rw [one, List.mem_singleton] at mem
      rw [one', List.mem_singleton] at mem'
      rwa [mem, mem']

/-- What is alike stays so if what stands under the names that are read stays in order. -/
theorem congr_members {q : Raw} (alike : Alike s q (.object ms))
    (perm : ∀ name t, s.member? name = some t → (valuesOf name ms).Perm (valuesOf name ms')) :
    Alike s q (.object ms') := by
  cases alike with
  | leaf leaf => cases leaf
  | @object _ ms₀ _ once each =>
    refine .object (fun name t declared => ?_) fun name t declared r mem r' mem' => ?_
    · rw [← (perm name t declared).length_eq]
      exact once name t declared
    · exact each name t declared r mem r' ((perm name t declared).mem_iff.mpr mem')

/-- A member may be replaced by one that is alike to whatever the old one was alike to. -/
theorem congr_member {q : Raw} (alike : Alike s q (.object (before ++ (pieces, r) :: after)))
    (same : ∀ name t q, pieceText? pieces = some name → s.member? name = some t → Alike t q r →
      Alike t q r') : Alike s q (.object (before ++ (pieces, r') :: after)) := by
  cases alike with
  | leaf leaf => cases leaf
  | @object _ ms₀ _ once each =>
    have alike : Alike s (.object ms₀) (.object (before ++ (pieces, r) :: after)) :=
      .object once each
    refine of_members fun name t declared => ?_
    by_cases isName : pieceText? pieces = some name
    · rcases alike.member declared with ⟨-, none⟩ | ⟨x, y, one, one', alike⟩
      · simp [valuesOf_of_eq isName] at none
      · rw [valuesOf_of_eq isName] at one' ⊢
        obtain ⟨none, rest⟩ | ⟨-, absurd⟩ := List.append_eq_singleton_iff.mp one'
        · obtain ⟨rfl, none'⟩ := List.cons.inj rest
          exact .inr ⟨x, r', one, by rw [none, none', List.nil_append],
            same name t x isName declared alike⟩
        · cases absurd
    · rw [valuesOf_of_ne isName, ← valuesOf_of_ne (r := r) isName]
      exact alike.member declared

end Alike

theorem getElem?_replace {before after : List Raw} {i : Nat} (other : i ≠ before.length) :
    (before ++ r' :: after)[i]? = (before ++ r :: after)[i]? := by
  rw [List.getElem?_append, List.getElem?_append]
  split
  · rfl
  · obtain ⟨k, later⟩ : ∃ k, i - before.length = k + 1 := ⟨i - before.length - 1, by omega⟩
    rw [later, List.getElem?_cons_succ, List.getElem?_cons_succ]

theorem Reorder.alike (reorder : Reorder r r') {q : Raw} (alike : Alike s q r) : Alike s q r' := by
  induction reorder generalizing s q with
  | here perm => exact alike.congr_members fun name _ _ => valuesOf_perm perm name
  | @item before after r r' _ ih =>
    cases alike with
    | leaf leaf => cases leaf
    | @array _ qs _ same each =>
      refine .array (by simpa using same) fun t item i x y first second => ?_
      by_cases there : i = before.length
      · subst there
        obtain rfl : r' = y := by simpa using second
        exact ih (each t item _ x r first (by simp))
      · exact each t item i x y first (getElem?_replace there ▸ second)
  | member _ ih => exact alike.congr_member fun _ _ _ _ _ alike => ih alike

/-- The schema by which `Raw.take?` reads the part at the end of a path, if it reads that. -/
def Schema.at? : Schema → List String → Option Schema
  | s, [] => some s
  | s, name :: path => (s.member? name).bind fun t => t.at? path

theorem Adds.alike_iff {declared : List String} {fits : Raw → Prop} (adds : Adds declared fits r r')
    (unread : ∀ name, name ∉ declared → s.member? name = none) {q : Raw} :
    Alike s q r ↔ Alike s q r' := by
  cases adds with
  | @member before after pieces name v isName foreign _ =>
    have same {other : String} {t : Schema} (read : s.member? other = some t) :
        valuesOf other (before ++ (pieces, v) :: after) = valuesOf other (before ++ after) := by
      refine valuesOf_of_ne ?_
      rw [isName]
      rintro ⟨⟩
      rw [unread name foreign] at read
      cases read
    exact ⟨fun alike => alike.congr_members fun other t read => .of_eq (same read).symm,
      fun alike => alike.congr_members fun other t read => .of_eq (same read)⟩

theorem At.alike_iff {Changes : Raw → Raw → Prop} {path : List String}
    (changes : At Changes path r r') (leads : s.at? path = some t)
    (keeps : ∀ {q r r'}, Changes r r' → (Alike t q r ↔ Alike t q r')) {q : Raw} :
    Alike s q r ↔ Alike s q r' := by
  induction changes generalizing s q with
  | here changes =>
    cases leads
    exact keeps changes
  | @member before after pieces name path r r' isName changes ih =>
    obtain ⟨u, read, leads⟩ := Option.bind_eq_some_iff.mp leads
    have same {other : String} {v : Schema} (named : pieceText? pieces = some other)
        (declared : s.member? other = some v) : v.at? path = some t := by
      rw [isName] at named
      cases named
      rw [read] at declared
      cases declared
      exact leads
    exact ⟨fun alike => alike.congr_member fun _ _ _ named declared =>
        (ih (same named declared)).mp,
      fun alike => alike.congr_member fun _ _ _ named declared => (ih (same named declared)).mpr⟩

/-! ## What is alike means the same -/

/-- The values are those that two `Alike` trees mean, by `Means`. -/
def LookAlike (s : Schema) (v v' : Value) : Prop :=
  ∃ r r', Alike s r r' ∧ Means r v ∧ Means r' v'

theorem LookAlike.symm {v v' : Value} (alike : LookAlike s v v') : LookAlike s v' v := by
  obtain ⟨r, r', alike, means, means'⟩ := alike
  exact ⟨r', r, alike.symm, means', means⟩

theorem LookAlike.ascending {v v' : Value} (alike : LookAlike s v v') :
    v.members.Ascending ∧ v'.members.Ascending := by
  obtain ⟨r, r', -, means, means'⟩ := alike
  exact ⟨means.ascending, means'.ascending⟩

/-- A member of an object means what the last value under its name means. -/
theorem Means.get?_of_single {v : Value} (means : Means (.object ms) v) (name : String) :
    match valuesOf name ms with
    | [] => v.get? name = none
    | [r] => ∃ w, v.get? name = some w ∧ Means r w
    | _ => True := by
  cases means with
  | @object _ f d _ means _ looks =>
    have looks : (Value.object d).get? name = _ := looks name
    rw [looks]
    split
    · next none => rw [none]; rfl
    · next r one =>
      have mem : r ∈ valuesOf name ms := by rw [one]; exact List.mem_cons_self
      obtain ⟨m, inside, -, rfl⟩ := exists_mem_of_mem_valuesOf mem
      rw [one]
      exact ⟨_, rfl, means m inside⟩
    · trivial

/-- Under a name that is read stands nothing in both values, or what one tree in each means. -/
theorem Alike.get?_cases (alike : Alike s (.object ms) (.object ms'))
    (declared : s.member? name = some t) {v v' : Value} (means : Means (.object ms) v)
    (means' : Means (.object ms') v') : (v.get? name = none ∧ v'.get? name = none) ∨
      ∃ q ∈ valuesOf name ms, ∃ q' ∈ valuesOf name ms', ∃ w w',
        v.get? name = some w ∧ v'.get? name = some w' ∧ Means q w ∧ Means q' w' := by
  have found := means.get?_of_single name
  have found' := means'.get?_of_single name
  rcases alike.member declared with ⟨none, none'⟩ | ⟨q, q', one, one', -⟩
  · rw [none] at found
    rw [none'] at found'
    exact .inl ⟨found, found'⟩
  · rw [one] at found
    rw [one'] at found'
    obtain ⟨w, found, means⟩ := found
    obtain ⟨w', found', means'⟩ := found'
    exact .inr ⟨q, by simp [one], q', by simp [one'], w, w', found, found', means, means'⟩

theorem LookAlike.get? {v v' : Value} (alike : LookAlike s v v')
    (declared : s.member? name = some t) :
    Option.Rel (LookAlike t) (v.get? name) (v'.get? name) := by
  obtain ⟨r, r', alike, means, means'⟩ := alike
  cases alike with
  | leaf leaf =>
    -- a leaf has no members
    have none {v : Value} (means : Means r v) : v.get? name = none := by
      cases means with
      | object => cases leaf
      | null | bool | number | string | array => rfl
    rw [none means, none means']
    exact .none
  | array =>
    cases means
    cases means'
    exact .none
  | object once each =>
    rcases (Alike.object once each).get?_cases declared means means' with
      ⟨none, none'⟩ | ⟨q, mem, q', mem', w, w', found, found', means, means'⟩
    · rw [none, none']
      exact .none
    · rw [found, found']
      exact .some ⟨q, q', each name t declared q mem q' mem', means, means'⟩

theorem LookAlike.at? {v v' : Value} (alike : LookAlike s v v') {path : List String}
    (leads : s.at? path = some t) :
    Option.Rel (LookAlike t) (v.at? path) (v'.at? path) := by
  induction path generalizing s v v' with
  | nil =>
    cases leads
    exact .some alike
  | cons name path ih =>
    obtain ⟨u, read, leads⟩ := Option.bind_eq_some_iff.mp leads
    have parts := alike.get? read
    rw [Value.at?, Value.at?]
    generalize v.get? name = o at parts
    generalize v'.get? name = o' at parts
    cases parts with
    | none => exact .none
    | some alike => exact ih alike leads

theorem LookAlike.text?_eq {v v' : Value} (alike : LookAlike s v v') : v.text? = v'.text? := by
  obtain ⟨r, r', alike, means, means'⟩ := alike
  cases alike with
  | leaf => rw [means.unique means']
  | array | object =>
    cases means
    cases means'
    rfl

theorem conforms_of_alike (alike : Alike s r r') {v v' : Value} (means : Means r v)
    (means' : Means r' v') (conforms : v.conforms s = true) : v'.conforms s = true := by
  induction alike generalizing v v' with
  | leaf => rwa [← means.unique means']
  | @array s items items' same each ih =>
    cases means with
    | @array _ f means =>
      cases means' with
      | @array _ f' means' =>
        rw [Value.conforms] at conforms ⊢
        cases item : s.item? with
        | none => simp [item] at conforms
        | some t =>
          rw [item] at conforms
          refine itemsConform_iff.mpr fun w mem => ?_
          have conforms := itemsConform_iff.mp conforms
          obtain ⟨r', mem', rfl⟩ := List.mem_map.mp mem
          obtain ⟨i, second⟩ := List.getElem?_of_mem mem'
          obtain ⟨inside, -⟩ := List.getElem?_eq_some_iff.mp second
          have first := List.getElem?_eq_getElem (same ▸ inside : i < items.length)
          have mem := List.mem_of_getElem? first
          exact ih t item i _ r' first second (means _ mem) (means' r' mem')
            (conforms _ (List.mem_map_of_mem mem))
  | @object s ms ms' once each ih =>
    have ascending := means.ascending
    have ascending' := means'.ascending
    have parts {name : String} {t : Schema} (declared : s.member? name = some t) :=
      (Alike.object once each).get?_cases declared means means'
    cases means with
    | object =>
      cases means' with
      | object =>
        rw [conforms_object_iff ascending] at conforms
        rw [conforms_object_iff ascending']
        refine ⟨conforms.1, fun name w' present t declared => ?_⟩
        rcases parts declared with
          ⟨-, none'⟩ | ⟨q, mem, q', mem', w, w'', found, found', means, means'⟩
        · cases none'.symm.trans present
        · cases found'.symm.trans present
          exact ih name t declared q mem q' mem' means means' (conforms.2 name w found t declared)

theorem LookAlike.conforms_eq {v v' : Value} (alike : LookAlike s v v') :
    v.conforms s = v'.conforms s := by
  obtain ⟨r, r', alike, means, means'⟩ := alike
  exact Bool.eq_iff_iff.mpr ⟨conforms_of_alike alike means means',
    conforms_of_alike alike.symm means' means⟩

end EvictionGate.Json
