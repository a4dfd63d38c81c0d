import EvictionGate.Kubernetes.DynamicObject
import EvictionGate.Proofs.Json.Text

/-!
# Members read one by one

The members of an object whose names ascend are read each on its own, whether a schema names
them or an object of any kind keeps them. So setting one member of a text and reading it is
reading it and setting what is read of the member, and what cannot be told from outside about
the other members stays as it was.

Results:
1. `Dict.collect_insert`, `Dict.collect_erase`, `Dict.get?_collect`: a map collected from
   another one.
2. `Raw.takeMembers?_rawMembers`: reading members by a schema is collecting them.
3. `DynamicObject.takeMembers?_rawMembers`: so is keeping the members of any object.
-/

namespace EvictionGate

/-! ## Maps in ascending order -/

namespace Dict

variable {α β : Type}

/-- The keys of the map ascend, so that none is repeated. -/
def Ascending (d : Dict α) : Prop := d.Pairwise fun p q => p.1 < q.1

instance (d : Dict α) : Decidable d.Ascending := by
  unfold Ascending
  infer_instance

theorem insert_of_lt {d : Dict α} {key : String} (below : ∀ p ∈ d, key < p.1) (value : α) :
    d.insert key value = (key, value) :: d := by
  cases d with
  | nil => rfl
  | cons p d =>
    obtain ⟨k, v⟩ := p
    have first : key < k := below (k, v) List.mem_cons_self
    have other : k ≠ key := by
      rintro rfl
      exact String.lt_irrefl _ first
    rw [insert, if_neg other, if_pos first]

theorem insert_of_gt {d : Dict α} {key : String} (above : ∀ p ∈ d, p.1 < key) (value : α) :
    d.insert key value = d ++ [(key, value)] := by
  induction d with
  | nil => rfl
  | cons p d ih =>
    obtain ⟨k, v⟩ := p
    have first : k < key := above (k, v) List.mem_cons_self
    have other : k ≠ key := by
      rintro rfl
      exact String.lt_irrefl _ first
    rw [insert, if_neg other, if_neg (String.lt_asymm first),
      ih fun q mem => above q (List.mem_cons_of_mem _ mem), List.cons_append]

theorem get?_eq_none_of_forall_ne {d : Dict α} {key : String} (other : ∀ p ∈ d, p.1 ≠ key) :
    d.get? key = none := by
  induction d with
  | nil => rfl
  | cons p d ih =>
    rw [get?, if_neg (other p List.mem_cons_self),
      ih fun q mem => other q (List.mem_cons_of_mem _ mem)]

theorem mem_of_get? {d : Dict α} {key : String} {value : α} (found : d.get? key = some value) :
    (key, value) ∈ d := by
  induction d with
  | nil => cases found
  | cons p d ih =>
    obtain ⟨k, v⟩ := p
    rw [get?] at found
    split at found
    · next same =>
      subst same
      cases found
      exact List.mem_cons_self
    · exact List.mem_cons_of_mem _ (ih found)

theorem mem_of_mem_insert {d : Dict α} {key : String} {value : α} {p : String × α}
    (mem : p ∈ d.insert key value) : p = (key, value) ∨ p ∈ d := by
  induction d with
  | nil => exact .inl (List.mem_singleton.mp mem)
  | cons q d ih =>
    obtain ⟨k, v⟩ := q
    unfold insert at mem
    split at mem
    · exact (List.mem_cons.mp mem).imp id (List.mem_cons_of_mem _)
    · split at mem
      · exact List.mem_cons.mp mem
      · rcases List.mem_cons.mp mem with rfl | mem
        · exact .inr List.mem_cons_self
        · exact (ih mem).imp id (List.mem_cons_of_mem _)

theorem mem_of_mem_erase {d : Dict α} {key : String} {p : String × α} (mem : p ∈ d.erase key) :
    p ∈ d := by
  induction d with
  | nil => exact mem
  | cons q d ih =>
    obtain ⟨k, v⟩ := q
    unfold erase at mem
    split at mem
    · exact List.mem_cons_of_mem _ (ih mem)
    · exact (List.mem_cons.mp mem).elim (fun h => h ▸ List.mem_cons_self)
        fun mem => List.mem_cons_of_mem _ (ih mem)

theorem Ascending.insert {d : Dict α} (ascending : d.Ascending) (key : String) (value : α) :
    (d.insert key value).Ascending := by
  induction d with
  | nil => exact List.pairwise_singleton _ _
  | cons p d ih =>
    obtain ⟨k, v⟩ := p
    obtain ⟨first, others⟩ := List.pairwise_cons.mp ascending
    unfold Dict.insert
    split
    · next same => exact List.pairwise_cons.mpr ⟨same ▸ first, others⟩
    · next other =>
      split
      · next below =>
        refine List.pairwise_cons.mpr ⟨fun q mem => ?_, ascending⟩
        rcases List.mem_cons.mp mem with rfl | mem
        · exact below
        · exact String.lt_trans below (first q mem)
      · next notBelow =>
        refine List.pairwise_cons.mpr ⟨fun q mem => ?_, ih others⟩
        rcases mem_of_mem_insert mem with rfl | mem
        · exact ((Std.lt_trichotomy k key).resolve_right fun h => h.elim other notBelow)
        · exact first q mem

theorem Ascending.erase {d : Dict α} (ascending : d.Ascending) (key : String) :
    (d.erase key).Ascending := by
  induction d with
  | nil => exact ascending
  | cons p d ih =>
    obtain ⟨k, v⟩ := p
    obtain ⟨first, others⟩ := List.pairwise_cons.mp ascending
    unfold Dict.erase
    split
    · exact ih others
    · exact List.pairwise_cons.mpr ⟨fun q mem => first q (mem_of_mem_erase mem), ih others⟩

theorem Ascending.get?_of_cons {key : String} {value : α} {d : Dict α}
    (ascending : Ascending ((key, value) :: d)) : d.get? key = none := by
  obtain ⟨first, -⟩ := List.pairwise_cons.mp ascending
  refine get?_eq_none_of_forall_ne fun p mem => ?_
  rintro rfl
  exact String.lt_irrefl _ (first p mem)

/-- Maps in ascending order are equal if they agree under every key. -/
theorem Ascending.ext {d e : Dict α} (first : d.Ascending) (second : e.Ascending)
    (same : ∀ key, d.get? key = e.get? key) : d = e := by
  induction d generalizing e with
  | nil =>
    cases e with
    | nil => rfl
    | cons q e =>
      have missing := same q.1
      simp [get?] at missing
  | cons p d ih =>
    obtain ⟨k, v⟩ := p
    cases e with
    | nil =>
      have missing := same k
      simp [get?] at missing
    | cons q e =>
      obtain ⟨l, w⟩ := q
      obtain ⟨belowD, restD⟩ := List.pairwise_cons.mp first
      obtain ⟨belowE, restE⟩ := List.pairwise_cons.mp second
      -- the lower one of two different first keys would be found in one of the maps only
      have atK : (k, v) ∈ (l, w) :: e := mem_of_get? ((same k).symm.trans (by simp [get?]))
      have atL : (l, w) ∈ (k, v) :: d := mem_of_get? ((same l).trans (by simp [get?]))
      have heads : (k, v) = (l, w) := by
        rcases List.mem_cons.mp atK with h | inE
        · exact h
        · rcases List.mem_cons.mp atL with h | inD
          · exact h.symm
          · exact absurd (belowE _ inE) (String.lt_asymm (belowD _ inD))
      cases heads
      congr 1
      refine ih restD restE fun key => ?_
      by_cases h : k = key
      · subst h
        rw [first.get?_of_cons, second.get?_of_cons]
      · have there := same key
        simpa [get?, h] using there

/-- Erasing a key that is not there changes nothing. -/
theorem erase_eq_self {d : Dict α} {key : String} (absent : d.get? key = none) :
    d.erase key = d := by
  induction d with
  | nil => rfl
  | cons p d ih =>
    obtain ⟨k, v⟩ := p
    by_cases h : k = key
    · simp [get?, h] at absent
    · rw [erase, if_neg h, ih (by simpa [get?, h] using absent)]

/-! ## Collecting -/

/-- `f` of each entry in order: `some none` leaves the entry out, and one `none` makes the whole
`none`. -/
def collect (f : String → α → Option (Option β)) : Dict α → Option (Dict β)
  | [] => some []
  | (key, value) :: d =>
    match f key value, collect f d with
    | some (some made), some e => some ((key, made) :: e)
    | some none, some e => some e
    | _, _ => none

variable {f : String → α → Option (Option β)} {d : Dict α} {e : Dict β}

theorem collect_cons_eq_some {key : String} {value : α} :
    collect f ((key, value) :: d) = some e ↔ ∃ made others, f key value = some made ∧
      collect f d = some others ∧ e = (made.elim others fun made => (key, made) :: others) := by
  rw [collect]
  constructor
  · intro h
    split at h
    · next made others makes rest =>
      cases h
      exact ⟨some made, others, makes, rest, rfl⟩
    · next others skips rest =>
      cases h
      exact ⟨none, _, skips, rest, rfl⟩
    · cases h
  · rintro ⟨made, others, makes, rest, rfl⟩
    rw [makes, rest]
    cases made <;> rfl

theorem exists_mem_of_mem_collect (h : collect f d = some e) {p : String × β} (mem : p ∈ e) :
    ∃ value, (p.1, value) ∈ d := by
  induction d generalizing e with
  | nil =>
    cases h
    cases mem
  | cons q d ih =>
    obtain ⟨key, value⟩ := q
    obtain ⟨made, others, -, rest, rfl⟩ := collect_cons_eq_some.mp h
    have later (mem : p ∈ others) : ∃ value', (p.1, value') ∈ (key, value) :: d :=
      (ih rest mem).imp fun _ => List.mem_cons_of_mem _
    cases made with
    | none => exact later mem
    | some made =>
      rcases List.mem_cons.mp mem with rfl | mem
      · exact ⟨value, List.mem_cons_self⟩
      · exact later mem

theorem lt_of_mem_collect (h : collect f d = some e) {key : String}
    (below : ∀ p ∈ d, key < p.1) : ∀ p ∈ e, key < p.1 := by
  intro p mem
  obtain ⟨value, mem⟩ := exists_mem_of_mem_collect h mem
  exact below _ mem

theorem Ascending.collect (ascending : d.Ascending) (h : collect f d = some e) : e.Ascending := by
  induction d generalizing e with
  | nil =>
    cases h
    exact List.Pairwise.nil
  | cons p d ih =>
    obtain ⟨first, others⟩ := List.pairwise_cons.mp ascending
    obtain ⟨made, e, -, rest, rfl⟩ := collect_cons_eq_some.mp h
    cases made with
    | none => exact ih others rest
    | some made => exact List.pairwise_cons.mpr ⟨lt_of_mem_collect rest first, ih others rest⟩

/-- Setting an entry and collecting is collecting and setting what is made of the entry. -/
theorem collect_insert (ascending : d.Ascending) (h : collect f d = some e) {key : String}
    {value : α} {made : β} (makes : f key value = some (some made)) :
    collect f (d.insert key value) = some (e.insert key made) := by
  induction d generalizing e with
  | nil =>
    cases h
    exact collect_cons_eq_some.mpr ⟨some made, [], makes, rfl, rfl⟩
  | cons p d ih =>
    obtain ⟨k, v⟩ := p
    obtain ⟨first, others⟩ := List.pairwise_cons.mp ascending
    obtain ⟨made', e, makes', rest, rfl⟩ := collect_cons_eq_some.mp h
    have below := lt_of_mem_collect rest first
    rw [insert]
    split
    · next same =>
      -- the entry is replaced; if nothing was made of it, what is collected has none yet
      subst same
      refine collect_cons_eq_some.mpr ⟨some made, e, makes, rest, ?_⟩
      cases made' with
      | none => exact insert_of_lt below made
      | some made' => simp [insert]
    · next other =>
      split
      · next lower =>
        refine collect_cons_eq_some.mpr ⟨some made, _, makes, h, ?_⟩
        refine insert_of_lt (fun q mem => ?_) made
        cases made' with
        | none => exact String.lt_trans lower (below q mem)
        | some made' =>
          rcases List.mem_cons.mp mem with rfl | mem
          · exact lower
          · exact String.lt_trans lower (below q mem)
      · next notLower =>
        refine collect_cons_eq_some.mpr ⟨made', _, makes', ih others rest, ?_⟩
        cases made' with
        | none => rfl
        | some made' => simp [insert, other, notLower]

theorem collect_erase (h : collect f d = some e) (key : String) :
    collect f (d.erase key) = some (e.erase key) := by
  induction d generalizing e with
  | nil =>
    cases h
    rfl
  | cons p d ih =>
    obtain ⟨k, v⟩ := p
    obtain ⟨made, others, makes, rest, rfl⟩ := collect_cons_eq_some.mp h
    rw [erase]
    split
    · next same =>
      subst same
      rw [ih rest]
      cases made <;> simp [erase]
    · next other =>
      refine collect_cons_eq_some.mpr ⟨made, _, makes, ih rest, ?_⟩
      cases made <;> simp [erase, other]

/-- An entry of what is collected is made of the entry of the map, if there is one. -/
theorem get?_collect (ascending : d.Ascending) (h : collect f d = some e) (key : String) :
    match d.get? key with
    | some value => f key value = some (e.get? key)
    | none => e.get? key = none := by
  induction d generalizing e with
  | nil =>
    cases h
    rfl
  | cons p d ih =>
    obtain ⟨k, v⟩ := p
    obtain ⟨first, others⟩ := List.pairwise_cons.mp ascending
    obtain ⟨made, e, makes, rest, rfl⟩ := collect_cons_eq_some.mp h
    rw [get?]
    split
    · next value found =>
      by_cases same : k = key
      · subst same
        rw [if_pos rfl] at found
        cases found
        rw [makes]
        cases made with
        | none =>
          have below := lt_of_mem_collect rest first
          refine congrArg some (get?_eq_none_of_forall_ne fun q mem => ?_).symm
          rintro rfl
          exact String.lt_irrefl _ (below q mem)
        | some made => simp [get?]
      · rw [if_neg same] at found
        have later := ih others rest
        rw [found] at later
        cases made <;> simpa [get?, same] using later
    · next absent =>
      by_cases same : k = key
      · rw [if_pos same] at absent
        cases absent
      · rw [if_neg same] at absent
        have later := ih others rest
        rw [absent] at later
        cases made <;> simpa [get?, same] using later

/-- Collecting what can be made of every entry leaves out those of which nothing is made. -/
theorem collect_eq_filterMap (g : α → Option β) (d : Dict α) :
    collect (fun _ value => some (g value)) d =
      some (d.filterMap fun p => (g p.2).map fun made => (p.1, made)) := by
  induction d with
  | nil => rfl
  | cons p d ih =>
    obtain ⟨key, value⟩ := p
    rw [collect, ih]
    cases made : g value <;> simp [made]

/-- `Reads f read`: the reader takes one entry after another, and inserts into what it has what
`f` makes of each. -/
structure Reads (f : String → α → Option (Option β)) (read : Dict β → Dict α → Option (Dict β)) :
    Prop where
  nil : ∀ before, read before [] = some before
  cons : ∀ {before : Dict β} {key : String} {value : α} {d : Dict α}, before.get? key = none →
    read before ((key, value) :: d) = (f key value).bind fun made =>
      read (made.elim before fun made => before.insert key made) d

/-- Such a reader collects, from a map whose keys ascend. -/
theorem Reads.eq_collect {read : Dict β → Dict α → Option (Dict β)} (reads : Reads f read)
    (before : Dict β) (ascending : d.Ascending) (later : ∀ p ∈ before, ∀ q ∈ d, p.1 < q.1) :
    read before d = (collect f d).map (before ++ ·) := by
  induction d generalizing before with
  | nil => simp [reads.nil, collect]
  | cons p d ih =>
    obtain ⟨key, value⟩ := p
    obtain ⟨first, others⟩ := List.pairwise_cons.mp ascending
    have lower : ∀ p ∈ before, p.1 < key := fun p mem => later p mem (key, value) List.mem_cons_self
    have later' : ∀ p ∈ before, ∀ q ∈ d, p.1 < q.1 :=
      fun p mem q mem' => later p mem q (List.mem_cons_of_mem _ mem')
    have fresh : before.get? key = none := by
      refine get?_eq_none_of_forall_ne fun p mem => ?_
      rintro rfl
      exact String.lt_irrefl _ (lower p mem)
    rw [reads.cons fresh, collect]
    cases f key value with
    | none => rfl
    | some made =>
      cases made with
      | none =>
        rw [Option.bind_some, Option.elim_none, ih before others later']
        cases collect f d <;> rfl
      | some made =>
        rw [Option.bind_some, Option.elim_some, insert_of_gt lower, ih _ others]
        · cases collect f d <;> simp
        · intro p mem q mem'
          rcases List.mem_append.mp mem with mem | mem
          · exact later' p mem q mem'
          · rw [List.mem_singleton.mp mem]
            exact first q mem'

/-- An entry that is filtered out may be set to anything. -/
theorem filter_insert_of_not {keeps : String → Bool} {key : String} (out : keeps key = false)
    (d : Dict α) (value : α) :
    (d.insert key value).filter (fun p => keeps p.1) = d.filter fun p => keeps p.1 := by
  induction d with
  | nil => simp [insert, out]
  | cons p d ih =>
    obtain ⟨k, v⟩ := p
    rw [insert]
    split
    · next same =>
      subst same
      simp [out]
    · split
      · simp [List.filter_cons, out]
      · simp [List.filter_cons, ih]

end Dict

/-! ## Members in a text -/

namespace Json

/-- What `Raw.take?` keeps of a member, by the schema of its object. -/
def Schema.takesMember (s : Schema) (room : Nat) (name : String) (v : Value) :
    Option (Option Value) :=
  match s.member? name with
  | none => some none
  | some t => (v.raw.take? room t).map some

/-- Reading members by a schema is collecting what it takes of them. -/
theorem Raw.takeMembers?_rawMembers (room : Nat) (s : Schema) {ms : Dict Value}
    (ascending : ms.Ascending) :
    Raw.takeMembers? room [] (Value.rawMembers ms) s = ms.collect (s.takesMember room) := by
  have reads : Dict.Reads (s.takesMember room) fun before ms =>
      Raw.takeMembers? room before (Value.rawMembers ms) s := by
    refine ⟨fun before => rfl, fun {before name v ms} _ => ?_⟩
    simp only [Value.rawMembers, Raw.takeMembers?, pieceText?_stringPieces, Schema.takesMember]
    cases s.member? name with
    | none => rfl
    | some t =>
      dsimp only
      cases v.raw.take? room t <;> rfl
  rw [reads.eq_collect [] ascending fun _ mem => absurd mem List.not_mem_nil]
  simp

theorem Raw.take?_object {room : Nat} {s : Schema} {ms : Dict Value} (ascending : ms.Ascending)
    (admits : s.admitsObjects = true) :
    (Value.object ms).raw.take? (room + 1) s =
      (ms.collect (s.takesMember room)).map .object := by
  rw [Value.raw, Raw.take?, if_pos admits, Raw.takeMembers?_rawMembers room s ascending]

/-- The members of a value that is taken are those that the schema takes of its members. -/
theorem Raw.collect_members {room : Nat} {s : Schema} {v w : Value}
    (ascending : v.members.Ascending) (takes : v.raw.take? (room + 1) s = some w) :
    v.members.collect (s.takesMember room) = some w.members := by
  cases v with
  | object ms =>
    change Dict.Ascending ms at ascending
    rw [Value.raw, Raw.take?, Raw.takeMembers?_rawMembers room s ascending] at takes
    obtain ⟨-, takes⟩ := Option.ite_none_right_eq_some.mp takes
    obtain ⟨d, collected, rfl⟩ := Option.map_eq_some_iff.mp takes
    exact collected
  | array items =>
    rw [Value.raw, Raw.take?.eq_def] at takes
    simp only at takes
    split at takes
    · obtain ⟨d, -, rfl⟩ := Option.map_eq_some_iff.mp takes
      rfl
    · cases takes
  | null | bool b | number n | string t =>
    rw [Value.raw, Raw.take?] at takes
    repeat' split at takes
    all_goals
      cases takes
      try rfl

end Json

/-! ## Members of an object of any kind -/

namespace DynamicObject

open Json

/-- What `DynamicObject.takeMembers?` keeps of a member. -/
def keepsMember (name : String) (v : Value) : Option (Option Value) :=
  (v.raw.take? (maxDepth - 1) (memberSchema name)).map some

/-- Keeping the members of any object is collecting what it keeps of them. -/
theorem takeMembers?_rawMembers {ms : Dict Value} (ascending : ms.Ascending) :
    takeMembers? [] (Value.rawMembers ms) = ms.collect keepsMember := by
  have reads : Dict.Reads keepsMember fun before ms =>
      takeMembers? before (Value.rawMembers ms) := by
    refine ⟨fun before => rfl, fun {before name v ms} fresh => ?_⟩
    simp only [Value.rawMembers, takeMembers?, pieceText?_stringPieces, keepsMember,
      Dict.contains, fresh, Option.isSome_none, Bool.and_false, Bool.false_eq_true, if_false]
    cases v.raw.take? (maxDepth - 1) (memberSchema name) <;> rfl
  rw [reads.eq_collect [] ascending fun _ mem => absurd mem List.not_mem_nil]
  simp

end DynamicObject

end EvictionGate
