import EvictionGate.Json.Record
import EvictionGate.Proofs.Json.Members

/-!
# The meaning of a tree

A tree means a value if its names and strings are texts and its numbers are in range; of
repeated members the last one counts. `Means` says so without saying how it is found out. A
tree that is kept whole has a meaning, and no more containers lie one in another than there is
room for.

A record is a tree of which only certain fields are read, by name or by place. `IsRecord` says
which trees are records, and `given` what a record gives under a name.

Results:
1. `Raw.keep?_eq_some_iff`: what is kept of a tree is its meaning, if there is room.
2. `Means.unique`: a tree has one meaning at most.
3. `conforms_object_iff`: an object conforms if the members do that its schema names.
4. `Raw.isRecord_of_fields?`, `Raw.exists_fields?`: which trees are read as records, and how.
5. `optionalField?_iff`: what is read of a part of a record that may be left out.
-/

namespace EvictionGate.Json

/-! ## Trees -/

namespace Raw

/-- Trees are made of trees, in arrays and under names. -/
@[induction_eliminator]
theorem induction {P : Raw → Prop} (null : P .null) (bool : ∀ b, P (.bool b))
    (number : ∀ n, P (.number n)) (string : ∀ pieces, P (.string pieces))
    (array : ∀ items, (∀ r ∈ items, P r) → P (.array items))
    (object : ∀ members, (∀ m ∈ members, P m.2) → P (.object members)) : ∀ r, P r
  | .null => null
  | .bool b => bool b
  | .number n => number n
  | .string pieces => string pieces
  | .array items => array items fun r _ => induction null bool number string array object r
  | .object members =>
    object members fun m _ => induction null bool number string array object m.2
termination_by r => sizeOf r
decreasing_by
  · next mem =>
    have := List.sizeOf_lt_of_mem mem
    simp only [Raw.array.sizeOf_spec]
    omega
  · next mem =>
    have := List.sizeOf_lt_of_mem mem
    cases m
    simp only [Raw.object.sizeOf_spec, Prod.mk.sizeOf_spec] at this ⊢
    omega

mutual

/-- How many containers of a tree lie one in another, at most. -/
def depth : Raw → Nat
  | .array items => itemsDepth items + 1
  | .object members => membersDepth members + 1
  | _ => 0

def itemsDepth : List Raw → Nat
  | [] => 0
  | r :: rs => max (depth r) (itemsDepth rs)

def membersDepth : List (List Piece × Raw) → Nat
  | [] => 0
  | (_, r) :: ms => max (depth r) (membersDepth ms)

end

theorem depth_array_le {items : List Raw} {room : Nat} :
    (array items).depth ≤ room + 1 ↔ ∀ r ∈ items, r.depth ≤ room := by
  rw [depth, Nat.add_le_add_iff_right]
  induction items with
  | nil => simp [itemsDepth]
  | cons r rs ih => rw [itemsDepth, Nat.max_le, ih, List.forall_mem_cons]

theorem depth_object_le {ms : List (List Piece × Raw)} {room : Nat} :
    (object ms).depth ≤ room + 1 ↔ ∀ m ∈ ms, m.2.depth ≤ room := by
  rw [depth, Nat.add_le_add_iff_right]
  induction ms with
  | nil => simp [membersDepth]
  | cons m ms ih => rw [membersDepth, Nat.max_le, ih, List.forall_mem_cons]

end Raw

/-! ## Members -/

section Members

variable {ms : List (List Piece × Raw)} {name : String}

/-- Every name is a text by `pieceText?`. -/
def Named (ms : List (List Piece × Raw)) : Prop := ∀ m ∈ ms, ∃ name, pieceText? m.1 = some name

/-- The values of all members with a name, in the order of the text. -/
def valuesOf (name : String) (ms : List (List Piece × Raw)) : List Raw :=
  ms.filterMap fun m => if pieceText? m.1 = some name then some m.2 else none

theorem valuesOf_cons (name : String) (pieces : List Piece) (r : Raw)
    (ms : List (List Piece × Raw)) : valuesOf name ((pieces, r) :: ms) =
      if pieceText? pieces = some name then r :: valuesOf name ms else valuesOf name ms := by
  unfold valuesOf
  rw [List.filterMap_cons]
  split
  · next heq => split at heq <;> simp_all
  · next heq => split at heq <;> simp_all

theorem exists_mem_of_mem_valuesOf {r : Raw} (mem : r ∈ valuesOf name ms) :
    ∃ m ∈ ms, pieceText? m.1 = some name ∧ m.2 = r := by
  obtain ⟨m, mem, same⟩ := List.mem_filterMap.mp mem
  obtain ⟨named, same⟩ := Option.ite_none_right_eq_some.mp same
  exact ⟨m, mem, named, Option.some.inj same⟩

end Members

/-! ## Values -/

/-- `Means r v`: the tree `r`, read without loss, is the value `v`. Of repeated names in an object
the last one counts. -/
inductive Means : Raw → Value → Prop
  | null : Means .null .null
  | bool {b : Bool} : Means (.bool b) (.bool b)
  | number {n : Numeral} {k : Number} : n.keep? = some k → Means (.number n) (.number k)
  | string {pieces : List Piece} {t : String} :
      pieceText? pieces = some t → Means (.string pieces) (.string t)
  | array {items : List Raw} {f : Raw → Value} :
      (∀ r ∈ items, Means r (f r)) → Means (.array items) (.array (items.map f))
  | object {ms : List (List Piece × Raw)} {f : Raw → Value} {d : Dict Value} :
      Named ms → (∀ m ∈ ms, Means m.2 (f m.2)) → d.Ascending →
      (∀ name, d.get? name = (valuesOf name ms).getLast?.map f) → Means (.object ms) (.object d)

namespace Raw

variable {room : Nat}

/-- Of a tree without containers a schema takes the meaning, if it admits that. -/
theorem take?_of_depth {r : Raw} (leaf : r.depth = 0) {s : Schema} {v : Value} :
    r.take? room s = some v ↔ Means r v ∧ v.conforms s = true := by
  cases r with
  | null =>
    rw [take?, Option.ite_none_right_eq_some]
    constructor
    · rintro ⟨admits, ⟨⟩⟩
      exact ⟨.null, admits⟩
    · rintro ⟨⟨⟩, admits⟩
      exact ⟨admits, rfl⟩
  | bool b =>
    rw [take?, Option.ite_none_right_eq_some]
    constructor
    · rintro ⟨admits, ⟨⟩⟩
      exact ⟨.bool, admits⟩
    · rintro ⟨⟨⟩, admits⟩
      exact ⟨admits, rfl⟩
  | number n =>
    rw [take?]
    constructor
    · intro takes
      split at takes
      · next k inRange =>
        obtain ⟨admits, same⟩ := Option.ite_none_right_eq_some.mp takes
        cases same
        exact ⟨.number inRange, admits⟩
      · cases takes
    · rintro ⟨means, admits⟩
      cases means with
      | number inRange =>
        rw [inRange]
        exact if_pos admits
  | string pieces =>
    rw [take?]
    constructor
    · intro takes
      split at takes
      · next t isText =>
        obtain ⟨admits, same⟩ := Option.ite_none_right_eq_some.mp takes
        cases same
        exact ⟨.string isText, admits⟩
      · cases takes
    · rintro ⟨means, admits⟩
      cases means with
      | string isText =>
        rw [isText]
        exact if_pos admits
  | array items => cases leaf
  | object ms => cases leaf

theorem takeItems?_eq_some_iff {s : Schema} {items : List Raw} {vs : List Value} :
    takeItems? room items s = some vs ↔
      ∃ f, (∀ r ∈ items, r.take? room s = some (f r)) ∧ vs = items.map f := by
  have only (f : Raw → Value) (items : List Raw) (each : ∀ r ∈ items, r.take? room s = some (f r)) :
      takeItems? room items s = some (items.map f) := by
    induction items with
    | nil => rfl
    | cons r rs ih =>
      rw [takeItems?, each r List.mem_cons_self]
      simp only [ih fun r mem => each r (List.mem_cons_of_mem _ mem), Option.map_some,
        List.map_cons]
  constructor
  · intro takes
    suffices each : ∀ r ∈ items, r.take? room s = some ((r.take? room s).getD .null) by
      refine ⟨fun r => (r.take? room s).getD .null, each, ?_⟩
      rw [only _ items each] at takes
      exact (Option.some.inj takes).symm
    induction items generalizing vs with
    | nil => exact fun _ mem => absurd mem List.not_mem_nil
    | cons r rs ih =>
      rw [takeItems?] at takes
      split at takes
      · cases takes
      · next v first =>
        obtain ⟨vs, others, -⟩ := Option.map_eq_some_iff.mp takes
        refine List.forall_mem_cons.mpr ⟨?_, ih others⟩
        rw [first, Option.getD_some]
  · rintro ⟨f, each, rfl⟩
    exact only f items each

/-- What is kept of members: all of them have to be kept, and the last one of a name counts. -/
theorem takeMembers?_anything {ms : List (List Piece × Raw)} {before d : Dict Value}
    (takes : takeMembers? room before ms .anything = some d) :
    Named ms ∧ (∀ m ∈ ms, m.2.keep? room = some ((m.2.keep? room).getD .null)) ∧
      (before.Ascending → d.Ascending) ∧ ∀ name, d.get? name =
        ((valuesOf name ms).getLast?.map fun r => (r.keep? room).getD .null).or
          (before.get? name) := by
  induction ms generalizing before with
  | nil =>
    cases takes
    exact ⟨fun _ mem => absurd mem List.not_mem_nil, fun _ mem => absurd mem List.not_mem_nil,
      id, fun _ => rfl⟩
  | cons m ms ih =>
    obtain ⟨pieces, r⟩ := m
    rw [takeMembers?] at takes
    split at takes
    · cases takes
    · next name isName =>
      dsimp only [Schema.member?, Schema.required] at takes
      split at takes
      · cases takes
      · next v kept =>
        have kept : r.keep? room = some v := kept
        obtain ⟨named, each, ascends, looks⟩ := ih takes
        refine ⟨List.forall_mem_cons.mpr ⟨⟨name, isName⟩, named⟩,
          List.forall_mem_cons.mpr ⟨by rw [kept, Option.getD_some], each⟩,
          fun ascending => ascends (ascending.insert name v), fun other => ?_⟩
        rw [looks, valuesOf_cons, isName]
        by_cases same : name = other
        · subst same
          rw [Dict.get?_insert_self, if_pos rfl, List.getLast?_cons]
          cases (valuesOf name ms).getLast? <;> simp [kept]
        · rw [Dict.get?_insert_of_ne _ _ (Ne.symm same), if_neg (by simpa using same)]

theorem exists_takeMembers?_anything {ms : List (List Piece × Raw)} (named : Named ms)
    (each : ∀ m ∈ ms, ∃ v, m.2.keep? room = some v) (before : Dict Value) :
    ∃ d, takeMembers? room before ms .anything = some d := by
  induction ms generalizing before with
  | nil => exact ⟨before, rfl⟩
  | cons m ms ih =>
    obtain ⟨pieces, r⟩ := m
    obtain ⟨⟨name, isName⟩, named⟩ := List.forall_mem_cons.mp named
    obtain ⟨⟨v, kept⟩, each⟩ := List.forall_mem_cons.mp each
    obtain ⟨d, takes⟩ := ih named each (before.insert name v)
    refine ⟨d, ?_⟩
    rw [keep?] at kept
    rw [takeMembers?, isName]
    simpa only [Schema.member?, Schema.required, kept] using takes

theorem keep?_array {items : List Raw} {v : Value} : (array items).keep? room = some v ↔
    ∃ left f, room = left + 1 ∧ (∀ r ∈ items, r.keep? left = some (f r)) ∧
      v = .array (items.map f) := by
  unfold keep?
  cases room with
  | zero => simp [take?]
  | succ left =>
    simp only [take?, Schema.item?, Schema.required, Option.map_eq_some_iff,
      takeItems?_eq_some_iff]
    constructor
    · rintro ⟨_, ⟨f, each, rfl⟩, rfl⟩
      exact ⟨left, f, rfl, each, rfl⟩
    · rintro ⟨_, f, ⟨⟩, each, rfl⟩
      exact ⟨_, ⟨f, each, rfl⟩, rfl⟩

theorem keep?_object {ms : List (List Piece × Raw)} {v : Value} :
    (object ms).keep? room = some v ↔ ∃ left d, room = left + 1 ∧
      takeMembers? left [] ms .anything = some d ∧ v = .object d := by
  unfold keep?
  cases room with
  | zero => simp [take?]
  | succ left =>
    rw [take?, if_pos (by rfl), Option.map_eq_some_iff]
    constructor
    · rintro ⟨d, takes, rfl⟩
      exact ⟨left, d, rfl, takes, rfl⟩
    · rintro ⟨_, d, ⟨⟩, takes, rfl⟩
      exact ⟨d, takes, rfl⟩

/-- What is kept of a tree is its meaning, if there is room for its containers. -/
theorem keep?_eq_some_iff {r : Raw} {v : Value} :
    r.keep? room = some v ↔ Means r v ∧ r.depth ≤ room := by
  induction r generalizing room v with
  | null | bool | number | string =>
    rw [keep?, take?_of_depth rfl]
    refine and_congr_right fun means => iff_of_true ?_ (Nat.zero_le _)
    cases means
    rfl
  | array items ih =>
    rw [keep?_array]
    constructor
    · rintro ⟨left, f, rfl, each, rfl⟩
      exact ⟨.array fun r mem => ((ih r mem).mp (each r mem)).1,
        depth_array_le.mpr fun r mem => ((ih r mem).mp (each r mem)).2⟩
    · rintro ⟨means, fits⟩
      cases means with
      | array means =>
        cases room with
        | zero => cases fits
        | succ left =>
          have fits := depth_array_le.mp fits
          exact ⟨left, _, rfl, fun r mem => (ih r mem).mpr ⟨means r mem, fits r mem⟩, rfl⟩
  | object ms ih =>
    rw [keep?_object]
    constructor
    · rintro ⟨left, d, rfl, takes, rfl⟩
      obtain ⟨named, each, ascends, looks⟩ := takeMembers?_anything takes
      refine ⟨.object (f := fun r => (r.keep? left).getD .null) named
        (fun m mem => ((ih m mem).mp (each m mem)).1) (ascends List.Pairwise.nil) fun name => ?_,
        depth_object_le.mpr fun m mem => ((ih m mem).mp (each m mem)).2⟩
      rw [looks, Dict.get?_nil, Option.or_none]
    · rintro ⟨means, fits⟩
      cases means with
      | @object _ f d named means ascending looks =>
        cases room with
        | zero => cases fits
        | succ left =>
          have fits := depth_object_le.mp fits
          have each (m) (mem : m ∈ ms) : m.2.keep? left = some (f m.2) :=
            (ih m mem).mpr ⟨means m mem, fits m mem⟩
          obtain ⟨e, takes⟩ :=
            exists_takeMembers?_anything named (fun m mem => ⟨_, each m mem⟩) []
          obtain ⟨-, -, ascends, looks'⟩ := takeMembers?_anything takes
          -- both are lists in ascending order with the last value under every name
          have same : d = e := by
            refine ascending.ext (ascends List.Pairwise.nil) fun name => ?_
            rw [looks, looks', Dict.get?_nil, Option.or_none]
            cases last : (valuesOf name ms).getLast? with
            | none => rfl
            | some r =>
              obtain ⟨m, mem, -, rfl⟩ :=
                exists_mem_of_mem_valuesOf (List.mem_of_getLast? last)
              rw [Option.map_some, Option.map_some, each m mem, Option.getD_some]
          exact ⟨left, e, rfl, takes, congrArg _ same⟩

end Raw

theorem Means.unique {r : Raw} {v w : Value} (first : Means r v) (second : Means r w) : v = w := by
  have kept := Raw.keep?_eq_some_iff.mpr ⟨first, Nat.le_refl _⟩
  exact Option.some.inj (kept.symm.trans (Raw.keep?_eq_some_iff.mpr ⟨second, Nat.le_refl _⟩))

theorem Means.ascending {r : Raw} {v : Value} (means : Means r v) : v.members.Ascending := by
  cases means with
  | object _ _ ascending => exact ascending
  | null | bool | number | string | array => exact List.Pairwise.nil

/-! ## What a schema takes -/

section Schemas

variable {r : Raw} {room : Nat}

/-- Of a tree without containers a schema takes the meaning, if it conforms. -/
theorem take?_of_schema {s : Schema} (noItems : s.item? = none)
    (noMembers : s.admitsObjects = false) {v : Value} :
    r.take? room s = some v ↔ Means r v ∧ v.conforms s = true := by
  cases r with
  | null | bool | number | string => exact Raw.take?_of_depth rfl
  | array items =>
    constructor
    · intro takes
      rw [Raw.take?.eq_def] at takes
      simp only [noItems, reduceCtorEq] at takes
    · rintro ⟨means, admits⟩
      cases means
      rw [Value.conforms, noItems] at admits
      cases admits
  | object ms =>
    constructor
    · intro takes
      cases room <;> simp [Raw.take?, noMembers] at takes
    · rintro ⟨means, admits⟩
      cases means
      rw [Value.conforms, noMembers] at admits
      cases admits

theorem takeMembers?_optional (before : Dict Value) (ms : List (List Piece × Raw)) (s : Schema) :
    Raw.takeMembers? room before ms (.optional s) = Raw.takeMembers? room before ms s := by
  induction ms generalizing before with
  | nil => rfl
  | cons m ms ih =>
    simp only [Raw.takeMembers?, ih]
    rfl

theorem take?_optional (other : r ≠ .null) (s : Schema) :
    r.take? room (.optional s) = r.take? room s := by
  cases r with
  | null => exact absurd rfl other
  | object ms =>
    rw [Raw.take?.eq_def, Raw.take?.eq_def]
    simp only [takeMembers?_optional]
    rfl
  | bool | number | string | array =>
    rw [Raw.take?.eq_def, Raw.take?.eq_def]
    rfl

theorem conforms_text {v : Value} : v.conforms .text = true ↔ ∃ t, v = .string t := by
  cases v <;> simp [Value.conforms, Schema.admitsNull, Schema.admitsBool, Schema.admitsNumber,
    Schema.admitsText, Schema.item?, Schema.admitsObjects, Schema.required]

theorem conforms_flag {v : Value} : v.conforms .flag = true ↔ ∃ b, v = .bool b := by
  cases v <;> simp [Value.conforms, Schema.admitsNull, Schema.admitsBool, Schema.admitsNumber,
    Schema.admitsText, Schema.item?, Schema.admitsObjects, Schema.required]

theorem membersConform_optional (ms : Dict Value) (s : Schema) :
    Value.membersConform ms (.optional s) = Value.membersConform ms s := by
  induction ms with
  | nil => rfl
  | cons m ms ih => rw [Value.membersConform, Value.membersConform, ih]; rfl

theorem conforms_optional {v : Value} {s : Schema} :
    v.conforms (.optional s) = true ↔ v = .null ∨ v.conforms s = true := by
  cases v with
  | null => exact iff_of_true rfl (.inl rfl)
  | object ms =>
    rw [Value.conforms, Value.conforms, membersConform_optional]
    simp [Schema.admitsObjects, Schema.required]
  | bool | number | string | array =>
    rw [Value.conforms, Value.conforms]
    simp [Schema.admitsBool, Schema.admitsNumber, Schema.admitsText, Schema.item?, Schema.required]

theorem conforms_exactly {v : Value} {t : String} :
    v.conforms (.exactly t) = true ↔ v = .string t := by
  cases v <;> simp [Value.conforms, Schema.admitsNull, Schema.admitsBool, Schema.admitsNumber,
    Schema.admitsText, Schema.item?, Schema.admitsObjects, Schema.required]

theorem itemsConform_iff {vs : List Value} {s : Schema} :
    Value.itemsConform vs s = true ↔ ∀ v ∈ vs, v.conforms s = true := by
  induction vs with
  | nil => simp [Value.itemsConform]
  | cons v vs ih => rw [Value.itemsConform, Bool.and_eq_true, ih, List.forall_mem_cons]

theorem membersConform_iff {d : Dict Value} (ascending : d.Ascending) (s : Schema) :
    Value.membersConform d s = true ↔ ∀ name w, d.get? name = some w →
      ∀ t, s.member? name = some t → w.conforms t = true := by
  induction d with
  | nil => simp [Value.membersConform]
  | cons m d ih =>
    obtain ⟨key, v⟩ := m
    obtain ⟨-, others⟩ := List.pairwise_cons.mp ascending
    rw [Value.membersConform, Bool.and_eq_true, ih others]
    constructor
    · rintro ⟨first, rest⟩ name w found t declared
      rw [Dict.get?] at found
      split at found
      · next same =>
        subst same
        cases found
        rw [declared] at first
        exact first
      · exact rest name w found t declared
    · intro all
      constructor
      · split
        · next t declared => exact all key v (by simp [Dict.get?]) t declared
        · rfl
      · intro name w found t declared
        refine all name w ?_ t declared
        rw [Dict.get?, if_neg, found]
        rintro rfl
        rw [ascending.get?_of_cons] at found
        cases found

/-- An object conforms if its members do of which the schema names one. -/
theorem conforms_object_iff {d : Dict Value} (ascending : (Value.object d).members.Ascending)
    {s : Schema} : (Value.object d).conforms s = true ↔ s.admitsObjects = true ∧
      ∀ name w, (Value.object d).get? name = some w →
        ∀ t, s.member? name = some t → w.conforms t = true := by
  rw [Value.conforms, Bool.and_eq_true]
  exact and_congr_right fun _ => membersConform_iff ascending s

end Schemas

/-! ## Records -/

namespace Raw

variable {names : List String} {least : Nat}

/-- `IsRecord names least r`: `fields?` accepts the tree. It is an object that has no name of
`names` twice, or an array of at least `least` items and at most as many as there are names. -/
inductive IsRecord (names : List String) (least : Nat) : Raw → Prop
  | object {ms : List (List Piece × Raw)} : Named ms →
      (∀ name ∈ names, (valuesOf name ms).length ≤ 1) → IsRecord names least (.object ms)
  | array {items : List Raw} :
      least ≤ items.length → items.length ≤ names.length → IsRecord names least (.array items)

/-- What `fields?` finds under a name. -/
def given (names : List String) : Raw → String → Option Raw
  | .object ms, name => (valuesOf name ms).head?
  | .array items, name => items[names.idxOf name]?
  | _, _ => none

theorem get?_zip {name : String} (declared : name ∈ names) (items : List Raw) :
    Dict.get? (names.zip items) name = items[names.idxOf name]? := by
  induction names generalizing items with
  | nil => cases declared
  | cons first names ih =>
    cases items with
    | nil => rfl
    | cons r items =>
      rw [List.zip_cons_cons, Dict.get?, List.idxOf_cons]
      by_cases same : first = name
      · simp [same]
      · have later := (List.mem_cons.mp declared).resolve_left (Ne.symm same)
        rw [if_neg same, ih later, beq_false_of_ne same, cond_false, List.getElem?_cons_succ]

/-- The values under a name in the fields `before` and in the members `ms`. -/
def standing (before : Dict Raw) (ms : List (List Piece × Raw)) (name : String) : List Raw :=
  (before.get? name).toList ++ valuesOf name ms

theorem standing_insert {before : Dict Raw} {name other : String} {pieces : List Piece}
    {r : Raw} {ms : List (List Piece × Raw)} (isName : pieceText? pieces = some name)
    (fresh : before.contains name = false) :
    standing (before.insert name r) ms other = standing before ((pieces, r) :: ms) other := by
  rw [Dict.contains, Option.isSome_eq_false_iff, Option.isNone_iff_eq_none] at fresh
  rw [standing, standing, valuesOf_cons, isName]
  by_cases same : name = other
  · subst same
    simp [fresh]
  · rw [Dict.get?_insert_of_ne _ _ (Ne.symm same), if_neg (by simpa using same)]

theorem standing_skip {before : Dict Raw} {name other : String} {pieces : List Piece}
    {r : Raw} {ms : List (List Piece × Raw)} (isName : pieceText? pieces = some name)
    (differs : name ≠ other) :
    standing before ((pieces, r) :: ms) other = standing before ms other := by
  rw [standing, standing, valuesOf_cons, isName, if_neg (by simpa using differs)]

theorem standing_of_namedFields? {before fields : Dict Raw} {ms : List (List Piece × Raw)}
    (reads : namedFields? names before ms = some fields) :
    Named ms ∧ ∀ name ∈ names, (standing before ms name).length ≤ 1 ∧
      fields.get? name = (standing before ms name).head? := by
  induction ms generalizing before with
  | nil =>
    cases reads
    refine ⟨fun _ mem => absurd mem List.not_mem_nil, fun name _ => ?_⟩
    rw [standing]
    cases fields.get? name <;> simp [valuesOf]
  | cons m ms ih =>
    obtain ⟨pieces, r⟩ := m
    rw [namedFields?] at reads
    split at reads
    · cases reads
    · next name isName =>
      split at reads
      · split at reads
        · cases reads
        · next fresh =>
          obtain ⟨named, stands⟩ := ih reads
          refine ⟨List.forall_mem_cons.mpr ⟨⟨name, isName⟩, named⟩, fun other declared => ?_⟩
          rw [← standing_insert isName (by simpa using fresh)]
          exact stands other declared
      · next foreign =>
        obtain ⟨named, stands⟩ := ih reads
        refine ⟨List.forall_mem_cons.mpr ⟨⟨name, isName⟩, named⟩, fun other declared => ?_⟩
        rw [standing_skip isName]
        · exact stands other declared
        · rintro rfl
          exact foreign (by simpa using declared)

theorem exists_namedFields? {before : Dict Raw} {ms : List (List Piece × Raw)} (named : Named ms)
    (once : ∀ name ∈ names, (standing before ms name).length ≤ 1) :
    ∃ fields, namedFields? names before ms = some fields := by
  induction ms generalizing before with
  | nil => exact ⟨before, rfl⟩
  | cons m ms ih =>
    obtain ⟨pieces, r⟩ := m
    obtain ⟨⟨name, isName⟩, named⟩ := List.forall_mem_cons.mp named
    rw [namedFields?, isName]
    dsimp only
    split
    · next declared =>
      have fresh : before.contains name = false := by
        have once := once name (by simpa using declared)
        rw [standing, valuesOf_cons, if_pos isName] at once
        rw [Dict.contains]
        cases found : before.get? name with
        | none => rfl
        | some r' => simp [found] at once
      rw [fresh, if_neg Bool.false_ne_true]
      refine ih named fun other declared => ?_
      rw [standing_insert isName fresh]
      exact once other declared
    · next foreign =>
      refine ih named fun other declared => ?_
      rw [← standing_skip (r := r) isName]
      · exact once other declared
      · rintro rfl
        exact foreign (by simpa using declared)

theorem isRecord_of_fields? {r : Raw} {fields : Dict Raw}
    (reads : fields? names least r = some fields) :
    r.IsRecord names least ∧ ∀ name ∈ names, fields.get? name = r.given names name := by
  unfold fields? at reads
  split at reads
  · obtain ⟨named, stands⟩ := standing_of_namedFields? reads
    exact ⟨.object named fun name declared => (stands name declared).1,
      fun name declared => (stands name declared).2⟩
  · obtain ⟨within, same⟩ := Option.ite_none_right_eq_some.mp reads
    cases same
    rw [Bool.and_eq_true, decide_eq_true_eq, decide_eq_true_eq] at within
    exact ⟨.array within.1 within.2, fun name declared => get?_zip declared _⟩
  · cases reads

theorem exists_fields? {r : Raw} (record : r.IsRecord names least) :
    ∃ fields, fields? names least r = some fields := by
  cases record with
  | object named once => exact exists_namedFields? named once
  | array reaches within => exact ⟨_, by rw [fields?, if_pos (by simp [reaches, within])]⟩

end Raw

/-! ## Parts of a record -/

/-- `Optional Reads part a`: a part that is absent or null gives none, and any other is read by
`Reads`. -/
inductive Optional {α : Type} (Reads : Raw → α → Prop) : Option Raw → Option α → Prop
  | absent : Optional Reads none none
  | null : Optional Reads (some .null) none
  | given {r : Raw} {a : α} : r ≠ .null → Reads r a → Optional Reads (some r) (some a)

theorem Optional.exists_of_some {α : Type} {Reads : Raw → α → Prop} {o : Option Raw} {a : α}
    (optional : Optional Reads o (some a)) : ∃ r, o = some r ∧ r ≠ .null ∧ Reads r a := by
  cases optional with
  | given other reads => exact ⟨_, rfl, other, reads⟩

def MeansText (r : Raw) (t : String) : Prop := Means r (.string t)

def MeansFlag (r : Raw) (b : Bool) : Prop := Means r (.bool b)

/-- `KeptWhole room r v`: `r` means `v`, and has no more than `room` containers one in another. -/
def KeptWhole (room : Nat) (r : Raw) (v : Value) : Prop := Means r v ∧ r.depth ≤ room

variable {r : Raw} {room : Nat} {fields : Dict Raw} {name : String}

/-- What is read of a part that may be left out. -/
theorem optionalField?_iff {α : Type} {s : Schema} {get : Value → Option α}
    {Reads : Raw → α → Prop} (null : get .null = none)
    (reads : ∀ r, r ≠ .null → ∀ o, (∃ v, r.take? room s = some v ∧ get v = o) ↔
      ∃ a, o = some a ∧ Reads r a) {o : Option α} :
    (∃ v, optionalField? fields name s room = some v ∧ get v = o) ↔
      Optional Reads (fields.get? name) o := by
  unfold optionalField?
  split
  · next absent =>
    rw [absent]
    constructor
    · rintro ⟨_, ⟨⟩, rfl⟩
      rw [null]
      exact .absent
    · rintro ⟨⟩
      exact ⟨_, rfl, null⟩
  · next r present =>
    rw [present]
    by_cases isNull : r = .null
    · subst isNull
      constructor
      · rintro ⟨_, ⟨⟩, rfl⟩
        rw [null]
        exact .null
      · rintro (_ | _ | ⟨other, _⟩)
        · exact ⟨_, rfl, null⟩
        · exact absurd rfl other
    · rw [take?_optional isNull, reads r isNull]
      constructor
      · rintro ⟨a, rfl, reads⟩
        exact .given isNull reads
      · rintro (_ | _ | ⟨_, reads⟩)
        · exact absurd rfl isNull
        · exact ⟨_, rfl, reads⟩

theorem take?_text {o : Option String} :
    (∃ v, r.take? room .text = some v ∧ v.text? = o) ↔ ∃ t, o = some t ∧ MeansText r t := by
  simp only [take?_of_schema (s := .text) rfl rfl, conforms_text]
  constructor
  · rintro ⟨_, ⟨means, t, rfl⟩, rfl⟩
    exact ⟨t, rfl, means⟩
  · rintro ⟨t, rfl, means⟩
    exact ⟨_, ⟨means, t, rfl⟩, rfl⟩

theorem take?_flag {o : Option Bool} :
    (∃ v, r.take? room .flag = some v ∧ v.bool? = o) ↔ ∃ b, o = some b ∧ MeansFlag r b := by
  simp only [take?_of_schema (s := .flag) rfl rfl, conforms_flag]
  constructor
  · rintro ⟨_, ⟨means, b, rfl⟩, rfl⟩
    exact ⟨b, rfl, means⟩
  · rintro ⟨b, rfl, means⟩
    exact ⟨_, ⟨means, b, rfl⟩, rfl⟩

theorem optionalField?_text {o : Option String} :
    (∃ v, optionalField? fields name .text room = some v ∧ v.text? = o) ↔
      Optional MeansText (fields.get? name) o :=
  optionalField?_iff rfl fun _ _ _ => take?_text

theorem optionalField?_flag {o : Option Bool} :
    (∃ v, optionalField? fields name .flag room = some v ∧ v.bool? = o) ↔
      Optional MeansFlag (fields.get? name) o :=
  optionalField?_iff rfl fun _ _ _ => take?_flag

theorem field?_text {t : String} :
    (∃ v, field? fields name .text room = some v ∧ v.text? = some t) ↔
      ∃ r, fields.get? name = some r ∧ MeansText r t := by
  unfold field?
  cases fields.get? name with
  | none => simp
  | some r => simpa using take?_text (o := some t)

end EvictionGate.Json
