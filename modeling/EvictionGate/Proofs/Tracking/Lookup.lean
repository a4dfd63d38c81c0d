import EvictionGate.Proofs.Http.ContentType
import EvictionGate.Tracking.Registry
import Mathlib.Data.List.Forall2

/-!
# Finding a tracker by name

A name is looked up as it has been typed, in any letter case and with blanks around it. It finds a
kind exactly if it spells the name of that kind, and no name spells those of two; so the order in
which kinds are registered does not count. Only ASCII letters have a case: a letter that looks like
one of them, or folds to one, does not stand for it.

Results:
1. `Text.sameLetters_trim_iff`: which texts spell a name.
2. `TrackerKind.eq_of_spells`: that a text spells one name at most.
3. `Registry.get?_eq_some_iff`: what a text finds.
4. `Registry.lookup_is_exact`: what is chosen by a text.
-/

namespace EvictionGate

namespace Text

/-! ## Spelling -/

/-- The same character, or the two cases of one ASCII letter. -/
def SameLetter (c d : Char) : Prop :=
  c = d ∨ (c.isUpper = true ∧ d.toNat = c.toNat + 32) ∨
    (d.isUpper = true ∧ c.toNat = d.toNat + 32)

/-- `Spells s name`: without the blanks around it, `s` is `name` by `SameLetter`. -/
def Spells (s name : String) : Prop :=
  ∃ lead letters trail, s.toList = lead ++ letters ++ trail ∧
    (∀ c ∈ lead ++ trail, isBlank c = true) ∧ List.Forall₂ SameLetter name.toList letters

theorem toLower_eq_iff {c d : Char} : c.toLower = d.toLower ↔ SameLetter c d := by
  rw [← Char.toNat_inj, toNat_toLower, toNat_toLower, SameLetter, ← Char.toNat_inj]
  simp only [isUpper_iff]
  split <;> split <;> omega

theorem map_toLower_eq_iff {cs ds : List Char} :
    cs.map Char.toLower = ds.map Char.toLower ↔ List.Forall₂ SameLetter cs ds := by
  rw [← List.forall₂_eq_eq_eq, List.forall₂_map_left_iff, List.forall₂_map_right_iff]
  simp only [toLower_eq_iff]

theorem sameLetters_iff {s t : String} :
    sameLetters s t = true ↔ s.toList.map Char.toLower = t.toList.map Char.toLower := by
  rw [sameLetters, beq_iff_eq]

/-- The texts that are a name once they have been trimmed are those that spell it. -/
theorem sameLetters_trim_iff {s name : String} (bare : trimChars name.toList = name.toList) :
    sameLetters name (trim s) = true ↔ Spells s name := by
  rw [sameLetters_iff, trim, String.toList_ofList]
  constructor
  · intro same
    obtain ⟨lead, trail, parts, before, behind⟩ := exists_trimChars s.toList
    refine ⟨lead, _, trail, parts, fun c mem => ?_, map_toLower_eq_iff.mp same⟩
    exact (List.mem_append.mp mem).elim (before c) (behind c)
  · rintro ⟨lead, letters, trail, parts, blanks, same⟩
    rw [parts, trimChars_append (fun c mem => blanks c (List.mem_append_left _ mem))
      (fun c mem => blanks c (List.mem_append_right _ mem)), map_toLower_trimChars,
      ← map_toLower_eq_iff.mpr same, ← map_toLower_trimChars, bare]

/-- A text without blanks around it spells itself. -/
theorem spells_self {s : String} (bare : trimChars s.toList = s.toList) : Spells s s := by
  rw [← sameLetters_trim_iff bare, sameLetters_iff, trim, String.toList_ofList, bare]

theorem SameLetter.toNat_lt {c d : Char} (same : SameLetter c d) (ascii : c.toNat < 128) :
    d.toNat < 128 := by
  rcases same with rfl | ⟨upper, lower⟩ | ⟨upper, -⟩
  · exact ascii
  · have := (isUpper_iff.mp upper).2
    omega
  · have := (isUpper_iff.mp upper).2
    omega

theorem forall_toNat_lt {cs ds : List Char} (same : List.Forall₂ SameLetter cs ds)
    (ascii : ∀ c ∈ cs, c.toNat < 128) : ∀ d ∈ ds, d.toNat < 128 := by
  induction same with
  | nil => exact List.forall_mem_nil _
  | cons first _ ih =>
    obtain ⟨here, others⟩ := List.forall_mem_cons.mp ascii
    exact List.forall_mem_cons.mpr ⟨first.toNat_lt here, ih others⟩

/-- No character beyond ASCII stands for a letter of a name in ASCII. -/
theorem Spells.ascii {s name : String} (spells : Spells s name)
    (ascii : ∀ c ∈ name.toList, c.toNat < 128) :
    ∀ c ∈ s.toList, isBlank c = true ∨ c.toNat < 128 := by
  obtain ⟨lead, letters, trail, parts, blanks, same⟩ := spells
  intro c mem
  rw [parts] at mem
  rcases List.mem_append.mp mem with mem | mem
  · rcases List.mem_append.mp mem with mem | mem
    · exact .inl (blanks c (List.mem_append_left _ mem))
    · exact .inr (forall_toNat_lt same ascii c mem)
  · exact .inl (blanks c (List.mem_append_right _ mem))

end Text

open Text

/-! ## Kinds -/

namespace TrackerKind

theorem trimChars_name (k : TrackerKind) : trimChars k.name.toList = k.name.toList := by
  cases k <;> decide

theorem ascii_name (k : TrackerKind) : ∀ c ∈ k.name.toList, c.toNat < 128 := by
  have all : (k.name.toList.all fun c => c.toNat < 128) = true := by
    cases k <;> decide
  exact fun c mem => of_decide_eq_true (List.all_eq_true.mp all c mem)

/-- No two kinds have names that differ in case only. -/
theorem eq_of_map_toLower {k k' : TrackerKind}
    (same : k.name.toList.map Char.toLower = k'.name.toList.map Char.toLower) : k = k' := by
  revert same
  cases k <;> cases k' <;> decide

theorem eq_of_spells {s : String} {k k' : TrackerKind} (first : Spells s k.name)
    (second : Spells s k'.name) : k = k' := by
  rw [← sameLetters_trim_iff k.trimChars_name, sameLetters_iff] at first
  rw [← sameLetters_trim_iff k'.trimChars_name, sameLetters_iff] at second
  exact eq_of_map_toLower (first.trans second.symm)

end TrackerKind

/-! ## Registries -/

namespace Registry

variable {r : Registry} {s : String} {k : TrackerKind}

/-- A text finds the one kind that is registered and whose name it spells. -/
theorem get?_eq_some_iff : r.get? s = some k ↔ k ∈ r.kinds ∧ Spells s k.name := by
  constructor
  · intro found
    have same := List.find?_some found
    exact ⟨List.mem_of_find?_eq_some found, (sameLetters_trim_iff k.trimChars_name).mp same⟩
  · rintro ⟨registered, spells⟩
    have some : (r.get? s).isSome = true := List.find?_isSome.mpr
      ⟨k, registered, (sameLetters_trim_iff k.trimChars_name).mpr spells⟩
    obtain ⟨k', found⟩ := Option.isSome_iff_exists.mp some
    have same := List.find?_some found
    have spells' := (sameLetters_trim_iff k'.trimChars_name).mp same
    rw [found, TrackerKind.eq_of_spells spells spells']

theorem get?_eq_none_iff : r.get? s = none ↔ ∀ k ∈ r.kinds, ¬ Spells s k.name := by
  rw [Option.eq_none_iff_forall_ne_some]
  exact forall_congr' fun k => (not_congr get?_eq_some_iff).trans not_and

/-- What a text finds depends on which kinds are registered, and not on their order. -/
theorem get?_congr {r' : Registry} (same : ∀ k, k ∈ r'.kinds ↔ k ∈ r.kinds) :
    r'.get? s = r.get? s := by
  refine Option.ext fun k => ?_
  rw [get?_eq_some_iff, get?_eq_some_iff, same]

/-- What `Registry.get?`, `Registry.choose` and `Registry.warnings` make of the text `s`. -/
structure FindsExactly (r : Registry) (s : String) : Prop where
  finds : ∀ k, r.get? s = some k ↔ k ∈ r.kinds ∧ Spells s k.name
  unique : ∀ k k' : TrackerKind, Spells s k.name → Spells s k'.name → k = k'
  /-- What is spelled and registered is chosen, without a warning. -/
  chosen : ∀ k ∈ r.kinds, Spells s k.name → r.choose s = k ∧ r.warnings s = []
  /-- Only a text that spells nothing registered gives the kind to fall back on, with a warning. -/
  unknown : (∀ k ∈ r.kinds, ¬ Spells s k.name) →
    r.choose s = r.fallback ∧ r.warnings s = [r.unknown s]
  /-- Letters beyond ASCII spell nothing. -/
  ascii : ∀ k : TrackerKind, Spells s k.name → ∀ c ∈ s.toList, isBlank c = true ∨ c.toNat < 128
  /-- The order of the kinds does not count. -/
  unordered : ∀ r' : Registry, (∀ k, k ∈ r'.kinds ↔ k ∈ r.kinds) → r'.get? s = r.get? s

/-- A text finds a kind exactly if it spells the name of that kind and the kind is registered. All
kinds that are registered are found by their own names. -/
theorem lookup_is_exact (r : Registry) :
    (∀ s, r.FindsExactly s) ∧ ∀ k ∈ r.kinds, r.choose k.name = k := by
  have chosen {s : String} {k : TrackerKind} (registered : k ∈ r.kinds)
      (spells : Spells s k.name) : r.choose s = k ∧ r.warnings s = [] := by
    have found := get?_eq_some_iff.mpr ⟨registered, spells⟩
    rw [choose, warnings, found]
    exact ⟨rfl, rfl⟩
  refine ⟨fun s => ?_, fun k registered => (chosen registered (spells_self k.trimChars_name)).1⟩
  constructor
  case finds => exact fun k => get?_eq_some_iff
  case unique => exact fun k k' => TrackerKind.eq_of_spells
  case chosen => exact fun k => chosen
  case unknown =>
    intro none
    rw [choose, warnings, get?_eq_none_iff.mpr none]
    exact ⟨rfl, rfl⟩
  case ascii => exact fun k spells => spells.ascii k.ascii_name
  case unordered => exact fun r' => get?_congr

end Registry

open Registry in
/-- A name in any case is found between blanks of any kind. With a long s in it, which folds to the
letter, it is not. -/
theorem lookup_of_namespace :
    (Spells "\u2003NameSpace\u0085" TrackerKind.homeNamespace.name ∧
      standard.choose "\u2003NameSpace\u0085" = .homeNamespace) ∧
    (∀ k ∈ standard.kinds, ¬ Spells "name\u017fpace" k.name) ∧
      standard.choose "name\u017fpace" = .couchbaseCluster ∧
      standard.warnings "name\u017fpace" = [standard.unknown "name\u017fpace"] := by
  obtain ⟨exactly, -⟩ := lookup_is_exact standard
  have spells : Spells "\u2003NameSpace\u0085" TrackerKind.homeNamespace.name :=
    (sameLetters_trim_iff (TrackerKind.trimChars_name _)).mp (by decide)
  have none : ∀ k ∈ standard.kinds, ¬ Spells "name\u017fpace" k.name := by
    intro k _ spells
    exact absurd ((exactly _).ascii k spells (Char.ofNat 0x17F) (by decide)) (by decide)
  exact ⟨⟨spells, ((exactly _).chosen _ (by decide) spells).1⟩, none, (exactly _).unknown none⟩

end EvictionGate
