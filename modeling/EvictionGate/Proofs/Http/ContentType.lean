import EvictionGate.Http.Message
import Mathlib.Data.List.DropRight
import Mathlib.Data.String.Basic

/-!
# Which content types are JSON

The first content type of a request counts. It is JSON if it is visible ASCII and what comes before
its parameters is `application/json`, in any letter case and with blanks around it.

Results:
1. `Text.trimChars_append`, `Text.exists_trimChars`: what is trimmed off a text.
2. `Http.visibleText?_eq_some_iff`: which values of headers can be read.
3. `Http.Request.isJson_iff`: which requests say that their body is JSON.
-/

namespace EvictionGate

namespace Text

theorem isUpper_iff {c : Char} : c.isUpper = true ↔ 65 ≤ c.toNat ∧ c.toNat ≤ 90 := by
  have upper : c.isUpper = decide (65 ≤ c.toNat ∧ c.toNat ≤ 90) := rfl
  rw [upper, decide_eq_true_eq]

/-- Only the ASCII letters have a case. -/
theorem toNat_toLower (c : Char) :
    c.toLower.toNat = if c.isUpper = true then c.toNat + 32 else c.toNat := by
  split
  · next upper =>
    have code : c.toLower.val = c.val + 32 := congrArg Char.val (dif_pos (of_decide_eq_true upper))
    have bound : c.toNat ≤ 90 := (isUpper_iff.mp upper).2
    rw [← Char.toNat_val, code, UInt32.toNat_add]
    exact Nat.mod_eq_of_lt (by simp; omega)
  · next other =>
    exact congrArg Char.toNat (dif_neg (of_decide_eq_false (Bool.eq_false_iff.mpr other)))

/-- Letter case does not make a blank. -/
theorem isBlank_toLower (c : Char) : isBlank c.toLower = isBlank c := by
  simp only [isBlank, toNat_toLower]
  split
  · next upper =>
    have bounds := isUpper_iff.mp upper
    grind
  · rfl

/-- Blanks around a text are trimmed off. -/
theorem trimChars_append {lead trail : List Char} (before : ∀ c ∈ lead, isBlank c = true)
    (behind : ∀ c ∈ trail, isBlank c = true) (cs : List Char) :
    trimChars (lead ++ cs ++ trail) = trimChars cs := by
  have last : ∀ c ∈ trail.reverse, isBlank c = true := fun c mem =>
    behind c (List.mem_reverse.mp mem)
  have nothing : trail.dropWhile isBlank = [] := List.dropWhile_eq_nil_iff.mpr behind
  rw [trimChars, List.append_assoc, List.dropWhile_append_of_pos before, List.dropWhile_append]
  split
  · next blank =>
    rw [nothing, trimChars, List.isEmpty_iff.mp blank]
  · rw [List.reverse_append, List.dropWhile_append_of_pos last, trimChars]

/-- Only blanks are trimmed off. -/
theorem exists_trimChars (cs : List Char) : ∃ lead trail, cs = lead ++ trimChars cs ++ trail ∧
    (∀ c ∈ lead, isBlank c = true) ∧ ∀ c ∈ trail, isBlank c = true := by
  refine ⟨cs.takeWhile isBlank, (cs.dropWhile isBlank).rtakeWhile isBlank, ?_,
    fun c => List.mem_takeWhile_imp, fun c => List.mem_rtakeWhile_imp⟩
  have right : trimChars cs ++ (cs.dropWhile isBlank).rtakeWhile isBlank = cs.dropWhile isBlank :=
    List.rdropWhile_append_rtakeWhile
  rw [List.append_assoc, right, List.takeWhile_append_dropWhile]

theorem map_toLower_trimChars (cs : List Char) :
    (trimChars cs).map Char.toLower = trimChars (cs.map Char.toLower) := by
  have same : isBlank ∘ Char.toLower = isBlank := funext isBlank_toLower
  simp only [trimChars, List.dropWhile_map, ← List.map_reverse, same]

end Text

namespace Http

/-! ## Values of headers -/

/-- A tab, or a character from the blank to the tilde. -/
def IsVisibleChar (c : Char) : Prop := c = '\t' ∨ (' ' ≤ c ∧ c ≤ '~')

instance (c : Char) : Decidable (IsVisibleChar c) :=
  inferInstanceAs (Decidable (c = '\t' ∨ (' ' ≤ c ∧ c ≤ '~')))

/-- The bytes `value` are the characters `cs`, all of which are `IsVisibleChar`. -/
def IsVisibleText (value : List UInt8) (cs : List Char) : Prop :=
  value = cs.map (fun c => UInt8.ofNat c.toNat) ∧ ∀ c ∈ cs, IsVisibleChar c

/-- What holds of every byte by its number. -/
theorem forall_byte {P : Nat → UInt8 → Prop} (each : ∀ n < 256, P n (UInt8.ofNat n)) (b : UInt8) :
    P b.toNat b := by
  have here := each b.toNat b.toNat_lt
  rwa [UInt8.ofNat_toNat] at here

theorem isVisible_iff (b : UInt8) :
    isVisible b = true ↔ IsVisibleChar (Char.ofNat b.toNat) :=
  forall_byte (P := fun n b => isVisible b = true ↔ IsVisibleChar (Char.ofNat n))
    (by decide +kernel) b

theorem ofNat_toNat_ofNat (b : UInt8) : UInt8.ofNat (Char.ofNat b.toNat).toNat = b :=
  forall_byte (P := fun n b => UInt8.ofNat (Char.ofNat n).toNat = b) (by decide +kernel) b

theorem IsVisibleChar.toNat_lt {c : Char} (visible : IsVisibleChar c) : c.toNat < 128 := by
  rcases visible with rfl | ⟨-, most⟩
  · decide
  · exact Nat.lt_of_le_of_lt most (by decide)

theorem visibleText?_eq_some_iff {value : List UInt8} {cs : List Char} :
    visibleText? value = some cs ↔ IsVisibleText value cs := by
  have there {c : Char} (visible : IsVisibleChar c) :
      Char.ofNat (UInt8.ofNat c.toNat).toNat = c := by
    have small : c.toNat < 2 ^ 8 := Nat.lt_trans visible.toNat_lt (by decide)
    rw [UInt8.toNat_ofNat', Nat.mod_eq_of_lt small, Char.ofNat_toNat]
  rw [visibleText?, Option.ite_none_right_eq_some, Option.some.injEq, List.all_eq_true]
  constructor
  · rintro ⟨visible, rfl⟩
    refine ⟨?_, fun c mem => ?_⟩
    · rw [List.map_map]
      exact (List.map_id'' ofNat_toNat_ofNat value).symm
    · obtain ⟨b, given, rfl⟩ := List.mem_map.mp mem
      exact (isVisible_iff b).mp (visible b given)
  · rintro ⟨rfl, visible⟩
    refine ⟨fun b mem => ?_, ?_⟩
    · obtain ⟨c, given, rfl⟩ := List.mem_map.mp mem
      rw [isVisible_iff, there (visible c given)]
      exact visible c given
    · rw [List.map_map]
      exact (List.map_congr_left fun c mem => there (visible c mem)).trans (List.map_id cs)

/-- A visible character that is a blank is a space or a tab. -/
theorem IsVisibleChar.isBlank_iff {c : Char} (visible : IsVisibleChar c) :
    Text.isBlank c = true ↔ c = ' ' ∨ c = '\t' := by
  have each : ∀ n < 128, IsVisibleChar (Char.ofNat n) → (Text.isBlank (Char.ofNat n) = true ↔
      Char.ofNat n = ' ' ∨ Char.ofNat n = '\t') := by
    decide +kernel
  have here := each c.toNat visible.toNat_lt
  rw [Char.ofNat_toNat] at here
  exact here visible

/-! ## Content types -/

/-- `IsMediaType name cs`: before the first semicolon, if there is one, `cs` is `name` in letters
of either case, with blanks and tabs around it. -/
def IsMediaType (name cs : List Char) : Prop :=
  ∃ lead essence trail params, cs = lead ++ essence ++ trail ++ params ∧
    (∀ c ∈ lead ++ trail, c = ' ' ∨ c = '\t') ∧ essence.map Char.toLower = name ∧
    (params = [] ∨ params.head? = some ';')

/-- The part before the parameters. -/
theorem isMediaType_iff {name cs : List Char} (visible : ∀ c ∈ cs, IsVisibleChar c)
    (bare : Text.trimChars name = name) (noParams : ';' ∉ name) :
    IsMediaType name cs ↔
      (Text.trimChars (cs.takeWhile (· ≠ ';'))).map Char.toLower = name := by
  constructor
  · rintro ⟨lead, essence, trail, params, rfl, blanks, rfl, ends⟩
    have blank (c : Char) (mem : c ∈ lead ++ trail) : Text.isBlank c = true := by
      rcases blanks c mem with rfl | rfl <;> decide
    have stays : ∀ c ∈ lead ++ essence ++ trail, decide (c ≠ ';') = true := by
      intro c mem
      refine decide_eq_true ?_
      rintro rfl
      rcases List.mem_append.mp mem with mem | mem
      · rcases List.mem_append.mp mem with mem | mem
        · exact absurd (blank _ (List.mem_append_left _ mem)) (by decide)
        · exact noParams (List.mem_map.mpr ⟨_, mem, by decide⟩)
      · exact absurd (blank _ (List.mem_append_right _ mem)) (by decide)
    have nothing : params.takeWhile (fun c => decide (c ≠ ';')) = [] := by
      rcases ends with rfl | first
      · rfl
      · obtain ⟨rest, rfl⟩ := List.head?_eq_some_iff.mp first
        rfl
    rw [List.takeWhile_append_of_pos stays, nothing, List.append_nil,
      Text.trimChars_append (fun c mem => blank c (List.mem_append_left _ mem))
        (fun c mem => blank c (List.mem_append_right _ mem)), Text.map_toLower_trimChars, bare]
  · intro is
    obtain ⟨lead, trail, parts, before, behind⟩ := Text.exists_trimChars (cs.takeWhile (· ≠ ';'))
    have whole := List.takeWhile_append_dropWhile (p := fun c => decide (c ≠ ';')) (l := cs)
    refine ⟨lead, _, trail, cs.dropWhile (· ≠ ';'), by rw [← parts, whole], fun c mem => ?_, is,
      ?_⟩
    · have blank := (List.mem_append.mp mem).elim (before c) (behind c)
      have given : c ∈ cs := by
        refine (List.takeWhile_prefix fun c => decide (c ≠ ';')).subset ?_
        rw [parts]
        rcases List.mem_append.mp mem with mem | mem
        · exact List.mem_append_left _ (List.mem_append_left _ mem)
        · exact List.mem_append_right _ mem
      exact (visible c given).isBlank_iff.mp blank
    · cases ends : cs.dropWhile (· ≠ ';') with
      | nil => exact .inl rfl
      | cons c rest =>
        have none := List.head?_dropWhile_not (fun c => decide (c ≠ ';')) cs
        rw [ends] at none
        exact .inr (by simpa using none)

namespace Request

/-- The first header `content-type` of a request is `IsVisibleText` and `IsMediaType` of
`application/json`. -/
def SaysJson (r : Request) : Prop :=
  ∃ before h behind cs, r.headers = before ++ h :: behind ∧
    (∀ g ∈ before, g.name ≠ "content-type") ∧ h.name = "content-type" ∧
    IsVisibleText h.value cs ∧ IsMediaType "application/json".toList cs

theorem header?_eq_some_iff {r : Request} {name : String} {value : List UInt8} :
    r.header? name = some value ↔ ∃ before h behind, r.headers = before ++ h :: behind ∧
      (∀ g ∈ before, g.name ≠ name) ∧ h.name = name ∧ h.value = value := by
  simp only [header?, Option.map_eq_some_iff, List.find?_eq_some_iff_append, beq_iff_eq,
    Bool.not_eq_true', beq_eq_false_iff_ne]
  constructor
  · rintro ⟨h, ⟨named, before, behind, whole, others⟩, same⟩
    exact ⟨before, h, behind, whole, others, named, same⟩
  · rintro ⟨before, h, behind, whole, others, named, same⟩
    exact ⟨h, ⟨named, before, behind, whole, others⟩, same⟩

theorem isJson_iff (r : Request) : r.isJson = true ↔ r.SaysJson := by
  have json {cs : List Char} (visible : ∀ c ∈ cs, IsVisibleChar c) :=
    isMediaType_iff visible (by decide : Text.trimChars "application/json".toList = _) (by decide)
  have reads {cs : List Char} : (r.header? "content-type").bind visibleText? = some cs ↔
      ∃ before h behind, r.headers = before ++ h :: behind ∧
        (∀ g ∈ before, g.name ≠ "content-type") ∧ h.name = "content-type" ∧
        IsVisibleText h.value cs := by
    simp only [Option.bind_eq_some_iff, header?_eq_some_iff, visibleText?_eq_some_iff]
    constructor
    · rintro ⟨_, ⟨before, h, behind, whole, others, named, rfl⟩, text⟩
      exact ⟨before, h, behind, whole, others, named, text⟩
    · rintro ⟨before, h, behind, whole, others, named, text⟩
      exact ⟨_, ⟨before, h, behind, whole, others, named, rfl⟩, text⟩
  unfold isJson
  constructor
  · intro is
    split at is
    · cases is
    · next cs found =>
      obtain ⟨before, h, behind, whole, others, named, text⟩ := reads.mp found
      exact ⟨before, h, behind, cs, whole, others, named, text,
        (json text.2).mpr (beq_iff_eq.mp is)⟩
  · rintro ⟨before, h, behind, cs, whole, others, named, text, is⟩
    rw [reads.mpr ⟨before, h, behind, whole, others, named, text⟩]
    exact beq_iff_eq.mpr ((json text.2).mp is)

end Request

end Http

end EvictionGate
