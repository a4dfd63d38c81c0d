import EvictionGate.Json.Printer
import EvictionGate.Proofs.Json.Grammar
import Mathlib.Algebra.Group.Nat.Defs

/-!
# Numbers as they are written

Whatever number is kept, its text is a number in JSON: a zero or digits that start with no
zero, then perhaps a point with digits, and perhaps an exponent. So it is a text of a numeral,
and an integer of 64 bits is kept of it as it was.

Results:
1. `Number.exists_text`: the text of every number is a number in JSON.
2. `Number.spellsNumber`: so it is a text of a numeral.
3. `Number.keep_integer`: what is kept of the text of an integer.
-/

namespace EvictionGate.Json

def charBytes (cs : List Char) : List UInt8 := cs.flatMap String.utf8EncodeChar

@[simp] theorem charBytes_nil : charBytes [] = [] := rfl

@[simp] theorem charBytes_append (first second : List Char) :
    charBytes (first ++ second) = charBytes first ++ charBytes second :=
  List.flatMap_append

theorem charBytes_cons (c : Char) (cs : List Char) :
    charBytes (c :: cs) = String.utf8EncodeChar c ++ charBytes cs :=
  List.flatMap_cons

theorem charBytes_cons_of_ascii {c : Char} (ascii : c.toNat ≤ 0x7F) (cs : List Char) :
    charBytes (c :: cs) = UInt8.ofNat c.toNat :: charBytes cs := by
  have code : c.val.toNat = c.toNat := rfl
  rw [charBytes_cons, String.utf8EncodeChar, code, if_pos ascii]
  rfl

/-! ## Digits -/

/-- The value of a digit. -/
def digitValue (c : Char) : Nat := c.toNat - 0x30

theorem toNat_of_isDigit {c : Char} (h : c.isDigit = true) : 0x30 ≤ c.toNat ∧ c.toNat ≤ 0x39 := by
  simp only [Char.isDigit, Bool.and_eq_true, decide_eq_true_eq] at h
  exact h

theorem digit?_ofNat {n : Nat} (low : 0x30 ≤ n) (high : n ≤ 0x39) :
    digit? (UInt8.ofNat n) = some (n - 0x30) := by
  have small : n % 256 = n := Nat.mod_eq_of_lt (by omega)
  unfold digit?
  simp only [UInt8.le_iff_toNat_le, UInt8.toNat_ofNat', Nat.reducePow, small]
  rw [if_pos (by simp; omega)]

theorem map_digit?_charBytes {cs : List Char} (all : ∀ c ∈ cs, c.isDigit = true) :
    (charBytes cs).map digit? = (cs.map digitValue).map some := by
  induction cs with
  | nil => rfl
  | cons c cs ih =>
    obtain ⟨low, high⟩ := toNat_of_isDigit (all c List.mem_cons_self)
    rw [charBytes_cons_of_ascii (by omega), List.map_cons, digit?_ofNat low high,
      ih fun d mem => all d (List.mem_cons_of_mem _ mem)]
    rfl

/-! ## Numbers in JSON -/

/-- A number as its characters: its sign, the digits before the point, those behind it, and the
sign and the digits of an exponent. -/
structure NumberText where
  negative : Bool
  whole : List Char
  fraction : Option (List Char)
  exponent : Option (Bool × List Char)

/-- Digits only, and at least one. -/
structure AreDigits (cs : List Char) : Prop where
  some_digit : cs ≠ []
  all : ∀ c ∈ cs, c.isDigit = true

namespace NumberText

/-- The point and the digits after it. -/
def fractionChars : Option (List Char) → List Char
  | none => []
  | some ds => '.' :: ds

def exponentChars : Option (Bool × List Char) → List Char
  | none => []
  | some (negative, ds) => 'e' :: (if negative then '-' else '+') :: ds

/-- The text of the number. -/
def chars (t : NumberText) : List Char :=
  (if t.negative then ['-'] else []) ++
    (t.whole ++ (fractionChars t.fraction ++ exponentChars t.exponent))

/-- The `Numeral` that the text is read as. -/
def numeral (t : NumberText) : Numeral where
  negative := t.negative
  whole := t.whole.map digitValue
  fraction := t.fraction.map (List.map digitValue)
  exponent := t.exponent.map fun (negative, ds) =>
    let n : Int := ofDigits (ds.map digitValue)
    if negative then -n else n

/-- The text is one of the grammar: there are digits wherever they may stand, and no zero leads
others. -/
structure Sound (t : NumberText) : Prop where
  whole : AreDigits t.whole
  leading : t.whole.head? = some '0' → t.whole = ['0']
  fraction : ∀ ds ∈ t.fraction, AreDigits ds
  exponent : ∀ e ∈ t.exponent, AreDigits e.2

theorem spellsDigits {cs : List Char} (digits : AreDigits cs) :
    SpellsDigits (cs.map digitValue) (charBytes cs) where
  some_digit := by
    rw [ne_eq, List.map_eq_nil_iff]
    exact digits.some_digit
  each := map_digit?_charBytes digits.all

theorem spellsWhole {t : NumberText} (sound : t.Sound) :
    SpellsWhole (t.whole.map digitValue) (charBytes t.whole) := by
  refine ⟨spellsDigits sound.whole, fun leading => ?_⟩
  obtain ⟨c, cs, whole⟩ := List.exists_cons_of_ne_nil sound.whole.some_digit
  obtain ⟨low, -⟩ := toNat_of_isDigit
    (sound.whole.all c (by rw [whole]; exact List.mem_cons_self))
  have zero : digitValue c = 0 := by
    rw [whole] at leading
    exact Option.some.inj leading
  have same : c = '0' := Char.toNat_inj.mp (by unfold digitValue at zero; simp; omega)
  rw [sound.leading (by rw [whole, same]; rfl)]
  rfl

theorem spellsFraction {f : Option (List Char)} (sound : ∀ ds ∈ f, AreDigits ds) :
    SpellsFraction (f.map (List.map digitValue)) (charBytes (fractionChars f)) := by
  cases f with
  | none => exact .absent
  | some ds =>
    rw [fractionChars, charBytes_cons_of_ascii (by decide)]
    exact .point (spellsDigits (sound ds rfl))

theorem spellsExponent {e : Option (Bool × List Char)} (sound : ∀ d ∈ e, AreDigits d.2) :
    SpellsExponent (e.map fun (negative, ds) =>
      let n : Int := ofDigits (ds.map digitValue)
      if negative then -n else n) (charBytes (exponentChars e)) := by
  match e with
  | none => exact .absent
  | some (true, ds) =>
    rw [exponentChars, if_pos rfl, charBytes_cons_of_ascii (by decide),
      charBytes_cons_of_ascii (by decide)]
    exact .negative (by decide) (spellsDigits (sound _ rfl))
  | some (false, ds) =>
    rw [exponentChars, if_neg (by decide), charBytes_cons_of_ascii (by decide),
      charBytes_cons_of_ascii (by decide)]
    exact .positive (by decide) (spellsDigits (sound _ rfl))

/-- A number in JSON is a text of the number. -/
theorem spellsNumber {t : NumberText} (sound : t.Sound) :
    SpellsNumber t.numeral (charBytes t.chars) := by
  have whole := spellsWhole sound
  have fraction := spellsFraction sound.fraction
  have exponent := spellsExponent sound.exponent
  obtain ⟨negative, w, f, e⟩ := t
  cases negative with
  | true =>
    rw [chars, if_pos rfl, List.singleton_append, charBytes_cons_of_ascii (by decide),
      charBytes_append, charBytes_append]
    exact .negative whole fraction exponent
  | false =>
    rw [chars, if_neg Bool.false_ne_true, List.nil_append, charBytes_append, charBytes_append]
    exact .plain whole fraction exponent

end NumberText

/-! ## The text of a number -/

theorem areDigits_toDigits (n : Nat) : AreDigits (Nat.toDigits 10 n) where
  some_digit := Nat.toDigits_ne_nil
  all _ mem := Nat.isDigit_of_mem_toDigits (by decide : 0 < 10) (by decide) mem

theorem AreDigits.append {cs ds : List Char} (first : AreDigits cs)
    (second : ∀ c ∈ ds, c.isDigit = true) : AreDigits (cs ++ ds) where
  some_digit := by simp [first.some_digit]
  all c mem := (List.mem_append.mp mem).elim (first.all c) (second c)

theorem eq_zero_of_digitChar : ∀ n < 10, Nat.digitChar n = '0' → n = 0 := by decide

/-- No number but zero is written with a zero at its start. -/
theorem eq_zero_of_head_toDigits {n : Nat} (h : (Nat.toDigits 10 n).head? = some '0') : n = 0 := by
  induction n using Nat.strongRecOn with
  | ind n ih =>
    by_cases small : n < 10
    · rw [Nat.toDigits_of_lt_base small, List.head?_cons] at h
      exact eq_zero_of_digitChar n small (Option.some.inj h)
    · rw [Nat.toDigits_of_base_le (by decide) (by omega),
        List.head?_append, Option.or_of_isSome (by simp [Nat.toDigits_ne_nil])] at h
      have := ih (n / 10) (by omega) h
      omega

/-- The zeros at the end of a number do not outweigh it. -/
theorem pow_zeros_le {n : Nat} (positive : 0 < n) :
    10 ^ ((Nat.toDigits 10 n).reverse.takeWhile (· = '0')).length ≤ n := by
  induction n using Nat.strongRecOn with
  | ind n ih =>
    by_cases small : n < 10
    · rw [Nat.toDigits_of_lt_base small, List.reverse_singleton, List.takeWhile_cons_of_neg]
      · exact positive
      · intro zero
        have := eq_zero_of_digitChar n small (of_decide_eq_true zero)
        omega
    · rw [Nat.toDigits_of_base_le (by decide) (by omega), List.reverse_append,
        List.reverse_singleton, List.singleton_append, List.takeWhile_cons]
      split
      · rw [List.length_cons, Nat.pow_succ]
        have := ih (n / 10) (by omega) (by omega)
        omega
      · exact positive

/-- A shortest decimal that has no digits has no scale. -/
theorem scale_shortest (x : Binary64) (none : x.shortest.digits = 0) : x.shortest.scale = 0 := by
  unfold Binary64.shortest at none ⊢
  split at none
  · next zero => rw [if_pos zero]
  · next nonzero =>
    rw [if_neg nonzero]
    unfold Binary64.Decimal.stripped at none ⊢
    split at none
    · next zero => rw [if_pos zero]
    · next some =>
      have enough := pow_zeros_le (Nat.pos_of_ne_zero some)
      have positive := Nat.div_pos enough (Nat.pow_pos (by decide))
      exact absurd none (Nat.pos_iff_ne_zero.mp positive)

theorem areDigits_zeros (n : Nat) : ∀ c ∈ List.replicate n '0', c.isDigit = true := by
  intro c mem
  rw [List.eq_of_mem_replicate mem]
  rfl

theorem areDigits_zero : AreDigits ['0'] :=
  ⟨List.cons_ne_nil _ _, areDigits_zeros 1⟩

theorem exists_text_scientific (ds : List Char) (negative : Bool) {es : List Char}
    (exponent : AreDigits es) : AreDigits ds →
    ∃ t : NumberText, t.Sound ∧ t.negative = false ∧ t.chars =
      match ds with
      | d :: e :: ds => d :: '.' :: e :: ds ++ ('e' :: [if negative then '-' else '+'] ++ es)
      | ds => ds ++ ('e' :: [if negative then '-' else '+'] ++ es) := by
  intro digits
  match ds, digits with
  | [c], digits =>
    refine ⟨⟨false, [c], none, some (negative, es)⟩,
      ⟨digits, fun h => ?_, fun _ h => (nomatch h), fun e h => ?_⟩, rfl, rfl⟩
    · exact congrArg (· :: []) (Option.some.inj h)
    · cases h
      exact exponent
  | c :: e :: ds, digits =>
    refine ⟨⟨false, [c], some (e :: ds), some (negative, es)⟩,
      ⟨⟨List.cons_ne_nil _ _, ?_⟩, fun h => ?_, fun _ h => ?_, fun e h => ?_⟩, rfl, ?_⟩
    · intro c' mem
      exact digits.all c' (by rw [List.mem_singleton.mp mem]; exact List.mem_cons_self)
    · exact congrArg (· :: []) (Option.some.inj h)
    · cases h
      exact ⟨List.cons_ne_nil _ _, fun c' mem => digits.all c' (List.mem_cons_of_mem _ mem)⟩
    · cases h
      exact exponent
    · simp [NumberText.chars, NumberText.fractionChars, NumberText.exponentChars]

theorem exists_text_plain {whole fraction : List Char} (before : AreDigits whole)
    (leading : whole.head? = some '0' → whole = ['0']) (after : AreDigits fraction) :
    ∃ t : NumberText, t.Sound ∧ t.negative = false ∧ t.chars = whole ++ '.' :: fraction := by
  refine ⟨⟨false, whole, some fraction, none⟩,
    ⟨before, leading, fun _ h => ?_, fun _ h => (nomatch h)⟩, rfl, ?_⟩
  · cases h
    exact after
  · simp [NumberText.chars, NumberText.fractionChars, NumberText.exponentChars]

/-- The text of a decimal is a number in JSON. -/
theorem exists_text_decimal {d : Binary64.Decimal} (whole : d.digits = 0 → d.scale = 0) :
    ∃ t : NumberText, t.Sound ∧ t.negative = false ∧ t.chars = Number.style.chars d := by
  have digits := areDigits_toDigits d.digits
  have some_digit := List.length_pos_iff.mpr digits.some_digit
  have leading (h : (Nat.toDigits 10 d.digits).head? = some '0') : d.digits = 0 :=
    eq_zero_of_head_toDigits h
  unfold DecimalStyle.chars
  simp only [Number.style]
  generalize placed : d.scale + (Nat.toDigits 10 d.digits).length - 1 = first
  split
  · have sign : (if first < 0 then ['-'] else ['+']) =
        [if decide (first < 0) = true then '-' else '+'] := by
      by_cases negative : first < 0 <;> simp [negative]
    rw [sign]
    exact exists_text_scientific _ _ (areDigits_toDigits _) digits
  · split
    · -- zeros follow the digits
      refine (exists_text_plain (digits.append (areDigits_zeros _)) (fun h => ?_)
        areDigits_zero)
      rw [List.head?_append, Option.or_of_isSome (by simp [digits.some_digit])] at h
      rw [whole (leading h), leading h]
      rfl
    · split
      · -- the point stands among the digits
        refine exists_text_plain ⟨?_, fun c mem => digits.all c (List.mem_of_mem_take mem)⟩
          (fun h => ?_) ⟨?_, fun c mem => digits.all c (List.mem_of_mem_drop mem)⟩
        · rw [ne_eq, List.take_eq_nil_iff]
          rintro (h | h)
          · omega
          · exact digits.some_digit h
        · rw [List.head?_take, if_neg (by omega)] at h
          have := whole (leading h)
          omega
        · rw [ne_eq, List.drop_eq_nil_iff]
          omega
      · -- zeros come before the digits
        refine exists_text_plain areDigits_zero (fun _ => rfl)
          ⟨by simp [digits.some_digit], fun c mem => ?_⟩
        exact (List.mem_append.mp mem).elim (areDigits_zeros _ c) (digits.all c)

/-- The text in which an integer is printed. -/
def integerText (z : Int) : NumberText := ⟨z < 0, Nat.toDigits 10 z.natAbs, none, none⟩

theorem sound_integerText (z : Int) : (integerText z).Sound where
  whole := areDigits_toDigits _
  leading h := by
    simp only [integerText] at h ⊢
    rw [eq_zero_of_head_toDigits h]
    rfl
  fraction _ h := nomatch h
  exponent _ h := nomatch h

theorem chars_integerText (z : Int) : (integerText z).chars = (toString z).toList := by
  rw [Int.toString_eq_repr]
  cases z with
  | ofNat n =>
    simp [integerText, NumberText.chars, NumberText.fractionChars, NumberText.exponentChars,
      Int.repr, Nat.repr]
  | negSucc n =>
    have negative : Int.negSucc n < 0 := Int.negSucc_lt_zero n
    simp [integerText, NumberText.chars, NumberText.fractionChars, NumberText.exponentChars,
      negative, Int.repr, Nat.repr, String.toList_append]

/-- The text of every number is a number in JSON. -/
theorem Number.exists_text (n : Number) : ∃ t : NumberText, t.Sound ∧ t.chars = n.chars := by
  cases n with
  | integer z => exact ⟨integerText z, sound_integerText z, chars_integerText z⟩
  | real negative magnitude =>
    obtain ⟨t, sound, positive, written⟩ := exists_text_decimal (scale_shortest magnitude)
    refine ⟨{ t with negative }, ⟨sound.whole, sound.leading, sound.fraction, sound.exponent⟩, ?_⟩
    rw [Number.chars, ← written]
    simp [NumberText.chars, positive]

/-- The `Numeral` that the printed number is read as. -/
def Number.numeral (n : Number) : Numeral :=
  match readNumber (charBytes n.chars) with
  | some (.number m, _) => m
  | _ => ⟨false, [], none, none⟩

theorem Number.numeral_of_text {n : Number} {t : NumberText} (sound : t.Sound)
    (written : t.chars = n.chars) : n.numeral = t.numeral := by
  have read := readNumber_of_spells (NumberText.spellsNumber sound) endsNumber_nil
  rw [List.append_nil, written] at read
  rw [Number.numeral, read]

/-- The text of a number is a text of the numeral. -/
theorem Number.spellsNumber (n : Number) : SpellsNumber n.numeral (charBytes n.chars) := by
  obtain ⟨t, sound, written⟩ := n.exists_text
  rw [Number.numeral_of_text sound written, ← written]
  exact NumberText.spellsNumber sound

theorem ofDigits_toDigits (n : Nat) : ofDigits ((Nat.toDigits 10 n).map digitValue) = n := by
  have folded := Nat.ofDigitChars_ten_toDigits (n := n)
  rw [Nat.ofDigitChars_eq_foldl] at folded
  rw [ofDigits, List.foldl_map]
  simpa [digitValue, Nat.mul_comm] using folded

/-- An integer of 64 bits is kept as it is. -/
theorem Number.keep_integer {z : Int} (low : -(wordCount / 2 : Nat) ≤ z) (high : z < wordCount) :
    (Number.integer z).numeral.keep? = some (.integer z) := by
  rw [Number.numeral_of_text (n := .integer z) (sound_integerText z) (chars_integerText z)]
  have kept : (integerText z).numeral.integer? = some z := by
    simp only [Numeral.integer?, NumberText.numeral, integerText, Option.map_none,
      Option.isSome_none, Bool.or_self, Bool.false_eq_true, if_false, ofDigits_toDigits,
      decide_eq_true_eq]
    split
    · have within : ¬ (decide (z.natAbs = 0) || decide (wordCount / 2 < z.natAbs)) = true := by
        simp only [Bool.or_eq_true, decide_eq_true_eq]
        omega
      rw [if_neg within]
      congr 1
      omega
    · rw [if_pos (by omega)]
      congr 1
      omega
  rw [Numeral.keep?, kept]

end EvictionGate.Json
