import EvictionGate.Json.Reader
import Mathlib.Data.List.TakeWhile

/-!
# The texts of a tree

A JSON text is one value with blanks around it (RFC 8259). `Spells` is its grammar: which bytes
are a text of which tree. Blanks may stand around every value and every name, a string may
write its characters as they are or by number, and an exponent has a letter of either case.

The reader takes the texts of this grammar, each to its tree, and no other bytes.

Results:
1. `isRead_of_spells`: a part of a text is read to its part of the tree, whatever follows it.
2. `reads`: what is read is a text of the tree it is read to.
3. `read?_eq_some_iff`: both, for all the bytes there are.
-/

namespace EvictionGate.Json

/-! ## Blanks -/

def AreBlanks (bs : List UInt8) : Prop := ∀ b ∈ bs, isSpace b = true

theorem areBlanks_nil : AreBlanks [] := fun _ mem => absurd mem List.not_mem_nil

theorem skipSpaces_append {blanks : List UInt8} (blank : AreBlanks blanks) (bs : List UInt8) :
    skipSpaces (blanks ++ bs) = skipSpaces bs :=
  List.dropWhile_append_of_pos blank

theorem skipSpaces_of_not {b : UInt8} (h : isSpace b = false) (bs : List UInt8) :
    skipSpaces (b :: bs) = b :: bs := by
  rw [skipSpaces, List.dropWhile_cons_of_neg (by simp [h])]

theorem exists_blanks (bs : List UInt8) :
    ∃ blanks, AreBlanks blanks ∧ bs = blanks ++ skipSpaces bs :=
  ⟨bs.takeWhile isSpace, fun _ mem => List.mem_takeWhile_imp mem,
    List.takeWhile_append_dropWhile.symm⟩

theorem skipSpaces_skipSpaces (bs : List UInt8) : skipSpaces (skipSpaces bs) = skipSpaces bs := by
  obtain ⟨blanks, blank, split⟩ := exists_blanks (skipSpaces bs)
  cases rest : skipSpaces bs with
  | nil => rfl
  | cons b bs' =>
    refine skipSpaces_of_not ?_ bs'
    have := List.head?_dropWhile_not isSpace bs
    rw [skipSpaces] at rest
    rw [rest] at this
    simpa using this

/-! ## Strings -/

/-- A byte of a string that is not written as an escape. -/
structure StandsForItself (b : UInt8) : Prop where
  printable : ¬ b < 0x20
  noQuote : b ≠ 0x22
  noBackslash : b ≠ 0x5C

/-- `SpellsString ps bs`: between quotes, `bs` is a text of the pieces `ps`.

* `itself`: a byte that stands for itself.
* `letter`: a backslash and a letter of `escape?`.
* `number`: a backslash, a `u` and four digits of `hex4?`. -/
inductive SpellsString : List Piece → List UInt8 → Prop
  | nil : SpellsString [] []
  | itself {b : UInt8} {ps : List Piece} {bs : List UInt8} :
      StandsForItself b → SpellsString ps bs → SpellsString (.byte b :: ps) (b :: bs)
  | letter {e b : UInt8} {ps : List Piece} {bs : List UInt8} :
      escape? e = some b → SpellsString ps bs → SpellsString (.byte b :: ps) (0x5C :: e :: bs)
  | number {a b c d : UInt8} {u : Nat} {ps : List Piece} {bs : List UInt8} :
      hex4? a b c d = some u → SpellsString ps bs →
      SpellsString (.unit u :: ps) (0x5C :: 0x75 :: a :: b :: c :: d :: bs)

theorem SpellsString.append {ps qs : List Piece} {bs cs : List UInt8}
    (first : SpellsString ps bs) (second : SpellsString qs cs) :
    SpellsString (ps ++ qs) (bs ++ cs) := by
  induction first with
  | nil => exact second
  | itself stands _ ih => exact .itself stands ih
  | letter means _ ih => exact .letter means ih
  | number means _ ih => exact .number means ih

theorem readString_of_spells {ps : List Piece} {bs : List UInt8} (spelled : SpellsString ps bs)
    (rest : List UInt8) : readString (bs ++ 0x22 :: rest) = some (ps, rest) := by
  induction spelled with
  | nil => rfl
  | itself stands _ ih =>
    rw [List.cons_append, readString.eq_def]
    split
    · next heq => cases heq
    · next heq => exact absurd (List.cons.inj heq).1 stands.noQuote
    · next heq => exact absurd (List.cons.inj heq).1 stands.noBackslash
    · next heq => exact absurd (List.cons.inj heq).1 stands.noBackslash
    · next heq =>
      obtain ⟨rfl, rfl⟩ := List.cons.inj heq
      rw [if_neg (by simp [stands.printable, stands.noBackslash]), ih]
  | @letter e b ps bs means _ ih =>
    -- no letter stands for the mark of a number
    have noNumber : e ≠ 0x75 := by
      rintro rfl
      cases means
    rw [List.cons_append, List.cons_append, readString.eq_def]
    split
    · next heq => cases heq
    · next heq => exact absurd (List.cons.inj heq).1 (by decide)
    · next heq => exact absurd (List.cons.inj (List.cons.inj heq).2).1 noNumber
    · next heq =>
      obtain ⟨-, heq⟩ := List.cons.inj heq
      obtain ⟨rfl, rfl⟩ := List.cons.inj heq
      rw [means, ih]
    · next other heq =>
      obtain ⟨rfl, rfl⟩ := List.cons.inj heq
      exact absurd rfl (other e _ rfl)
  | number means _ ih => simp only [List.cons_append, readString, means, ih]

theorem exists_spells_of_readString {bs : List UInt8} {ps : List Piece} {rest : List UInt8}
    (read : readString bs = some (ps, rest)) :
    ∃ text, bs = text ++ 0x22 :: rest ∧ SpellsString ps text := by
  fun_induction readString bs generalizing ps rest with
  | case1 | case4 | case6 | case7 | case9 => cases read
  | case2 =>
    cases read
    exact ⟨[], rfl, .nil⟩
  | case3 a b c d bs u ps _ inner means ih =>
    cases read
    obtain ⟨text, rfl, spelled⟩ := ih inner
    exact ⟨_, rfl, .number means spelled⟩
  | case5 e bs _ b ps _ inner means ih =>
    cases read
    obtain ⟨text, rfl, spelled⟩ := ih inner
    exact ⟨_, rfl, .letter means spelled⟩
  | case8 b bs noQuote _ _ plain ps _ inner ih =>
    cases read
    obtain ⟨text, rfl, spelled⟩ := ih inner
    simp only [Bool.or_eq_true, decide_eq_true_eq, beq_iff_eq, not_or] at plain
    exact ⟨_, rfl, .itself ⟨plain.1, noQuote, plain.2⟩ spelled⟩

/-! ## Numbers -/

/-- A byte other than a digit, a point or the letter of an exponent. -/
def endsNumber (b : UInt8) : Bool :=
  (digit? b).isNone && b != 0x2E && b != 0x65 && b != 0x45

/-- The bytes are none, or begin with one that is `endsNumber`. -/
def EndsNumber (bs : List UInt8) : Prop := ∀ b ∈ bs.head?, endsNumber b = true

theorem endsNumber_nil : EndsNumber [] := by
  intro b mem
  cases mem

/-- `SpellsDigits ds bs`: `bs` are the digits `ds`, at least one. -/
structure SpellsDigits (ds : List Nat) (bs : List UInt8) : Prop where
  some_digit : ds ≠ []
  each : bs.map digit? = ds.map some

theorem SpellsDigits.exists_head {ds : List Nat} {bs : List UInt8} (spelled : SpellsDigits ds bs) :
    ∃ b bs' d, bs = b :: bs' ∧ digit? b = some d := by
  obtain ⟨some_digit, each⟩ := spelled
  match ds, bs with
  | [], _ => exact absurd rfl some_digit
  | d :: ds, [] => cases each
  | d :: ds, b :: bs => exact ⟨b, bs, d, rfl, (List.cons.inj each).1⟩

/-- `SpellsWhole ds bs`: `bs` are the digits `ds`, and no zero leads them unless it is the only
one. -/
structure SpellsWhole (ds : List Nat) (bs : List UInt8) : Prop where
  digits : SpellsDigits ds bs
  leading : ds.head? = some 0 → ds = [0]

inductive SpellsFraction : Option (List Nat) → List UInt8 → Prop
  | absent : SpellsFraction none []
  | point {ds : List Nat} {bs : List UInt8} :
      SpellsDigits ds bs → SpellsFraction (some ds) (0x2E :: bs)

/-- The letter before an exponent. -/
def isExponentMark (b : UInt8) : Bool := b == 0x65 || b == 0x45

inductive SpellsExponent : Option Int → List UInt8 → Prop
  | absent : SpellsExponent none []
  | unsigned {e : UInt8} {ds : List Nat} {bs : List UInt8} : isExponentMark e = true →
      SpellsDigits ds bs → SpellsExponent (some (ofDigits ds)) (e :: bs)
  | positive {e : UInt8} {ds : List Nat} {bs : List UInt8} : isExponentMark e = true →
      SpellsDigits ds bs → SpellsExponent (some (ofDigits ds)) (e :: 0x2B :: bs)
  | negative {e : UInt8} {ds : List Nat} {bs : List UInt8} : isExponentMark e = true →
      SpellsDigits ds bs → SpellsExponent (some (-ofDigits ds)) (e :: 0x2D :: bs)

inductive SpellsNumber : Numeral → List UInt8 → Prop
  | plain {w f e} {a b c : List UInt8} : SpellsWhole w a → SpellsFraction f b →
      SpellsExponent e c → SpellsNumber ⟨false, w, f, e⟩ (a ++ (b ++ c))
  | negative {w f e} {a b c : List UInt8} : SpellsWhole w a → SpellsFraction f b →
      SpellsExponent e c → SpellsNumber ⟨true, w, f, e⟩ (0x2D :: (a ++ (b ++ c)))

theorem readDigits_of_each {ds : List Nat} {bs rest : List UInt8}
    (each : bs.map digit? = ds.map some) (stops : ∀ b ∈ rest.head?, digit? b = none) :
    readDigits (bs ++ rest) = (ds, rest) := by
  induction bs generalizing ds with
  | nil =>
    cases ds with
    | cons d ds => cases each
    | nil =>
      cases rest with
      | nil => rfl
      | cons b rest => simp only [List.nil_append, readDigits, stops b rfl]
  | cons b bs ih =>
    cases ds with
    | nil => cases each
    | cons d ds =>
      obtain ⟨first, others⟩ := List.cons.inj each
      simp only [List.cons_append, readDigits, first, ih others]

theorem exists_each_of_readDigits {bs rest : List UInt8} {ds : List Nat}
    (read : readDigits bs = (ds, rest)) : ∃ text, bs = text ++ rest ∧
      text.map digit? = ds.map some := by
  fun_induction readDigits bs generalizing ds rest with
  | case1 =>
    cases read
    exact ⟨[], rfl, rfl⟩
  | case2 b bs d digit es after inner ih =>
    cases read
    obtain ⟨text, rfl, each⟩ := ih inner
    exact ⟨b :: text, rfl, by simp [digit, each]⟩
  | case3 b bs =>
    cases read
    exact ⟨[], rfl, rfl⟩

theorem readDigits1_of_spells {ds : List Nat} {bs rest : List UInt8}
    (spelled : SpellsDigits ds bs) (stops : ∀ b ∈ rest.head?, digit? b = none) :
    readDigits1 (bs ++ rest) = some (ds, rest) := by
  unfold readDigits1
  rw [readDigits_of_each spelled.each stops]
  cases ds with
  | nil => exact absurd rfl spelled.some_digit
  | cons d ds => rfl

theorem exists_spells_of_readDigits1 {bs rest : List UInt8} {ds : List Nat}
    (read : readDigits1 bs = some (ds, rest)) :
    ∃ text, bs = text ++ rest ∧ SpellsDigits ds text := by
  unfold readDigits1 at read
  split at read
  · cases read
  · next some_digit inner =>
    cases read
    obtain ⟨text, split, each⟩ := exists_each_of_readDigits inner
    exact ⟨text, split, some_digit, each⟩

theorem readWhole_of_spells {ds : List Nat} {bs rest : List UInt8} (spelled : SpellsWhole ds bs)
    (stops : ∀ b ∈ rest.head?, digit? b = none) : readWhole (bs ++ rest) = some (ds, rest) := by
  unfold readWhole
  rw [readDigits1_of_spells spelled.digits stops]
  split
  · next zero =>
    cases zero
    cases spelled.leading rfl
  · rfl

theorem exists_spells_of_readWhole {bs rest : List UInt8} {ds : List Nat}
    (read : readWhole bs = some (ds, rest)) : ∃ text, bs = text ++ rest ∧ SpellsWhole ds text := by
  unfold readWhole at read
  split at read
  · cases read
  · next noZero =>
    obtain ⟨text, split, digits⟩ := exists_spells_of_readDigits1 read
    refine ⟨text, split, digits, fun leading => ?_⟩
    match ds with
    | [] => cases leading
    | [d] => exact congrArg (· :: []) (Option.some.inj leading)
    | d :: e :: ds =>
      cases Option.some.inj leading
      exact absurd read (noZero e ds rest)

theorem readFraction_of_spells {f : Option (List Nat)} {bs rest : List UInt8}
    (spelled : SpellsFraction f bs) (stops : ∀ b ∈ rest.head?, digit? b = none ∧ b ≠ 0x2E) :
    readFraction (bs ++ rest) = some (f, rest) := by
  cases spelled with
  | absent =>
    rw [List.nil_append, readFraction.eq_def]
    split
    · exact absurd rfl (stops _ rfl).2
    · rfl
  | point digits =>
    have read := readDigits1_of_spells digits fun b first => (stops b first).1
    rw [List.cons_append, readFraction, read, Option.map_some]

theorem exists_spells_of_readFraction {bs rest : List UInt8} {f : Option (List Nat)}
    (read : readFraction bs = some (f, rest)) :
    ∃ text, bs = text ++ rest ∧ SpellsFraction f text := by
  unfold readFraction at read
  split at read
  · obtain ⟨⟨ds, after⟩, digits, same⟩ := Option.map_eq_some_iff.mp read
    cases same
    obtain ⟨text, rfl, spelled⟩ := exists_spells_of_readDigits1 digits
    exact ⟨_, rfl, .point spelled⟩
  · cases read
    exact ⟨[], rfl, .absent⟩

theorem readScale_of_spells (negative : Bool) {ds : List Nat} {bs rest : List UInt8}
    (spelled : SpellsDigits ds bs) (ends : EndsNumber rest) :
    readScale negative (bs ++ rest) =
      some (some (if negative then -(ofDigits ds : Int) else ofDigits ds), rest) := by
  have stops : ∀ b ∈ rest.head?, digit? b = none := by
    intro b first
    have := ends b first
    simp only [endsNumber, Bool.and_eq_true, Option.isNone_iff_eq_none] at this
    exact this.1.1.1
  rw [readScale, readDigits1_of_spells spelled stops, Option.map_some]

theorem exists_spells_of_readScale {negative : Bool} {bs rest : List UInt8} {e : Option Int}
    (read : readScale negative bs = some (e, rest)) : ∃ ds text, bs = text ++ rest ∧
      SpellsDigits ds text ∧ e = some (if negative then -(ofDigits ds : Int) else ofDigits ds) := by
  obtain ⟨⟨ds, after⟩, digits, same⟩ := Option.map_eq_some_iff.mp read
  cases same
  obtain ⟨text, split, spelled⟩ := exists_spells_of_readDigits1 digits
  exact ⟨ds, text, split, spelled, rfl⟩

theorem readExponent_of_spells {e : Option Int} {bs rest : List UInt8}
    (spelled : SpellsExponent e bs) (ends : EndsNumber rest) :
    readExponent (bs ++ rest) = some (e, rest) := by
  cases spelled with
  | absent =>
    cases rest with
    | nil => rfl
    | cons b rest =>
      have := ends b rfl
      simp only [endsNumber, Bool.and_eq_true, bne_iff_ne] at this
      simp [readExponent, this.1.2, this.2]
  | @unsigned mark ds bs isMark digits =>
    have noSign {sign : UInt8} (none : digit? sign = none) (after : List UInt8) :
        bs ++ rest = sign :: after → False := by
      obtain ⟨b, bs, d, rfl, digit⟩ := digits.exists_head
      intro same
      rw [(List.cons.inj same).1, none] at digit
      cases digit
    rw [isExponentMark] at isMark
    rw [List.cons_append, readExponent, if_pos isMark]
    · exact readScale_of_spells false digits ends
    · exact noSign (by decide)
    · exact noSign (by decide)
  | positive isMark digits =>
    rw [isExponentMark] at isMark
    rw [List.cons_append, List.cons_append, readExponent, if_pos isMark]
    exact readScale_of_spells false digits ends
  | negative isMark digits =>
    rw [isExponentMark] at isMark
    rw [List.cons_append, List.cons_append, readExponent, if_pos isMark]
    exact readScale_of_spells true digits ends

theorem exists_spells_of_readExponent {bs rest : List UInt8} {e : Option Int}
    (read : readExponent bs = some (e, rest)) :
    ∃ text, bs = text ++ rest ∧ SpellsExponent e text := by
  unfold readExponent at read
  split at read
  · next mark after =>
    split at read
    · next isMark =>
      split at read
      · obtain ⟨ds, text, rfl, spelled, rfl⟩ := exists_spells_of_readScale read
        exact ⟨_, rfl, .positive isMark spelled⟩
      · obtain ⟨ds, text, rfl, spelled, rfl⟩ := exists_spells_of_readScale read
        exact ⟨_, rfl, .negative isMark spelled⟩
      · obtain ⟨ds, text, rfl, spelled, rfl⟩ := exists_spells_of_readScale read
        exact ⟨_, rfl, .unsigned isMark spelled⟩
    · cases read
      exact ⟨[], rfl, .absent⟩
  · cases read
    exact ⟨[], rfl, .absent⟩

/-- What may follow the digits before the point. -/
theorem SpellsFraction.stops {f : Option (List Nat)} {e : Option Int} {bs cs rest : List UInt8}
    (fraction : SpellsFraction f bs) (exponent : SpellsExponent e cs) (ends : EndsNumber rest) :
    (∀ b ∈ (bs ++ (cs ++ rest)).head?, digit? b = none) ∧
      ∀ b ∈ (cs ++ rest).head?, digit? b = none ∧ b ≠ 0x2E := by
  have mark {e : UInt8} (isMark : isExponentMark e = true) : digit? e = none ∧ e ≠ 0x2E := by
    rw [isExponentMark, Bool.or_eq_true, beq_iff_eq, beq_iff_eq] at isMark
    rcases isMark with rfl | rfl <;> decide
  have later : ∀ b ∈ (cs ++ rest).head?, digit? b = none ∧ b ≠ 0x2E := by
    intro b first
    cases exponent with
    | absent =>
      have := ends b first
      simp only [endsNumber, Bool.and_eq_true, Option.isNone_iff_eq_none, bne_iff_ne] at this
      exact ⟨this.1.1.1, this.1.1.2⟩
    | unsigned isMark | positive isMark | negative isMark =>
      cases first
      exact mark isMark
  refine ⟨fun b first => ?_, later⟩
  cases fraction with
  | absent => exact (later b first).1
  | point digits =>
    cases first
    decide

theorem readMagnitude_of_spells (negative : Bool) {w : List Nat} {f : Option (List Nat)}
    {e : Option Int} {a b c rest : List UInt8} (whole : SpellsWhole w a)
    (fraction : SpellsFraction f b) (exponent : SpellsExponent e c) (ends : EndsNumber rest) :
    readMagnitude negative (a ++ (b ++ (c ++ rest))) =
      some (.number ⟨negative, w, f, e⟩, rest) := by
  obtain ⟨afterWhole, afterFraction⟩ := fraction.stops exponent ends
  rw [readMagnitude, readWhole_of_spells whole afterWhole]
  simp only [Option.bind_eq_bind, Option.bind_some, readFraction_of_spells fraction afterFraction,
    readExponent_of_spells exponent ends]

theorem readNumber_of_spells {n : Numeral} {bs rest : List UInt8} (spelled : SpellsNumber n bs)
    (ends : EndsNumber rest) : readNumber (bs ++ rest) = some (.number n, rest) := by
  cases spelled with
  | negative whole fraction exponent =>
    rw [List.cons_append, List.append_assoc, List.append_assoc, readNumber]
    exact readMagnitude_of_spells true whole fraction exponent ends
  | @plain _ _ _ a b c whole fraction exponent =>
    rw [List.append_assoc, List.append_assoc]
    -- the first byte is a digit, and no minus
    obtain ⟨first, others, d, rfl, digit⟩ := whole.digits.exists_head
    rw [List.cons_append, readNumber.eq_def]
    split
    · next heq =>
      rw [(List.cons.inj heq).1] at digit
      cases digit
    · exact readMagnitude_of_spells false whole fraction exponent ends

theorem exists_spells_of_readNumber {bs rest : List UInt8} {r : Raw}
    (read : readNumber bs = some (r, rest)) :
    ∃ n text, bs = text ++ rest ∧ SpellsNumber n text ∧ r = .number n := by
  have magnitude {negative : Bool} {bs : List UInt8}
      (read : readMagnitude negative bs = some (r, rest)) : ∃ w f e a b c,
        bs = a ++ (b ++ c) ++ rest ∧ SpellsWhole w a ∧ SpellsFraction f b ∧
          SpellsExponent e c ∧ r = .number ⟨negative, w, f, e⟩ := by
    simp only [readMagnitude, Option.bind_eq_bind, Option.bind_eq_some_iff] at read
    obtain ⟨⟨w, _⟩, readsWhole, ⟨f, _⟩, readsFraction, ⟨e, _⟩, readsExponent, same⟩ := read
    cases same
    obtain ⟨a, rfl, whole⟩ := exists_spells_of_readWhole readsWhole
    obtain ⟨b, rfl, fraction⟩ := exists_spells_of_readFraction readsFraction
    obtain ⟨c, rfl, exponent⟩ := exists_spells_of_readExponent readsExponent
    exact ⟨w, f, e, a, b, c, by simp, whole, fraction, exponent, rfl⟩
  unfold readNumber at read
  split at read
  · obtain ⟨w, f, e, a, b, c, rfl, whole, fraction, exponent, rfl⟩ := magnitude read
    exact ⟨_, _, rfl, .negative whole fraction exponent, rfl⟩
  · obtain ⟨w, f, e, a, b, c, rfl, whole, fraction, exponent, rfl⟩ := magnitude read
    exact ⟨_, _, rfl, .plain whole fraction exponent, rfl⟩

/-! ## Values -/

/-- A part of a text.

* `value`: a value without blanks around it.
* `element`: a value with blanks around it.
* `items`: what stands between the brackets of an array that is not empty.
* `member`: a name, a colon and an element.
* `members`: what stands between the braces of an object that is not empty. -/
inductive Phrase
  | value (r : Raw)
  | element (r : Raw)
  | items (rs : List Raw)
  | member (name : List Piece) (r : Raw)
  | members (ms : List (List Piece × Raw))

/-- `Spells p bs`: `bs` is a text of `p`. -/
inductive Spells : Phrase → List UInt8 → Prop
  | null : Spells (.value .null) [0x6E, 0x75, 0x6C, 0x6C]
  | yes : Spells (.value (.bool true)) [0x74, 0x72, 0x75, 0x65]
  | no : Spells (.value (.bool false)) [0x66, 0x61, 0x6C, 0x73, 0x65]
  | number {n : Numeral} {bs : List UInt8} :
      SpellsNumber n bs → Spells (.value (.number n)) bs
  | string {ps : List Piece} {bs : List UInt8} :
      SpellsString ps bs → Spells (.value (.string ps)) (0x22 :: (bs ++ [0x22]))
  | emptyArray {bs : List UInt8} :
      AreBlanks bs → Spells (.value (.array [])) (0x5B :: (bs ++ [0x5D]))
  | array {rs : List Raw} {bs : List UInt8} :
      Spells (.items rs) bs → Spells (.value (.array rs)) (0x5B :: (bs ++ [0x5D]))
  | emptyObject {bs : List UInt8} :
      AreBlanks bs → Spells (.value (.object [])) (0x7B :: (bs ++ [0x7D]))
  | object {ms : List (List Piece × Raw)} {bs : List UInt8} :
      Spells (.members ms) bs → Spells (.value (.object ms)) (0x7B :: (bs ++ [0x7D]))
  | element {r : Raw} {before bs after : List UInt8} :
      AreBlanks before → Spells (.value r) bs → AreBlanks after →
      Spells (.element r) (before ++ (bs ++ after))
  | lastItem {r : Raw} {bs : List UInt8} : Spells (.element r) bs → Spells (.items [r]) bs
  | moreItems {r : Raw} {rs : List Raw} {bs cs : List UInt8} :
      Spells (.element r) bs → Spells (.items rs) cs →
      Spells (.items (r :: rs)) (bs ++ 0x2C :: cs)
  | member {name : List Piece} {r : Raw} {before bs after cs : List UInt8} :
      AreBlanks before → SpellsString name bs → AreBlanks after → Spells (.element r) cs →
      Spells (.member name r) (before ++ 0x22 :: (bs ++ 0x22 :: (after ++ 0x3A :: cs)))
  | lastMember {name : List Piece} {r : Raw} {bs : List UInt8} :
      Spells (.member name r) bs → Spells (.members [(name, r)]) bs
  | moreMembers {name : List Piece} {r : Raw} {ms : List (List Piece × Raw)} {bs cs : List UInt8} :
      Spells (.member name r) bs → Spells (.members ms) cs →
      Spells (.members ((name, r) :: ms)) (bs ++ 0x2C :: cs)

/-- `IsText r bs`: `bs` is a JSON text of the tree `r`, with blanks around it. -/
def IsText (r : Raw) (bs : List UInt8) : Prop := Spells (.element r) bs

/-! ### What is spelled is read -/

/-- A minus sign or a digit. -/
def startsNumber (b : UInt8) : Bool := b == 0x2D || (digit? b).isSome

theorem SpellsNumber.exists_head {n : Numeral} {bs : List UInt8} (spelled : SpellsNumber n bs) :
    ∃ b bs', bs = b :: bs' ∧ startsNumber b = true := by
  cases spelled with
  | negative => exact ⟨_, _, rfl, by decide⟩
  | plain whole =>
    obtain ⟨b, bs, d, rfl, digit⟩ := whole.digits.exists_head
    exact ⟨b, _, rfl, by simp [startsNumber, digit]⟩

/-- A byte other than a blank and a closing bracket. -/
def startsValue (b : UInt8) : Bool := !isSpace b && b != 0x5D

theorem startsValue_of_startsNumber {b : UInt8} (starts : startsNumber b = true) :
    startsValue b = true := by
  have other {d : UInt8} (no : startsNumber d = false) : b ≠ d := by
    rintro rfl
    cases starts.symm.trans no
  simp [startsValue, isSpace, other (d := 0x20) (by decide), other (d := 0x09) (by decide),
    other (d := 0x0A) (by decide), other (d := 0x0D) (by decide), other (d := 0x5D) (by decide)]

/-- A byte that can be the first of a phrase after blanks. -/
def Phrase.starts (b : UInt8) : Phrase → Bool
  | value _ => startsValue b
  | element _ => startsValue b
  | items _ => startsValue b
  | member _ _ => b == 0x22
  | members _ => b == 0x22

theorem Spells.exists_first {p : Phrase} {bs : List UInt8} (spelled : Spells p bs) :
    ∃ blanks b bs', AreBlanks blanks ∧ bs = blanks ++ b :: bs' ∧ p.starts b = true := by
  induction spelled with
  | null | yes | no | string | emptyArray | array | emptyObject | object =>
    exact ⟨[], _, _, areBlanks_nil, rfl, rfl⟩
  | number spelled =>
    obtain ⟨b, bs, rfl, starts⟩ := spelled.exists_head
    exact ⟨[], b, bs, areBlanks_nil, rfl, startsValue_of_startsNumber starts⟩
  | @element r before bs after blank _ _ ih =>
    obtain ⟨blanks, b, bs, blank', rfl, starts⟩ := ih
    refine ⟨before ++ blanks, b, bs ++ after, fun b mem => ?_, by simp, starts⟩
    exact (List.mem_append.mp mem).elim (blank b) (blank' b)
  | lastItem _ ih | lastMember _ ih => exact ih
  | moreItems _ _ ih | moreMembers _ _ ih =>
    obtain ⟨blanks, b, bs, blank, rfl, starts⟩ := ih
    exact ⟨blanks, b, _, blank, List.append_assoc _ _ _, starts⟩
  | member blank => exact ⟨_, _, _, blank, rfl, rfl⟩

theorem skipSpaces_of_startsValue {b : UInt8} (starts : startsValue b = true) (bs : List UInt8) :
    skipSpaces (b :: bs) = b :: bs := by
  rw [startsValue, Bool.and_eq_true, Bool.not_eq_true'] at starts
  exact skipSpaces_of_not starts.1 bs

theorem readValue_skipSpaces (fuel : Nat) (bs : List UInt8) :
    readValue fuel (skipSpaces bs) = readValue fuel bs := by
  cases fuel with
  | zero => rw [readValue, readValue]
  | succ fuel =>
    rw [readValue.eq_def, readValue.eq_def]
    simp only [skipSpaces_skipSpaces]

theorem readItems_skipSpaces (fuel : Nat) (bs : List UInt8) :
    readItems fuel (skipSpaces bs) = readItems fuel bs := by
  cases fuel with
  | zero => rw [readItems, readItems]
  | succ fuel => rw [readItems, readItems, readValue_skipSpaces]

theorem readMembers_skipSpaces (fuel : Nat) (bs : List UInt8) :
    readMembers fuel (skipSpaces bs) = readMembers fuel bs := by
  cases fuel with
  | zero => rw [readMembers, readMembers]
  | succ fuel => rw [readMembers, readMembers, skipSpaces_skipSpaces]

theorem readValue_of_startsNumber {b : UInt8} (starts : startsNumber b = true)
    (fuel : Nat) (bs : List UInt8) : readValue (fuel + 1) (b :: bs) = readNumber (b :: bs) := by
  have other {d : UInt8} (no : startsNumber d = false) : b ≠ d := by
    rintro rfl
    cases starts.symm.trans no
  rw [readValue.eq_def]
  simp only [skipSpaces_of_startsValue (startsValue_of_startsNumber starts)]
  split
  · next heq => exact absurd (List.cons.inj heq).1 (other (by decide))
  · next heq => exact absurd (List.cons.inj heq).1 (other (by decide))
  · next heq => exact absurd (List.cons.inj heq).1 (other (by decide))
  · next heq => exact absurd (List.cons.inj heq).1 (other (by decide))
  · next heq => exact absurd (List.cons.inj heq).1 (other (by decide))
  · next heq => exact absurd (List.cons.inj heq).1 (other (by decide))
  · rfl

/-- An array with an item is not read as the empty one. -/
theorem readValue_bracket {before : List UInt8} (blank : AreBlanks before) {b : UInt8}
    (starts : startsValue b = true) (fuel : Nat) (bs : List UInt8) :
    readValue (fuel + 1) (0x5B :: (before ++ b :: bs)) =
      (readItems fuel (before ++ b :: bs)).map fun (rs, rest) => (.array rs, rest) := by
  have first : skipSpaces (before ++ b :: bs) = b :: bs := by
    rw [skipSpaces_append blank, skipSpaces_of_startsValue starts]
  have noBracket : b ≠ 0x5D := by
    rw [startsValue, Bool.and_eq_true, bne_iff_ne] at starts
    exact starts.2
  rw [readValue.eq_def, ← readItems_skipSpaces]
  simp only [skipSpaces_of_not (show isSpace 0x5B = false by decide), first]
  split
  · next heq => exact absurd (List.cons.inj heq).1 noBracket
  · rfl

/-- An object with a member is not read as the empty one. -/
theorem readValue_brace {before : List UInt8} (blank : AreBlanks before) (fuel : Nat)
    (bs : List UInt8) : readValue (fuel + 1) (0x7B :: (before ++ 0x22 :: bs)) =
      (readMembers fuel (before ++ 0x22 :: bs)).map fun (ms, rest) => (.object ms, rest) := by
  have first : skipSpaces (before ++ 0x22 :: bs) = 0x22 :: bs := by
    rw [skipSpaces_append blank, skipSpaces_of_not (show isSpace 0x22 = false by decide)]
  rw [readValue.eq_def, ← readMembers_skipSpaces]
  simp only [skipSpaces_of_not (show isSpace 0x7B = false by decide), first]
  split
  · next heq => exact absurd (List.cons.inj heq).1 (by decide)
  · rfl

/-- What `readMembers` does after it has read the member `m`. -/
def membersAfter (m : List Piece × Raw) (fuel : Nat) (after : List UInt8) :
    Option (List (List Piece × Raw) × List UInt8) :=
  match skipSpaces after with
  | 0x7D :: rest => some ([m], rest)
  | 0x2C :: rest => (readMembers fuel rest).map fun (ms, rest) => (m :: ms, rest)
  | _ => none

/-- `p.IsRead bs`: with fuel for the length of `bs`, the reader of `p` (`readValue`, `readItems`
or `readMembers`) takes `bs` to `p` and leaves whatever follows. -/
def Phrase.IsRead (bs : List UInt8) : Phrase → Prop
  | value r => ∀ fuel rest, EndsNumber rest → 2 * bs.length ≤ fuel + 1 →
      readValue (fuel + 1) (bs ++ rest) = some (r, rest)
  | element r => ∀ fuel rest, EndsNumber rest → 2 * bs.length ≤ fuel →
      ∃ after, readValue fuel (bs ++ rest) = some (r, after) ∧ skipSpaces after = skipSpaces rest
  | items rs => ∀ fuel rest, 2 * bs.length < fuel →
      readItems fuel (bs ++ 0x5D :: rest) = some (rs, rest)
  | member name r => ∀ fuel rest, EndsNumber rest → 2 * bs.length ≤ fuel →
      readMembers (fuel + 1) (bs ++ rest) = membersAfter (name, r) fuel rest
  | members ms => ∀ fuel rest, 2 * bs.length < fuel →
      readMembers fuel (bs ++ 0x7D :: rest) = some (ms, rest)

theorem endsNumber_append {blanks rest : List UInt8} (blank : AreBlanks blanks)
    (ends : EndsNumber rest) : EndsNumber (blanks ++ rest) := by
  cases blanks with
  | nil => exact ends
  | cons b blanks =>
    intro b' first
    cases first
    have space := blank b List.mem_cons_self
    simp only [isSpace, Bool.or_eq_true, beq_iff_eq] at space
    rcases space with ((rfl | rfl) | rfl) | rfl <;> decide

namespace Phrase.IsRead

theorem number {n : Numeral} {bs : List UInt8} (spelled : SpellsNumber n bs) :
    (value (.number n)).IsRead bs := by
  intro fuel rest ends _
  obtain ⟨b, bs, rfl, starts⟩ := spelled.exists_head
  rw [List.cons_append, readValue_of_startsNumber starts, ← List.cons_append]
  exact readNumber_of_spells spelled ends

theorem string {ps : List Piece} {bs : List UInt8} (spelled : SpellsString ps bs) :
    (value (.string ps)).IsRead (0x22 :: (bs ++ [0x22])) := by
  intro fuel rest _ _
  rw [List.cons_append, List.append_assoc, List.singleton_append, readValue.eq_def]
  simp only [skipSpaces_of_not (show isSpace 0x22 = false by decide),
    readString_of_spells spelled, Option.map_some]

theorem emptyArray {bs : List UInt8} (blank : AreBlanks bs) :
    (value (.array [])).IsRead (0x5B :: (bs ++ [0x5D])) := by
  intro fuel rest _ _
  rw [List.cons_append, List.append_assoc, List.singleton_append, readValue.eq_def]
  simp only [skipSpaces_of_not (show isSpace 0x5B = false by decide), skipSpaces_append blank,
    skipSpaces_of_not (show isSpace 0x5D = false by decide)]

theorem emptyObject {bs : List UInt8} (blank : AreBlanks bs) :
    (value (.object [])).IsRead (0x7B :: (bs ++ [0x7D])) := by
  intro fuel rest _ _
  rw [List.cons_append, List.append_assoc, List.singleton_append, readValue.eq_def]
  simp only [skipSpaces_of_not (show isSpace 0x7B = false by decide), skipSpaces_append blank,
    skipSpaces_of_not (show isSpace 0x7D = false by decide)]

theorem array {rs : List Raw} {bs : List UInt8} (spelled : Spells (.items rs) bs)
    (isRead : (items rs).IsRead bs) : (value (.array rs)).IsRead (0x5B :: (bs ++ [0x5D])) := by
  intro fuel rest _ enough
  rw [List.length_cons, List.length_append] at enough
  have read := isRead fuel rest (by omega)
  obtain ⟨blanks, b, bs', blank, rfl, starts⟩ := spelled.exists_first
  rw [List.append_assoc, List.cons_append] at read
  rw [List.cons_append, List.append_assoc, List.append_assoc, List.cons_append,
    readValue_bracket blank starts, List.singleton_append, read, Option.map_some]

theorem object {ms : List (List Piece × Raw)} {bs : List UInt8} (spelled : Spells (.members ms) bs)
    (isRead : (members ms).IsRead bs) : (value (.object ms)).IsRead (0x7B :: (bs ++ [0x7D])) := by
  intro fuel rest _ enough
  rw [List.length_cons, List.length_append] at enough
  have read := isRead fuel rest (by omega)
  obtain ⟨blanks, b, bs', blank, rfl, starts⟩ := spelled.exists_first
  obtain rfl : b = 0x22 := by rwa [Phrase.starts, beq_iff_eq] at starts
  rw [List.append_assoc, List.cons_append] at read
  rw [List.cons_append, List.append_assoc, List.append_assoc, List.cons_append,
    readValue_brace blank, List.singleton_append, read, Option.map_some]

theorem element {r : Raw} {before bs after : List UInt8} (blank : AreBlanks before)
    (spelled : Spells (.value r) bs) (isRead : (value r).IsRead bs) (blank' : AreBlanks after) :
    (Phrase.element r).IsRead (before ++ (bs ++ after)) := by
  intro fuel rest ends enough
  have some_byte : 0 < bs.length := by
    obtain ⟨blanks, b, bs', -, rfl, -⟩ := spelled.exists_first
    rw [List.length_append, List.length_cons]
    omega
  rw [List.length_append, List.length_append] at enough
  obtain ⟨fuel, rfl⟩ : ∃ f, fuel = f + 1 := ⟨fuel - 1, by omega⟩
  have read := isRead fuel (after ++ rest) (endsNumber_append blank' ends) (by omega)
  refine ⟨after ++ rest, ?_, skipSpaces_append blank' rest⟩
  rw [← readValue_skipSpaces, List.append_assoc, skipSpaces_append blank, readValue_skipSpaces,
    List.append_assoc, read]

theorem lastItem {r : Raw} {bs : List UInt8} (isRead : (Phrase.element r).IsRead bs) :
    (items [r]).IsRead bs := by
  intro fuel rest enough
  cases fuel with
  | zero => omega
  | succ fuel =>
    obtain ⟨after, read, left⟩ := isRead fuel (0x5D :: rest) (by rintro b ⟨⟩; decide) (by omega)
    rw [readItems, read]
    simp only [left, skipSpaces_of_not (show isSpace 0x5D = false by decide)]

theorem moreItems {r : Raw} {rs : List Raw} {bs cs : List UInt8}
    (isRead : (Phrase.element r).IsRead bs) (areRead : (items rs).IsRead cs) :
    (items (r :: rs)).IsRead (bs ++ 0x2C :: cs) := by
  intro fuel rest enough
  rw [List.length_append, List.length_cons] at enough
  cases fuel with
  | zero => omega
  | succ fuel =>
    obtain ⟨after, read, left⟩ := isRead fuel (0x2C :: (cs ++ 0x5D :: rest))
      (by rintro b ⟨⟩; decide) (by omega)
    have others := areRead fuel rest (by omega)
    rw [List.append_assoc, List.cons_append, readItems, read]
    simp only [left, skipSpaces_of_not (show isSpace 0x2C = false by decide), others,
      Option.map_some]

theorem member {name : List Piece} {r : Raw} {before bs after cs : List UInt8}
    (blank : AreBlanks before) (spelled : SpellsString name bs) (blank' : AreBlanks after)
    (isRead : (Phrase.element r).IsRead cs) :
    (Phrase.member name r).IsRead (before ++ 0x22 :: (bs ++ 0x22 :: (after ++ 0x3A :: cs))) := by
  intro fuel rest ends enough
  simp only [List.length_append, List.length_cons] at enough
  obtain ⟨left, read, same⟩ := isRead fuel rest ends (by omega)
  have text : before ++ 0x22 :: (bs ++ 0x22 :: (after ++ 0x3A :: cs)) ++ rest =
      before ++ 0x22 :: (bs ++ 0x22 :: (after ++ 0x3A :: (cs ++ rest))) := by simp
  rw [text, readMembers, skipSpaces_append blank]
  simp only [skipSpaces_of_not (show isSpace 0x22 = false by decide),
    readString_of_spells spelled, skipSpaces_append blank',
    skipSpaces_of_not (show isSpace 0x3A = false by decide), read, same]
  rfl

theorem lastMember {name : List Piece} {r : Raw} {bs : List UInt8}
    (isRead : (Phrase.member name r).IsRead bs) : (members [(name, r)]).IsRead bs := by
  intro fuel rest enough
  cases fuel with
  | zero => omega
  | succ fuel =>
    rw [isRead fuel (0x7D :: rest) (by rintro b ⟨⟩; decide) (by omega)]
    rfl

theorem moreMembers {name : List Piece} {r : Raw} {ms : List (List Piece × Raw)}
    {bs cs : List UInt8} (isRead : (Phrase.member name r).IsRead bs)
    (areRead : (members ms).IsRead cs) :
    (members ((name, r) :: ms)).IsRead (bs ++ 0x2C :: cs) := by
  intro fuel rest enough
  rw [List.length_append, List.length_cons] at enough
  cases fuel with
  | zero => omega
  | succ fuel =>
    have others := areRead fuel rest (by omega)
    rw [List.append_assoc, List.cons_append,
      isRead fuel _ (by rintro b ⟨⟩; decide) (by omega), membersAfter]
    simp only [skipSpaces_of_not (show isSpace 0x2C = false by decide), others, Option.map_some]

end Phrase.IsRead

theorem isRead_of_spells {p : Phrase} {bs : List UInt8} (spelled : Spells p bs) : p.IsRead bs := by
  induction spelled with
  | null | yes | no =>
    intro fuel rest _ _
    rfl
  | number spelled => exact .number spelled
  | string spelled => exact .string spelled
  | emptyArray blank => exact .emptyArray blank
  | array spelled isRead => exact .array spelled isRead
  | emptyObject blank => exact .emptyObject blank
  | object spelled isRead => exact .object spelled isRead
  | element blank spelled blank' isRead => exact .element blank spelled isRead blank'
  | lastItem _ isRead => exact .lastItem isRead
  | moreItems _ _ isRead areRead => exact .moreItems isRead areRead
  | member blank spelled blank' _ isRead => exact .member blank spelled blank' isRead
  | lastMember _ isRead => exact .lastMember isRead
  | moreMembers _ _ isRead areRead => exact .moreMembers isRead areRead

/-! ### What is read is spelled -/

/-- What `readValue` takes from the front of a text is blanks and a text of the value. -/
def ReadsValues (fuel : Nat) : Prop := ∀ bs r rest, readValue fuel bs = some (r, rest) →
  ∃ blanks text, bs = blanks ++ (text ++ rest) ∧ AreBlanks blanks ∧ Spells (.value r) text

def ReadsItems (fuel : Nat) : Prop := ∀ bs rs rest, readItems fuel bs = some (rs, rest) →
  ∃ text, bs = text ++ 0x5D :: rest ∧ Spells (.items rs) text

def ReadsMembers (fuel : Nat) : Prop := ∀ bs ms rest, readMembers fuel bs = some (ms, rest) →
  ∃ text, bs = text ++ 0x7D :: rest ∧ Spells (.members ms) text

theorem readsValues_succ {fuel : Nat} (items : ReadsItems fuel) (members : ReadsMembers fuel) :
    ReadsValues (fuel + 1) := by
  intro bs r rest read
  obtain ⟨blanks, blank, split⟩ := exists_blanks bs
  rw [split]
  suffices spelled : ∃ text, skipSpaces bs = text ++ rest ∧ Spells (.value r) text by
    obtain ⟨text, same, spelled⟩ := spelled
    exact ⟨blanks, text, by rw [same], blank, spelled⟩
  clear split
  rw [readValue.eq_def] at read
  simp only at read
  split at read
  · next same =>
    cases read
    exact ⟨_, same, .null⟩
  · next same =>
    cases read
    exact ⟨_, same, .yes⟩
  · next same =>
    cases read
    exact ⟨_, same, .no⟩
  · next same =>
    obtain ⟨⟨ps, after⟩, string, pair⟩ := Option.map_eq_some_iff.mp read
    cases pair
    obtain ⟨text, rfl, spelled⟩ := exists_spells_of_readString string
    exact ⟨_, by rw [same]; simp, .string spelled⟩
  · next after same =>
    obtain ⟨blanks, blank, split⟩ := exists_blanks after
    split at read
    · next bracket =>
      cases read
      rw [bracket] at split
      exact ⟨_, by rw [same, split]; simp, .emptyArray blank⟩
    · rw [readItems_skipSpaces] at read
      obtain ⟨⟨rs, after⟩, list, pair⟩ := Option.map_eq_some_iff.mp read
      cases pair
      obtain ⟨text, rfl, spelled⟩ := items _ _ _ list
      exact ⟨_, by rw [same]; simp, .array spelled⟩
  · next after same =>
    obtain ⟨blanks, blank, split⟩ := exists_blanks after
    split at read
    · next brace =>
      cases read
      rw [brace] at split
      exact ⟨_, by rw [same, split]; simp, .emptyObject blank⟩
    · rw [readMembers_skipSpaces] at read
      obtain ⟨⟨ms, after⟩, list, pair⟩ := Option.map_eq_some_iff.mp read
      cases pair
      obtain ⟨text, rfl, spelled⟩ := members _ _ _ list
      exact ⟨_, by rw [same]; simp, .object spelled⟩
  · obtain ⟨n, text, same, spelled, rfl⟩ := exists_spells_of_readNumber read
    exact ⟨text, same, .number spelled⟩

theorem readsItems_succ {fuel : Nat} (values : ReadsValues fuel) (items : ReadsItems fuel) :
    ReadsItems (fuel + 1) := by
  intro bs rs rest read
  rw [readItems] at read
  split at read
  · cases read
  · next r after value =>
    obtain ⟨before, text, rfl, blank, spelled⟩ := values _ _ _ value
    obtain ⟨blanks, blank', split⟩ := exists_blanks after
    have element := Spells.element blank spelled blank'
    split at read
    · next bracket =>
      cases read
      rw [bracket] at split
      exact ⟨_, by rw [split]; simp, .lastItem element⟩
    · next comma =>
      obtain ⟨⟨rs, after⟩, list, pair⟩ := Option.map_eq_some_iff.mp read
      cases pair
      obtain ⟨others, rfl, spelled⟩ := items _ _ _ list
      rw [comma] at split
      exact ⟨_, by rw [split]; simp, .moreItems element spelled⟩
    · cases read

theorem exists_member_of_readMembers {fuel : Nat} (values : ReadsValues fuel)
    {bs rest : List UInt8} {ms : List (List Piece × Raw)}
    (read : readMembers (fuel + 1) bs = some (ms, rest)) :
    ∃ name r text after, bs = text ++ after ∧ Spells (.member name r) text ∧
      skipSpaces after = after ∧ membersAfter (name, r) fuel after = some (ms, rest) := by
  obtain ⟨before, blank, split⟩ := exists_blanks bs
  rw [readMembers] at read
  split at read
  · next quote =>
    rw [quote] at split
    split at read
    · cases read
    · next name afterName string =>
      obtain ⟨text, rfl, spelled⟩ := exists_spells_of_readString string
      obtain ⟨between, blank', split'⟩ := exists_blanks afterName
      split at read
      · next colon =>
        rw [colon] at split'
        split at read
        · cases read
        · next r after value =>
          obtain ⟨padding, value, rfl, pads, spells⟩ := values _ _ _ value
          obtain ⟨blanks, blank'', split''⟩ := exists_blanks after
          have member := Spells.member blank spelled blank' (.element pads spells blank'')
          have text := split.trans (by rw [split', split''])
          refine ⟨name, r, _, skipSpaces after, text.trans (by simp), member,
            skipSpaces_skipSpaces after, ?_⟩
          rw [membersAfter, skipSpaces_skipSpaces]
          exact read
      · cases read
  · cases read

theorem readsMembers_succ {fuel : Nat} (values : ReadsValues fuel)
    (members : ReadsMembers fuel) : ReadsMembers (fuel + 1) := by
  intro bs ms rest read
  obtain ⟨name, r, text, after, rfl, member, trimmed, read⟩ :=
    exists_member_of_readMembers values read
  rw [membersAfter, trimmed] at read
  split at read
  · cases read
    exact ⟨text, rfl, .lastMember member⟩
  · obtain ⟨⟨ms, after⟩, list, pair⟩ := Option.map_eq_some_iff.mp read
    cases pair
    obtain ⟨others, rfl, spells⟩ := members _ _ _ list
    exact ⟨_, by simp, .moreMembers member spells⟩
  · cases read

theorem reads (fuel : Nat) : ReadsValues fuel ∧ ReadsItems fuel ∧ ReadsMembers fuel := by
  induction fuel with
  | zero =>
    refine ⟨fun bs r rest read => ?_, fun bs rs rest read => ?_, fun bs ms rest read => ?_⟩
    · rw [readValue] at read
      cases read
    · rw [readItems] at read
      cases read
    · rw [readMembers] at read
      cases read
  | succ fuel ih =>
    obtain ⟨values, items, members⟩ := ih
    exact ⟨readsValues_succ items members, readsItems_succ values items,
      readsMembers_succ values members⟩

/-- The reader takes the JSON texts, each to its tree, and nothing else. -/
theorem read?_eq_some_iff {bs : List UInt8} {r : Raw} : read? bs = some r ↔ IsText r bs := by
  constructor
  · intro read
    unfold read? at read
    split at read
    · next after value =>
      obtain ⟨nothing, same⟩ := Option.ite_none_right_eq_some.mp read
      cases same
      obtain ⟨before, text, split, blank, spelled⟩ := (reads _).1 _ _ _ value
      obtain ⟨blanks, blank', split'⟩ := exists_blanks after
      rw [List.isEmpty_iff.mp nothing, List.append_nil] at split'
      rw [split, split']
      exact .element blank spelled blank'
    · cases read
  · intro text
    obtain ⟨after, value, left⟩ := isRead_of_spells text (2 * bs.length + 2) [] endsNumber_nil
      (by omega)
    rw [List.append_nil] at value
    rw [read?, value]
    simp only [left]
    rfl

end EvictionGate.Json
