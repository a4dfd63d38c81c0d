import EvictionGate.Proofs.Json.Numeral

/-!
# Values read back

The compact text of a value is JSON, and reading it gives the tree of the value: every name
and every string in its pieces, every number as it is written, and nothing else.

Results:
1. `pieceText?_stringPieces`: a string in its pieces is the string.
2. `Value.isText_text`: the text of a value is a JSON text, of the tree of the value.
-/

namespace EvictionGate.Json

/-! ## Strings -/

/-- A control character for which there is no escape of one letter. -/
def isBareControl (c : Char) : Bool :=
  c.toNat < 0x20 && c.toNat != 8 && c.toNat != 9 && c.toNat != 10 && c.toNat != 12 &&
    c.toNat != 13

/-- The pieces that a printed character is read as: `Piece.unit` if it `isBareControl`, and else
its bytes. -/
def charPieces (c : Char) : List Piece :=
  if isBareControl c then [.unit c.toNat] else (String.utf8EncodeChar c).map .byte

/-- The pieces that a printed string is read as. -/
def stringPieces (s : String) : List Piece := s.toList.flatMap charPieces

theorem pieceBytes_bytes (bs : List UInt8) (ps : List Piece) :
    pieceBytes (bs.map .byte ++ ps) = (pieceBytes ps).map (bs ++ ·) := by
  induction bs with
  | nil => simp
  | cons b bs ih => simp [pieceBytes, ih, Function.comp_def]

theorem pieceBytes_charPieces (c : Char) (ps : List Piece) :
    pieceBytes (charPieces c ++ ps) = (pieceBytes ps).map (String.utf8EncodeChar c ++ ·) := by
  unfold charPieces
  split
  · next bare =>
    have low : c.toNat < 0x20 := by
      simp only [isBareControl, Bool.and_eq_true, decide_eq_true_eq] at bare
      omega
    rw [List.singleton_append, pieceBytes.eq_def]
    simp only [Char.ofNat_toNat]
    rw [if_neg (by simp; omega), if_neg (by simp; omega)]
  · exact pieceBytes_bytes _ ps

/-- A string in its pieces is the string. -/
theorem pieceText?_stringPieces (s : String) : pieceText? (stringPieces s) = some s := by
  have all (cs : List Char) :
      pieceBytes (cs.flatMap charPieces) = some (cs.flatMap String.utf8EncodeChar) := by
    induction cs with
    | nil => rfl
    | cons c cs ih =>
      rw [List.flatMap_cons, pieceBytes_charPieces, ih, List.flatMap_cons, Option.map_some]
  rw [pieceText?, stringPieces, all, Option.bind_some]
  exact Text.ofBytes?_bytes s

theorem spellsString_bytes {bs : List UInt8} (itself : ∀ b ∈ bs, StandsForItself b) :
    SpellsString (bs.map .byte) bs := by
  induction bs with
  | nil => exact .nil
  | cons b bs ih =>
    exact .itself (itself b List.mem_cons_self) (ih fun b' mem =>
      itself b' (List.mem_cons_of_mem _ mem))

theorem high_of_mem_utf8EncodeChar {c : Char} (high : ¬ c.toNat ≤ 0x7F) :
    ∀ b ∈ String.utf8EncodeChar c, 0x80 ≤ b.toNat := by
  have code : c.val.toNat = c.toNat := rfl
  have valid := Text.toNat_lt_or c
  simp only [String.utf8EncodeChar, code, if_neg high]
  split
  · simp only [List.forall_mem_cons, UInt8.toNat_ofNat', Nat.reducePow]
    exact ⟨by omega, by omega, fun _ h => nomatch h⟩
  split
  · simp only [List.forall_mem_cons, UInt8.toNat_ofNat', Nat.reducePow]
    exact ⟨by omega, by omega, by omega, fun _ h => nomatch h⟩
  · simp only [List.forall_mem_cons, UInt8.toNat_ofNat', Nat.reducePow]
    exact ⟨by omega, by omega, by omega, by omega, fun _ h => nomatch h⟩

theorem standsForItself_of_high {b : UInt8} (high : 0x80 ≤ b.toNat) : StandsForItself b where
  printable := by
    rw [UInt8.lt_iff_toNat_lt]
    simp
    omega
  noQuote := by
    rintro rfl
    simp at high
  noBackslash := by
    rintro rfl
    simp at high

theorem standsForItself_of_ascii {c : Char} (ascii : c.toNat ≤ 0x7F) (printable : ¬ c.toNat < 0x20)
    (noQuote : c ≠ '"') (noBackslash : c ≠ '\\') : StandsForItself (UInt8.ofNat c.toNat) := by
  have small : c.toNat % 256 = c.toNat := Nat.mod_eq_of_lt (by omega)
  have other {d : Char} {b : UInt8} (ne : c ≠ d) (code : b.toNat = d.toNat) :
      UInt8.ofNat c.toNat ≠ b := by
    intro same
    refine ne (Char.toNat_inj.mp ?_)
    rw [← code, ← same, UInt8.toNat_ofNat']
    exact small.symm
  refine ⟨?_, other noQuote rfl, other noBackslash rfl⟩
  rw [UInt8.lt_iff_toNat_lt]
  simp only [UInt8.toNat_ofNat', Nat.reducePow, small]
  exact printable

theorem hexDigit?_hexDigit : ∀ n < 16, hexDigit? (UInt8.ofNat (hexDigit n).toNat) = some n := by
  decide

theorem hexDigit_ascii : ∀ n < 16, (hexDigit n).toNat ≤ 0x7F := by decide

theorem hex4?_hexDigit {a b : Nat} (ha : a < 16) (hb : b < 16) :
    hex4? 0x30 0x30 (UInt8.ofNat (hexDigit a).toNat) (UInt8.ofNat (hexDigit b).toNat) =
      some (a * 16 + b) := by
  simp only [hex4?, hexDigit?_hexDigit a ha, hexDigit?_hexDigit b hb]
  simp [hexDigit?]

/-- A character in a string is a text of its pieces. -/
theorem spellsString_escapeChar (c : Char) :
    SpellsString (charPieces c) (charBytes (escapeChar c)) := by
  have letter {d l : Char} (same : c = d) (plain : charPieces d = [.byte (UInt8.ofNat d.toNat)])
      (ascii : l.toNat ≤ 0x7F)
      (meaning : escape? (UInt8.ofNat l.toNat) = some (UInt8.ofNat d.toNat)) :
      SpellsString (charPieces c) (charBytes ['\\', l]) := by
    rw [same, charBytes_cons_of_ascii (by decide), charBytes_cons_of_ascii ascii, charBytes_nil,
      plain]
    exact .letter meaning .nil
  have control {n : Nat} {d : Char} (same : d.toNat = n) : d = Char.ofNat n := by
    rw [← same, Char.ofNat_toNat]
  unfold escapeChar
  split
  · next quote =>
    exact letter quote (by decide) (by decide) (by decide)
  split
  · next backslash =>
    exact letter backslash (by decide) (by decide) (by decide)
  split
  · next code =>
    exact letter (control code) (by decide) (by decide) (by decide)
  split
  · next code =>
    exact letter (control code) (by decide) (by decide) (by decide)
  split
  · next code =>
    exact letter (control code) (by decide) (by decide) (by decide)
  split
  · next code =>
    exact letter (control code) (by decide) (by decide) (by decide)
  split
  · next code =>
    exact letter (control code) (by decide) (by decide) (by decide)
  split
  · -- the only characters that are written as a code unit
    next n8 n9 n10 n12 n13 low =>
    have bare : isBareControl c = true := by
      simp [isBareControl, low, n8, n9, n10, n12, n13]
    have code := hex4?_hexDigit (a := c.toNat / 16) (b := c.toNat % 16) (by omega) (by omega)
    rw [Nat.div_add_mod' c.toNat 16] at code
    rw [charPieces, if_pos bare,
      charBytes_cons_of_ascii (by decide), charBytes_cons_of_ascii (by decide),
      charBytes_cons_of_ascii (by decide), charBytes_cons_of_ascii (by decide),
      charBytes_cons_of_ascii (hexDigit_ascii _ (by omega)),
      charBytes_cons_of_ascii (hexDigit_ascii _ (by omega)), charBytes_nil]
    exact .number code .nil
  · next noQuote noBackslash n8 n9 n10 n12 n13 high =>
    have plain : isBareControl c = false := by simp [isBareControl, high]
    rw [charBytes_cons, charBytes_nil, List.append_nil, charPieces, plain]
    refine spellsString_bytes fun b mem => ?_
    by_cases ascii : c.toNat ≤ 0x7F
    · have code : c.val.toNat = c.toNat := rfl
      rw [String.utf8EncodeChar, code, if_pos ascii, List.mem_singleton] at mem
      rw [mem]
      exact standsForItself_of_ascii ascii high noQuote noBackslash
    · exact standsForItself_of_high (high_of_mem_utf8EncodeChar ascii b mem)

/-- The text of a string stands between quotes and is a text of its pieces. -/
theorem exists_spells_stringChars (s : String) : ∃ body,
    charBytes (stringChars s) = 0x22 :: (body ++ [0x22]) ∧ SpellsString (stringPieces s) body := by
  have spelled (cs : List Char) :
      SpellsString (cs.flatMap charPieces) (charBytes (cs.flatMap escapeChar)) := by
    induction cs with
    | nil => exact .nil
    | cons c cs ih =>
      rw [List.flatMap_cons, List.flatMap_cons, charBytes_append]
      exact (spellsString_escapeChar c).append ih
  refine ⟨charBytes (s.toList.flatMap escapeChar), ?_, spelled s.toList⟩
  rw [stringChars, List.cons_append, charBytes_cons_of_ascii (by decide), charBytes_append]
  rfl

/-! ## Values -/

namespace Value

mutual

/-- The tree that the printed value is read as. -/
def raw : Value → Raw
  | .null => .null
  | .bool b => .bool b
  | .number n => .number n.numeral
  | .string s => .string (stringPieces s)
  | .array items => .array (rawItems items)
  | .object members => .object (rawMembers members)

/-- The trees of an array's items. -/
def rawItems : List Value → List Raw
  | [] => []
  | v :: vs => raw v :: rawItems vs

/-- The trees of an object's members. -/
def rawMembers : List (String × Value) → List (List Piece × Raw)
  | [] => []
  | (name, v) :: ms => (stringPieces name, raw v) :: rawMembers ms

end

theorem itemChars_cons_cons (v w : Value) (vs : List Value) :
    itemChars (v :: w :: vs) = chars v ++ ',' :: itemChars (w :: vs) := by
  rw [itemChars]
  exact List.cons_ne_nil _ _

theorem memberChars_cons_cons (name : String) (v : Value) (m : String × Value)
    (ms : List (String × Value)) : memberChars ((name, v) :: m :: ms) =
      (stringChars name ++ ':' :: chars v) ++ ',' :: memberChars (m :: ms) := by
  rw [memberChars]
  exact List.cons_ne_nil _ _

/-- A compact text has no blanks. -/
theorem spells_element {r : Raw} {bs : List UInt8} (spelled : Spells (.value r) bs) :
    Spells (.element r) bs := by
  have element := Spells.element areBlanks_nil spelled areBlanks_nil
  rwa [List.nil_append, List.append_nil] at element

theorem spells_member (name : String) {v : Value}
    (spelled : Spells (.value v.raw) (charBytes v.chars)) :
    Spells (.member (stringPieces name) v.raw)
      (charBytes (stringChars name ++ ':' :: chars v)) := by
  obtain ⟨body, bytes, string⟩ := exists_spells_stringChars name
  have member := Spells.member areBlanks_nil string areBlanks_nil (spells_element spelled)
  rw [charBytes_append, bytes, charBytes_cons_of_ascii (by decide)]
  simpa using member

theorem charBytes_enclosed {first last : Char} (ascii : first.toNat ≤ 0x7F)
    (ascii' : last.toNat ≤ 0x7F) (cs : List Char) : charBytes (first :: cs ++ [last]) =
      UInt8.ofNat first.toNat :: (charBytes cs ++ [UInt8.ofNat last.toNat]) := by
  rw [List.cons_append, charBytes_cons_of_ascii ascii, charBytes_append,
    charBytes_cons_of_ascii ascii', charBytes_nil]

mutual

/-- The text of a value is a text of its tree. -/
theorem spells_chars : ∀ v : Value, Spells (.value v.raw) (charBytes v.chars)
  | .null => .null
  | .bool true => .yes
  | .bool false => .no
  | .number n => .number n.spellsNumber
  | .string s => by
    obtain ⟨body, bytes, spelled⟩ := exists_spells_stringChars s
    rw [chars, raw, bytes]
    exact .string spelled
  | .array [] => .emptyArray areBlanks_nil
  | .array (v :: vs) => by
    rw [chars, raw, charBytes_enclosed (by decide) (by decide)]
    exact .array (spells_itemChars (v :: vs) (List.cons_ne_nil _ _))
  | .object [] => .emptyObject areBlanks_nil
  | .object (m :: ms) => by
    rw [chars, raw, charBytes_enclosed (by decide) (by decide)]
    exact .object (spells_memberChars (m :: ms) (List.cons_ne_nil _ _))

theorem spells_itemChars : ∀ vs : List Value, vs ≠ [] →
    Spells (.items (rawItems vs)) (charBytes (itemChars vs))
  | [], some_item => absurd rfl some_item
  | [v], _ => .lastItem (spells_element (spells_chars v))
  | v :: w :: vs, _ => by
    rw [itemChars_cons_cons, charBytes_append, charBytes_cons_of_ascii (by decide)]
    exact .moreItems (spells_element (spells_chars v))
      (spells_itemChars (w :: vs) (List.cons_ne_nil _ _))

theorem spells_memberChars : ∀ ms : List (String × Value), ms ≠ [] →
    Spells (.members (rawMembers ms)) (charBytes (memberChars ms))
  | [], some_member => absurd rfl some_member
  | [(name, v)], _ => .lastMember (spells_member name (spells_chars v))
  | (name, v) :: m :: ms, _ => by
    rw [memberChars_cons_cons, charBytes_append, charBytes_cons_of_ascii (by decide)]
    exact .moreMembers (spells_member name (spells_chars v))
      (spells_memberChars (m :: ms) (List.cons_ne_nil _ _))

end

/-- The text of a value is a JSON text, of the tree of the value. -/
theorem isText_text (v : Value) : IsText v.raw (Text.bytes v.text) := by
  have bytes : Text.bytes v.text = charBytes v.chars := by
    rw [Text.bytes, Value.text, String.toList_ofList]
    rfl
  rw [bytes]
  exact spells_element (spells_chars v)

/-- So it reads back. -/
theorem read?_text (v : Value) : read? (Text.bytes v.text) = some v.raw :=
  read?_eq_some_iff.mpr v.isText_text

end Value

end EvictionGate.Json
