/-!
# UTF-8

Text travels as bytes. `Text.bytes` writes a string in UTF-8, `Text.ofBytes?`
reads one and refuses everything RFC 3629 refuses: overlong forms, surrogates,
code points past `10FFFF`, stray and missing continuation bytes.

Main statement: `ofBytes?_bytes`, what is written reads back.
-/

namespace EvictionGate.Text

/-- The UTF-8 bytes of a string. -/
def bytes (s : String) : List UInt8 :=
  s.toList.flatMap String.utf8EncodeChar

/-- A byte that continues a character. -/
def isTail (b : UInt8) : Bool :=
  0x80 ≤ b.toNat && b.toNat ≤ 0xBF

/-- The character of a two byte form. -/
def char2? (a b : UInt8) : Option Char :=
  if isTail b && 0xC2 ≤ a.toNat && a.toNat ≤ 0xDF then
    some (Char.ofNat (a.toNat % 32 * 64 + b.toNat % 64))
  else none

/-- The character of a three byte form, neither overlong nor a surrogate. -/
def char3? (a b c : UInt8) : Option Char :=
  let code := a.toNat % 16 * 4096 + b.toNat % 64 * 64 + c.toNat % 64
  if isTail b && isTail c && 0xE0 ≤ a.toNat && a.toNat ≤ 0xEF
      && 0x800 ≤ code && !(0xD800 ≤ code && code ≤ 0xDFFF) then
    some (Char.ofNat code)
  else none

/-- The character of a four byte form, neither overlong nor past the last code point. -/
def char4? (a b c d : UInt8) : Option Char :=
  let code := a.toNat % 8 * 262144 + b.toNat % 64 * 4096 + c.toNat % 64 * 64 + d.toNat % 64
  if isTail b && isTail c && isTail d && 0xF0 ≤ a.toNat && a.toNat ≤ 0xF4
      && 0x10000 ≤ code && code ≤ 0x10FFFF then
    some (Char.ofNat code)
  else none

/-- The characters of a UTF-8 byte sequence. -/
def chars? : List UInt8 → Option (List Char)
  | [] => some []
  | a :: r1 =>
    if a.toNat ≤ 0x7F then (chars? r1).map (Char.ofNat a.toNat :: ·)
    else match r1 with
      | [] => none
      | b :: r2 =>
        match char2? a b with
        | some x => (chars? r2).map (x :: ·)
        | none =>
          match r2 with
          | [] => none
          | c :: r3 =>
            match char3? a b c with
            | some x => (chars? r3).map (x :: ·)
            | none =>
              match r3 with
              | [] => none
              | d :: r4 =>
                match char4? a b c d with
                | some x => (chars? r4).map (x :: ·)
                | none => none

/-- The string written by a UTF-8 byte sequence. -/
def ofBytes? (bs : List UInt8) : Option String :=
  (chars? bs).map String.ofList

/-! ## Reading back -/

theorem toNat_lt_or (c : Char) : c.toNat < 0xD800 ∨ 0xDFFF < c.toNat ∧ c.toNat < 0x110000 :=
  c.valid

theorem ofNat_eq_of_eq_toNat {c : Char} {n : Nat} (h : n = c.toNat) : Char.ofNat n = c := by
  rw [h, Char.ofNat_toNat]

theorem char2?_of_char {c : Char} (low : ¬ c.toNat ≤ 0x7F) (high : c.toNat ≤ 0x7FF) :
    char2? (UInt8.ofNat (c.toNat / 64 % 32 + 192)) (UInt8.ofNat (c.toNat % 64 + 128)) =
      some c := by
  have lead : (c.toNat / 64 % 32 + 192) % 256 = c.toNat / 64 % 32 + 192 := by omega
  have last : (c.toNat % 64 + 128) % 256 = c.toNat % 64 + 128 := by omega
  simp only [char2?, isTail, UInt8.toNat_ofNat', Nat.reducePow, lead, last]
  rw [if_pos (by simp; omega)]
  exact congrArg some (ofNat_eq_of_eq_toNat (by omega))

theorem char3?_of_char {c : Char} (low : ¬ c.toNat ≤ 0x7FF) (high : c.toNat ≤ 0xFFFF) :
    char3? (UInt8.ofNat (c.toNat / 4096 % 16 + 224)) (UInt8.ofNat (c.toNat / 64 % 64 + 128))
      (UInt8.ofNat (c.toNat % 64 + 128)) = some c := by
  have valid := toNat_lt_or c
  have lead : (c.toNat / 4096 % 16 + 224) % 256 = c.toNat / 4096 % 16 + 224 := by omega
  have mid : (c.toNat / 64 % 64 + 128) % 256 = c.toNat / 64 % 64 + 128 := by omega
  have last : (c.toNat % 64 + 128) % 256 = c.toNat % 64 + 128 := by omega
  simp only [char3?, isTail, UInt8.toNat_ofNat', Nat.reducePow, lead, mid, last]
  rw [if_pos (by simp; omega)]
  exact congrArg some (ofNat_eq_of_eq_toNat (by omega))

theorem char4?_of_char {c : Char} (low : ¬ c.toNat ≤ 0xFFFF) :
    char4? (UInt8.ofNat (c.toNat / 262144 % 8 + 240)) (UInt8.ofNat (c.toNat / 4096 % 64 + 128))
      (UInt8.ofNat (c.toNat / 64 % 64 + 128)) (UInt8.ofNat (c.toNat % 64 + 128)) = some c := by
  have valid := toNat_lt_or c
  have lead : (c.toNat / 262144 % 8 + 240) % 256 = c.toNat / 262144 % 8 + 240 := by omega
  have mid1 : (c.toNat / 4096 % 64 + 128) % 256 = c.toNat / 4096 % 64 + 128 := by omega
  have mid2 : (c.toNat / 64 % 64 + 128) % 256 = c.toNat / 64 % 64 + 128 := by omega
  have last : (c.toNat % 64 + 128) % 256 = c.toNat % 64 + 128 := by omega
  simp only [char4?, isTail, UInt8.toNat_ofNat', Nat.reducePow, lead, mid1, mid2, last]
  rw [if_pos (by simp; omega)]
  exact congrArg some (ofNat_eq_of_eq_toNat (by omega))

theorem char2?_of_lead {n : Nat} (b : UInt8) (low : 0xE0 ≤ n) (high : n < 256) :
    char2? (UInt8.ofNat n) b = none := by
  have small : n % 256 = n := Nat.mod_eq_of_lt high
  simp only [char2?, UInt8.toNat_ofNat', Nat.reducePow, small]
  exact if_neg (by simp; omega)

theorem char3?_of_lead {n : Nat} (b c : UInt8) (low : 0xF0 ≤ n) (high : n < 256) :
    char3? (UInt8.ofNat n) b c = none := by
  have small : n % 256 = n := Nat.mod_eq_of_lt high
  simp only [char3?, UInt8.toNat_ofNat', Nat.reducePow, small]
  exact if_neg (by simp; omega)

/-- One written character reads back, whatever follows it. -/
theorem chars?_utf8EncodeChar_append (c : Char) (rest : List UInt8) :
    chars? (String.utf8EncodeChar c ++ rest) = (chars? rest).map (c :: ·) := by
  have valid := toNat_lt_or c
  have code : c.val.toNat = c.toNat := rfl
  simp only [String.utf8EncodeChar, code]
  split
  · next h =>
    have small : c.toNat % 256 = c.toNat := Nat.mod_eq_of_lt (by omega)
    rw [List.cons_append, List.nil_append, chars?.eq_def]
    simp only [UInt8.toNat_ofNat', Nat.reducePow, small]
    rw [if_pos h, Char.ofNat_toNat]
  split
  · next h1 h2 =>
    have lead : (c.toNat / 64 % 32 + 192) % 256 = c.toNat / 64 % 32 + 192 := by omega
    rw [List.cons_append, List.cons_append, List.nil_append, chars?.eq_def]
    simp only [UInt8.toNat_ofNat', Nat.reducePow, lead, char2?_of_char h1 h2]
    rw [if_neg (by omega)]
  split
  · next h2 h3 =>
    have lead : (c.toNat / 4096 % 16 + 224) % 256 = c.toNat / 4096 % 16 + 224 := by omega
    rw [List.cons_append, List.cons_append, List.cons_append, List.nil_append, chars?.eq_def]
    simp only [UInt8.toNat_ofNat', Nat.reducePow, lead, char3?_of_char h2 h3,
      char2?_of_lead _ (show 0xE0 ≤ c.toNat / 4096 % 16 + 224 by omega) (by omega)]
    rw [if_neg (by omega)]
  · next h3 =>
    have lead : (c.toNat / 262144 % 8 + 240) % 256 = c.toNat / 262144 % 8 + 240 := by omega
    rw [List.cons_append, List.cons_append, List.cons_append, List.cons_append, List.nil_append,
      chars?.eq_def]
    simp only [UInt8.toNat_ofNat', Nat.reducePow, lead, char4?_of_char h3,
      char2?_of_lead _ (show 0xE0 ≤ c.toNat / 262144 % 8 + 240 by omega) (by omega),
      char3?_of_lead _ _ (show 0xF0 ≤ c.toNat / 262144 % 8 + 240 by omega) (by omega)]
    rw [if_neg (by omega)]

theorem chars?_flatMap (cs : List Char) : chars? (cs.flatMap String.utf8EncodeChar) = some cs := by
  induction cs with
  | nil => rfl
  | cons c cs ih => rw [List.flatMap_cons, chars?_utf8EncodeChar_append, ih, Option.map_some]

/-- Every string reads back from its bytes. -/
theorem ofBytes?_bytes (s : String) : ofBytes? (bytes s) = some s := by
  rw [ofBytes?, bytes, chars?_flatMap, Option.map_some, String.ofList_toList]

/-- The characters of a string are those that its bytes give. Closed strings are evaluated fastest
in this way. -/
theorem toList_eq_chars? (s : String) : s.toList = (chars? s.toByteArray.data.toList).getD [] := by
  have encoded : s.toByteArray.data.toList = s.toList.flatMap String.utf8EncodeChar := by
    rw [← String.utf8Encode_toList, List.utf8Encode, List.data_toByteArray]
  rw [encoded, chars?_flatMap, Option.getD_some]

end EvictionGate.Text
