import EvictionGate.SocketAddress
import Mathlib.Data.List.Forall2
import Mathlib.Data.Nat.Digits.Defs

/-!
# Texts of socket addresses

The grammar of socket addresses, and that an address is read from a text exactly if the grammar
gives it to the text. A reader goes from left to right and never takes a step back but at an IPv4
address inside an IPv6 one; that it finds what the grammar allows is because what follows a part
cannot belong to it.

Results:
1. `number_eq_some_iff`: what is read as a number.
2. `groups_sound`, `groups_complete`: what is read as groups of an IPv6 address.
3. `ofText?_eq_some_iff`: what is read as a socket address.
-/

namespace EvictionGate.SocketAddress

/-! ## The grammar -/

/-- `IsNumeral base cs n`: `cs` are digits of the base, at least one, and write `n`. -/
def IsNumeral (base : Nat) (cs : List Char) (n : Nat) : Prop :=
  cs ≠ [] ∧ ∃ ds, List.Forall₂ (fun c d => digit? base c = some d) cs ds ∧
    n = Nat.ofDigits base ds.reverse

/-- A decimal number up to 255, without leading zeros. -/
structure IsOctet (cs : List Char) (n : Nat) : Prop where
  numeral : IsNumeral 10 cs n
  length : cs.length ≤ 3
  bound : n ≤ 255
  lead : cs.head? = some '0' → cs.length = 1

/-- Four `IsOctet` texts, separated by dots. -/
inductive IsIpv4 : List Char → Ipv4 → Prop
  | intro {as bs cs ds : List Char} {a b c d : Nat} :
      IsOctet as a → IsOctet bs b → IsOctet cs c → IsOctet ds d →
      IsIpv4 (as ++ '.' :: (bs ++ '.' :: (cs ++ '.' :: ds))) ⟨a, b, c, d⟩

/-- One to four hexadecimal digits. -/
structure IsGroup (cs : List Char) (g : Nat) : Prop where
  numeral : IsNumeral 16 cs g
  length : cs.length ≤ 4

/-- `IsGroups four cs gs`: groups separated by colons. If `four`, an IPv4 address takes the place
of the last two. -/
inductive IsGroups : Bool → List Char → List Nat → Prop
  | group {cs : List Char} {g : Nat} : IsGroup cs g → IsGroups false cs [g]
  | ipv4 {cs : List Char} {ip : Ipv4} :
      IsIpv4 cs ip → IsGroups true cs [ip.a * 256 + ip.b, ip.c * 256 + ip.d]
  | cons {four : Bool} {cs ds : List Char} {g : Nat} {gs : List Nat} :
      IsGroup cs g → IsGroups four ds gs → IsGroups four (cs ++ ':' :: ds) (g :: gs)

/-- `IsGroups`, or nothing. -/
def AreGroups (four : Bool) (cs : List Char) (gs : List Nat) : Prop :=
  (cs = [] ∧ gs = []) ∨ IsGroups four cs gs

/-- An IPv6 address.

* `full`: eight groups.
* `shortened`: at most seven groups, and two colons in the place of the zeros that are left out.
  -/
inductive IsIpv6 : List Char → List Nat → Prop
  | full {four : Bool} {cs : List Char} {gs : List Nat} :
      IsGroups four cs gs → gs.length = 8 → IsIpv6 cs gs
  | shortened {four : Bool} {hs ts : List Char} {head tail : List Nat} :
      AreGroups false hs head → AreGroups four ts tail → head.length + tail.length ≤ 7 →
      IsIpv6 (hs ++ ':' :: ':' :: ts)
        (head ++ List.replicate (8 - head.length - tail.length) 0 ++ tail)

/-- A decimal number up to `limit`. -/
structure IsBounded (limit : Nat) (cs : List Char) (n : Nat) : Prop where
  numeral : IsNumeral 10 cs n
  bound : n ≤ limit

/-- `Writes cs a`: the text `cs` is one of the socket address `a`: an IPv4 address, or an IPv6
address in brackets with or without a zone, and then a port. -/
inductive Writes : List Char → SocketAddress → Prop
  | v4 {cs ps : List Char} {ip : Ipv4} {p : Nat} :
      IsIpv4 cs ip → IsBounded 65535 ps p → Writes (cs ++ ':' :: ps) (.v4 ip p)
  | v6 {cs ps : List Char} {gs : List Nat} {p : Nat} :
      IsIpv6 cs gs → IsBounded 65535 ps p →
      Writes ('[' :: (cs ++ ']' :: ':' :: ps)) (.v6 gs 0 p)
  | zoned {cs ss ps : List Char} {gs : List Nat} {s p : Nat} :
      IsIpv6 cs gs → IsBounded 4294967295 ss s → IsBounded 65535 ps p →
      Writes ('[' :: (cs ++ '%' :: (ss ++ ']' :: ':' :: ps))) (.v6 gs s p)

/-! ## Numbers -/

section

variable {base : Nat} {cs rest : List Char} {n : Nat}

/-- The text does not begin with a digit of the base. -/
def NoDigit (base : Nat) (rest : List Char) : Prop := ∀ c ∈ rest.head?, digit? base c = none

theorem digits_append {ds : List Nat}
    (spell : List.Forall₂ (fun c d => digit? base c = some d) cs ds) (ends : NoDigit base rest) :
    digits base (cs ++ rest) = (ds, rest) := by
  induction spell with
  | nil =>
    cases rest with
    | nil => rfl
    | cons c rest => simp [digits, ends c rfl]
  | cons first _ ih => simp [digits, first, ih]

theorem exists_of_digits (base : Nat) (cs : List Char) :
    ∃ text, cs = text ++ (digits base cs).2 ∧ NoDigit base (digits base cs).2 ∧
      List.Forall₂ (fun c d => digit? base c = some d) text (digits base cs).1 := by
  induction cs with
  | nil => exact ⟨[], rfl, nofun, .nil⟩
  | cons c cs ih =>
    obtain ⟨text, whole, ends, spell⟩ := ih
    unfold digits
    cases digit : digit? base c with
    | none => exact ⟨[], rfl, fun d mem => by cases mem; exact digit, .nil⟩
    | some d => exact ⟨c :: text, congrArg (c :: ·) whole, ends, .cons digit spell⟩

theorem foldl_eq_ofDigits (base : Nat) (ds : List Nat) :
    ds.foldl (fun n d => n * base + d) 0 = Nat.ofDigits base ds.reverse := by
  rw [Nat.ofDigits_eq_foldr, List.foldr_reverse]
  congr 1
  funext n d
  simp [mul_comm, add_comm]

theorem digit_lt {c : Char} {d : Nat} (digit : digit? base c = some d) : d < base := by
  obtain ⟨small, same⟩ := Option.ite_none_right_eq_some.mp digit
  exact Option.some.inj same ▸ small

/-- A numeral has digits only, and its value has no more than they can express. -/
theorem IsNumeral.digits (is : IsNumeral base cs n) (many : 1 < base) :
    (∀ c ∈ cs, ∃ d, digit? base c = some d) ∧ n < base ^ cs.length := by
  obtain ⟨-, ds, spell, rfl⟩ := is
  have each : (∀ c ∈ cs, ∃ d, digit? base c = some d) ∧ ∀ d ∈ ds, d < base := by
    induction spell with
    | nil => exact ⟨nofun, nofun⟩
    | cons first _ ih =>
      simp only [List.forall_mem_cons]
      exact ⟨⟨⟨_, first⟩, ih.1⟩, digit_lt first, ih.2⟩
  refine ⟨each.1, ?_⟩
  rw [spell.length_eq, ← List.length_reverse]
  exact Nat.ofDigits_lt_base_pow_length many fun d mem => each.2 d (List.mem_reverse.mp mem)

/-- What is read as a number is a numeral, behind which no digit comes. -/
theorem number_eq_some_iff {width limit : Nat} {input : List Char} :
    number base width limit input = some (n, rest) ↔ ∃ cs, input = cs ++ rest ∧
      IsNumeral base cs n ∧ cs.length ≤ width ∧ n ≤ limit ∧ NoDigit base rest := by
  constructor
  · intro reads
    obtain ⟨text, whole, ends, spell⟩ := exists_of_digits base input
    simp only [number, foldl_eq_ofDigits, Option.ite_none_left_eq_some, Bool.or_eq_true,
      decide_eq_true_eq, not_or, Nat.not_lt, Option.some.injEq, Prod.mk.injEq,
      List.isEmpty_iff] at reads
    obtain ⟨⟨⟨some, short⟩, small⟩, rfl, rfl⟩ := reads
    have length := spell.length_eq
    refine ⟨text, whole, ⟨?_, _, spell, rfl⟩, length ▸ short, small, ends⟩
    rintro rfl
    exact some (List.length_eq_zero_iff.mp length.symm)
  · rintro ⟨cs, rfl, ⟨some, ds, spell, rfl⟩, short, small, ends⟩
    have length := spell.length_eq
    have digit : ds ≠ [] := by
      rintro rfl
      exact some (List.length_eq_zero_iff.mp length)
    simp only [number, digits_append spell ends, foldl_eq_ofDigits]
    rw [if_neg]
    simp only [Bool.or_eq_true, decide_eq_true_eq, List.isEmpty_iff, not_or, Nat.not_lt]
    exact ⟨⟨digit, length ▸ short⟩, small⟩

end

/-! ## IPv4 addresses -/

theorem eq_zero_of_digit {c : Char} (digit : digit? 10 c = some 0) : c = '0' := by
  have code : ('0' ≤ c ↔ 48 ≤ c.toNat) ∧ ('a' ≤ c ↔ 97 ≤ c.toNat) ∧ ('A' ≤ c ↔ 65 ≤ c.toNat) :=
    ⟨Iff.rfl, Iff.rfl, Iff.rfl⟩
  simp only [digit?, Bool.and_eq_true, decide_eq_true_eq, Option.ite_none_right_eq_some,
    Option.some.injEq] at digit
  have value : c.toNat = '0'.toNat := by
    show c.toNat = 48
    grind
  exact Char.toNat_inj.mp value

theorem digit_mono {c : Char} {d : Nat} (digit : digit? 10 c = some d) : digit? 16 c = some d := by
  simp only [digit?, Option.ite_none_right_eq_some, Option.some.injEq] at digit ⊢
  grind

@[simp] theorem char_eq_some_iff {c : Char} {input rest : List Char} :
    char c input = some rest ↔ input = c :: rest := by
  cases input with
  | nil => simp [char]
  | cons d input =>
    simp only [char, Option.ite_none_right_eq_some, Option.some.injEq, List.cons.injEq]

theorem noDigit_cons {base : Nat} {c : Char} (none : digit? base c = none) (rest : List Char) :
    NoDigit base (c :: rest) := by
  intro d mem
  cases mem
  exact none

theorem octet_eq_some_iff {input rest : List Char} {n : Nat} : octet input = some (n, rest) ↔
    ∃ cs, input = cs ++ rest ∧ IsOctet cs n ∧ NoDigit 10 rest := by
  constructor
  · intro reads
    unfold octet at reads
    split at reads
    · cases reads
    · next _ lead =>
      obtain ⟨cs, rfl, numeral, short, small, ends⟩ := number_eq_some_iff.mp reads
      refine ⟨cs, rfl, ⟨numeral, short, small, fun zero => ?_⟩, ends⟩
      obtain ⟨-, ds, spell, -⟩ := numeral
      rw [digits_append spell ends] at lead
      cases spell with
      | nil => cases zero
      | cons first more =>
        cases zero
        cases more with
        | nil => rfl
        | cons second more =>
          cases first
          exact absurd rfl (lead _ _ _)
  · rintro ⟨cs, rfl, octet, ends⟩
    have reads := number_eq_some_iff.mpr
      ⟨cs, rfl, octet.numeral, octet.length, octet.bound, ends⟩
    obtain ⟨-, ds, spell, -⟩ := octet.numeral
    rw [SocketAddress.octet, digits_append spell ends]
    split
    · next h =>
      cases h
      cases spell with
      | cons first more =>
        cases more with
        | cons second more =>
          cases eq_zero_of_digit first
          cases octet.lead rfl
    · exact reads

theorem ipv4_eq_some_iff {input rest : List Char} {ip : Ipv4} : ipv4 input = some (ip, rest) ↔
    ∃ cs, input = cs ++ rest ∧ IsIpv4 cs ip ∧ NoDigit 10 rest := by
  have dot (rest : List Char) : NoDigit 10 ('.' :: rest) := noDigit_cons (by decide) rest
  constructor
  · intro reads
    simp only [ipv4, Option.bind_eq_bind, Option.bind_eq_some_iff, Prod.exists, octet_eq_some_iff,
      char_eq_some_iff, Option.some.injEq, Prod.mk.injEq] at reads
    obtain ⟨a, _, ⟨as, rfl, aOctet, -⟩, _, rfl, b, _, ⟨bs, rfl, bOctet, -⟩, _, rfl, c, _,
      ⟨cs, rfl, cOctet, -⟩, _, rfl, d, _, ⟨ds, rfl, dOctet, ends⟩, rfl, rfl⟩ := reads
    exact ⟨_, by simp, .intro aOctet bOctet cOctet dOctet, ends⟩
  · rintro ⟨_, rfl, @⟨as, bs, cs, ds, a, b, c, d, aOctet, bOctet, cOctet, dOctet⟩, ends⟩
    simp only [ipv4, Option.bind_eq_bind, Option.bind_eq_some_iff, Prod.exists, octet_eq_some_iff,
      char_eq_some_iff, Option.some.injEq, Prod.mk.injEq]
    exact ⟨a, _, ⟨as, by simp, aOctet, dot _⟩, _, rfl, b, _, ⟨bs, rfl, bOctet, dot _⟩, _, rfl,
      c, _, ⟨cs, rfl, cOctet, dot _⟩, _, rfl, d, _, ⟨ds, rfl, dOctet, ends⟩, rfl, rfl⟩

/-- Where no dot follows the hexadecimal digits there is no IPv4 address. -/
theorem ipv4_eq_none {cs rest : List Char} (hex : ∀ c ∈ cs, digit? 16 c ≠ none)
    (ends : NoDigit 16 rest) (dot : cs ≠ [] → rest.head? ≠ some '.') :
    ipv4 (cs ++ rest) = none := by
  rw [Option.eq_none_iff_forall_ne_some]
  rintro ⟨ip, after⟩ reads
  obtain ⟨text, whole, is, -⟩ := ipv4_eq_some_iff.mp reads
  obtain @⟨as, bs, cs', ds, a, b, c, d, octet, -⟩ := is
  have some := octet.numeral.1
  have decimal : ∀ c ∈ as, digit? 16 c ≠ none := by
    intro c mem
    obtain ⟨d, digit⟩ := (octet.numeral.digits (by decide)).1 c mem
    simp [digit_mono digit]
  rw [List.append_assoc, List.cons_append, List.append_eq_append_iff] at whole
  rcases whole with ⟨more, rfl, same⟩ | ⟨more, rfl, same⟩
  · cases more with
    | nil =>
      rw [List.append_nil] at some
      exact dot some (by rw [same]; rfl)
    | cons c more =>
      exact decimal c (by simp) (ends c (by rw [same]; rfl))
  · cases more with
    | nil =>
      exact dot (by simpa using some) (by rw [← List.nil_append rest, ← same]; rfl)
    | cons c more =>
      obtain rfl := (List.cons.inj same).1
      exact hex '.' (by simp) (by decide)

/-! ## IPv6 addresses -/

/-- The text with a colon before it, unless it is the first. -/
def behind (first : Bool) (cs : List Char) : List Char := if first then cs else ':' :: cs

/-- The text begins neither with a digit, nor with a dot, nor with a colon and a digit. -/
structure Stops (rest : List Char) : Prop where
  noDigit : NoDigit 16 rest
  noDot : rest.head? ≠ some '.'
  noGroup : ∀ more, rest = ':' :: more → NoDigit 16 more

theorem start_eq_some_iff {first : Bool} {input cs : List Char} :
    (if first then some input else char ':' input) = some cs ↔ input = behind first cs := by
  cases first <;> simp [behind]

theorem groups_sound {first : Bool} {limit : Nat} {input rest : List Char} {four : Bool}
    {gs : List Nat} (reads : groups first limit input = (gs, four, rest)) :
    (gs = [] ∧ four = false ∧ rest = input) ∨ (gs.length ≤ limit ∧
      ∃ cs, input = behind first (cs ++ rest) ∧ IsGroups four cs gs) := by
  induction limit generalizing first input gs with
  | zero =>
    cases reads
    exact .inl ⟨rfl, rfl, rfl⟩
  | succ limit ih =>
    unfold groups at reads
    dsimp only at reads
    split at reads
    · next ip after embedded =>
      cases reads
      obtain ⟨last, found⟩ := Option.ite_none_left_eq_some.mp embedded
      obtain ⟨start, starts, is⟩ := Option.bind_eq_some_iff.mp found
      obtain ⟨cs, rfl, ipv4, -⟩ := ipv4_eq_some_iff.mp is
      refine .inr ⟨?_, cs, start_eq_some_iff.mp starts, .ipv4 ipv4⟩
      simp only [List.length_cons, List.length_nil]
      omega
    · split at reads
      · next g after found =>
        cases reads
        obtain ⟨start, starts, number⟩ := Option.bind_eq_some_iff.mp found
        obtain ⟨cs, rfl, numeral, short, -, -⟩ := number_eq_some_iff.mp number
        have input := start_eq_some_iff.mp starts
        rcases ih (rfl : groups false limit after = _) with
          ⟨none, three, same⟩ | ⟨few, ds, same, is⟩
        · rw [none, three, same]
          exact .inr ⟨by simp, cs, input, .group ⟨numeral, short⟩⟩
        · refine .inr ⟨Nat.succ_le_succ few, cs ++ ':' :: ds, ?_, .cons ⟨numeral, short⟩ is⟩
          rw [input]
          conv => lhs; rw [same]
          simp [behind]
      · cases reads
        exact .inl ⟨rfl, rfl, rfl⟩

theorem IsGroup.hex {cs : List Char} {g : Nat} (group : IsGroup cs g) :
    ∀ c ∈ cs, digit? 16 c ≠ none := by
  intro c mem
  obtain ⟨d, digit⟩ := (group.numeral.digits (by decide)).1 c mem
  simp [digit]

theorem IsGroup.bound {cs : List Char} {g : Nat} (group : IsGroup cs g) : g ≤ 0xFFFF := by
  have value := (group.numeral.digits (by decide)).2
  have most : 16 ^ cs.length ≤ 16 ^ 4 := Nat.pow_le_pow_right (by decide) group.length
  omega

/-- A group is read where neither a digit nor a dot follows. -/
theorem IsGroup.read {cs rest : List Char} {g : Nat} (group : IsGroup cs g)
    (ends : NoDigit 16 rest) (dot : rest.head? ≠ some '.') :
    ipv4 (cs ++ rest) = none ∧ number 16 4 0xFFFF (cs ++ rest) = some (g, rest) :=
  ⟨ipv4_eq_none group.hex ends fun _ => dot, number_eq_some_iff.mpr
    ⟨cs, rfl, group.numeral, group.length, group.bound, ends⟩⟩

/-- Where no digit comes next there is neither an IPv4 address nor a group. -/
theorem read_of_noDigit {rest : List Char} (ends : NoDigit 16 rest) :
    ipv4 rest = none ∧ number 16 4 0xFFFF rest = none := by
  refine ⟨ipv4_eq_none (List.forall_mem_nil _) ends (absurd rfl), ?_⟩
  rw [Option.eq_none_iff_forall_ne_some]
  rintro ⟨g, after⟩ reads
  obtain ⟨cs, rfl, numeral, -⟩ := number_eq_some_iff.mp reads
  cases cs with
  | nil => exact numeral.1 rfl
  | cons c cs =>
    obtain ⟨d, digit⟩ := (numeral.digits (by decide)).1 c (by simp)
    simp [ends c rfl] at digit

theorem groups_of_nothing (first : Bool) {rest : List Char}
    (ends : ∀ start, rest = behind first start → NoDigit 16 start) (limit : Nat) :
    groups first limit rest = ([], false, rest) := by
  cases limit with
  | zero => rfl
  | succ limit =>
    unfold groups
    cases starts : (if first then some rest else char ':' rest) with
    | none => simp
    | some start =>
      obtain ⟨no4, no6⟩ := read_of_noDigit (ends start (start_eq_some_iff.mp starts))
      simp [no4, no6]

/-- After a group the others are read. -/
theorem groups_of_group {cs rest : List Char} {g : Nat} (group : IsGroup cs g)
    (ends : NoDigit 16 rest) (dot : rest.head? ≠ some '.') (first : Bool) (limit : Nat) :
    groups first (limit + 1) (behind first (cs ++ rest)) =
      (g :: (groups false limit rest).1, (groups false limit rest).2) := by
  obtain ⟨no4, reads⟩ := group.read ends dot
  have starts := start_eq_some_iff.mpr (rfl : behind first (cs ++ rest) = _)
  rw [groups]
  simp [starts, no4, reads]

theorem groups_of_ipv4 {cs rest : List Char} {ip : Ipv4} (is : IsIpv4 cs ip)
    (ends : NoDigit 10 rest) (first : Bool) (limit : Nat) :
    groups first (limit + 2) (behind first (cs ++ rest)) =
      ([ip.a * 256 + ip.b, ip.c * 256 + ip.d], true, rest) := by
  have reads := ipv4_eq_some_iff.mpr ⟨cs, rfl, is, ends⟩
  have starts := start_eq_some_iff.mpr (rfl : behind first (cs ++ rest) = _)
  rw [groups]
  simp [starts, reads]

theorem NoDigit.mono {rest : List Char} (ends : NoDigit 16 rest) : NoDigit 10 rest := by
  intro c mem
  cases digit : digit? 10 c with
  | none => rfl
  | some d => cases (digit_mono digit).symm.trans (ends c mem)

theorem groups_complete {cs rest : List Char} {four : Bool} {gs : List Nat}
    (is : IsGroups four cs gs) (stops : Stops rest) {limit : Nat} (few : gs.length ≤ limit)
    (first : Bool) : groups first limit (behind first (cs ++ rest)) = (gs, four, rest) := by
  induction is generalizing first limit with
  | group is =>
    obtain ⟨limit, rfl⟩ := Nat.exists_eq_add_of_le' few
    have others := groups_of_nothing false stops.noGroup limit
    rw [List.length_singleton, groups_of_group is stops.noDigit stops.noDot, others]
  | ipv4 is =>
    obtain ⟨limit, rfl⟩ := Nat.exists_eq_add_of_le' few
    exact groups_of_ipv4 is stops.noDigit.mono first limit
  | cons is _ ih =>
    obtain ⟨limit, rfl⟩ := Nat.exists_eq_add_of_le' (Nat.le_of_add_left_le few)
    have others := ih (Nat.le_of_succ_le_succ few) false
    rw [List.append_assoc, List.cons_append, groups_of_group is (noDigit_cons (by decide) _)
      (by simp)]
    rw [show ':' :: _ = behind false _ from rfl, others]

/-- The text begins with a percent sign or a closing bracket. -/
def Closes (rest : List Char) : Prop := ∃ c more, rest = c :: more ∧ (c = '%' ∨ c = ']')

theorem Closes.stops {rest : List Char} (closes : Closes rest) : Stops rest := by
  obtain ⟨c, more, rfl, rfl | rfl⟩ := closes
  · exact ⟨noDigit_cons (by decide) _, by simp, nofun⟩
  · exact ⟨noDigit_cons (by decide) _, by simp, nofun⟩

theorem areGroups_sound {limit : Nat} {input rest : List Char} {four : Bool}
    {gs : List Nat} (reads : groups true limit input = (gs, four, rest)) :
    gs.length ≤ limit ∧ ∃ cs, input = cs ++ rest ∧ AreGroups four cs gs := by
  rcases groups_sound reads with ⟨rfl, -, rfl⟩ | ⟨few, cs, same, is⟩
  · exact ⟨Nat.zero_le _, [], rfl, .inl ⟨rfl, rfl⟩⟩
  · exact ⟨few, cs, same, .inr is⟩

/-- No groups, or some of them, are read where no further ones follow. -/
theorem areGroups_complete (limit : Nat) {cs rest : List Char} {four : Bool} {gs : List Nat}
    (are : AreGroups four cs gs) (few : gs.length ≤ limit) (stops : Stops rest) :
    ∃ four', groups true limit (cs ++ rest) = (gs, four', rest) ∧
      (four = false → four' = false) := by
  rcases are with ⟨rfl, rfl⟩ | is
  · have nothing (start : List Char) (same : rest = start) : NoDigit 16 start :=
      same ▸ stops.noDigit
    exact ⟨false, groups_of_nothing true nothing limit, fun _ => rfl⟩
  · exact ⟨four, groups_complete is stops few true, id⟩

theorem ipv6_sound {input rest : List Char} {gs : List Nat} (reads : ipv6 input = some (gs, rest)) :
    ∃ cs, input = cs ++ rest ∧ IsIpv6 cs gs := by
  unfold ipv6 at reads
  generalize found : groups true 8 input = r at reads
  obtain ⟨head, four, after⟩ := r
  dsimp only at reads
  obtain ⟨few, hs, rfl, headIs⟩ := areGroups_sound found
  split at reads
  · next eight =>
    cases reads
    rcases headIs with ⟨-, rfl⟩ | is
    · cases eight
    · exact ⟨hs, rfl, .full is eight⟩
  · next notEight =>
    split at reads
    · cases reads
    · next three =>
      simp only [Option.bind_eq_bind, Option.bind_eq_some_iff, char_eq_some_iff, Option.some.injEq,
        Prod.mk.injEq] at reads
      obtain ⟨_, rfl, more, rfl, rfl, rfl⟩ := reads
      obtain ⟨few', ts, same, tailIs⟩ :=
        areGroups_sound (rfl : groups true (7 - head.length) more = _)
      rw [Bool.not_eq_true] at three
      subst three
      refine ⟨hs ++ ':' :: ':' :: ts, ?_, .shortened headIs tailIs (by omega)⟩
      conv => lhs; rw [same]
      simp

theorem ipv6_complete {cs rest : List Char} {gs : List Nat} (is : IsIpv6 cs gs)
    (closes : Closes rest) : ipv6 (cs ++ rest) = some (gs, rest) := by
  cases is with
  | full is eight =>
    have reads := groups_complete is closes.stops (Nat.le_of_eq eight) true
    rw [ipv6, show cs ++ rest = behind true (cs ++ rest) from rfl, reads]
    exact if_pos eight
  | @shortened four hs ts head tail headIs tailIs few =>
    have colons : Stops (':' :: ':' :: (ts ++ rest)) := by
      refine ⟨noDigit_cons (by decide) _, by simp, fun more same => ?_⟩
      cases same
      exact noDigit_cons (by decide) _
    obtain ⟨three, headReads, no4⟩ := areGroups_complete 8 headIs (by omega) colons
    obtain ⟨four', tailReads, -⟩ :=
      areGroups_complete (7 - head.length) tailIs (by omega) closes.stops
    rw [no4 rfl] at headReads
    rw [List.append_assoc, List.cons_append, List.cons_append, ipv6, headReads]
    simp only [if_neg (show head.length ≠ 8 by omega), Bool.false_eq_true, if_false]
    simp [char, tailReads]

/-! ## Socket addresses -/

theorem port_eq_some_iff {input rest : List Char} {p : Nat} : port input = some (p, rest) ↔
    ∃ ps, input = ':' :: (ps ++ rest) ∧ IsBounded 65535 ps p ∧ NoDigit 10 rest := by
  simp only [port, Option.bind_eq_bind, Option.bind_eq_some_iff, char_eq_some_iff,
    number_eq_some_iff]
  constructor
  · rintro ⟨_, rfl, ps, rfl, numeral, -, small, ends⟩
    exact ⟨ps, rfl, ⟨numeral, small⟩, ends⟩
  · rintro ⟨ps, rfl, is, ends⟩
    exact ⟨_, rfl, ps, rfl, is.numeral, by simp, is.bound, ends⟩

theorem readV4_eq_some_iff {input : List Char} {a : SocketAddress} :
    readV4 input = some (a, []) ↔ ∃ cs ps ip p, input = cs ++ ':' :: ps ∧ IsIpv4 cs ip ∧
      IsBounded 65535 ps p ∧ a = .v4 ip p := by
  simp only [readV4, Option.bind_eq_bind, Option.bind_eq_some_iff, Prod.exists, ipv4_eq_some_iff,
    port_eq_some_iff, Option.some.injEq, Prod.mk.injEq]
  constructor
  · rintro ⟨ip, _, ⟨cs, rfl, is, -⟩, p, _, ⟨ps, rfl, bounded, -⟩, rfl, rfl⟩
    exact ⟨cs, ps, ip, p, by simp, is, bounded, rfl⟩
  · rintro ⟨cs, ps, ip, p, rfl, is, bounded, rfl⟩
    exact ⟨ip, _, ⟨cs, rfl, is, noDigit_cons (by decide) _⟩, p, [], ⟨ps, by simp, bounded, nofun⟩,
      rfl, rfl⟩

theorem scope_sound {input rest : List Char} {s : Nat} (reads : scope input = (s, rest)) :
    (s = 0 ∧ rest = input) ∨
      ∃ ss, input = '%' :: (ss ++ rest) ∧ IsBounded 4294967295 ss s := by
  unfold scope at reads
  split at reads
  · next found =>
    subst reads
    obtain ⟨_, percent, number⟩ := Option.bind_eq_some_iff.mp found
    obtain ⟨ss, rfl, numeral, -, small, -⟩ := number_eq_some_iff.mp number
    exact .inr ⟨ss, char_eq_some_iff.mp percent, numeral, small⟩
  · cases reads
    exact .inl ⟨rfl, rfl⟩

theorem scope_complete {ss rest : List Char} {s : Nat} (is : IsBounded 4294967295 ss s)
    (ends : NoDigit 10 rest) : scope ('%' :: (ss ++ rest)) = (s, rest) := by
  have reads : number 10 (ss ++ rest).length 4294967295 (ss ++ rest) = some (s, rest) :=
    number_eq_some_iff.mpr ⟨ss, rfl, is.numeral, by simp, is.bound, ends⟩
  rw [scope, char_eq_some_iff.mpr rfl, Option.bind_some, reads]

theorem readV6_sound {input : List Char} {a : SocketAddress}
    (reads : readV6 input = some (a, [])) : Writes input a := by
  simp only [readV6, Option.bind_eq_bind, Option.bind_eq_some_iff, Prod.exists, char_eq_some_iff,
    port_eq_some_iff, Option.some.injEq, Prod.mk.injEq] at reads
  obtain ⟨_, rfl, gs, after, ipv6, _, bracket, p, _, ⟨ps, rfl, port, -⟩, rfl, rfl⟩ := reads
  obtain ⟨cs, rfl, is⟩ := ipv6_sound ipv6
  cases found : scope after with
  | mk s rest =>
    rw [found, List.append_nil] at bracket
    obtain rfl := bracket
    rcases scope_sound found with ⟨rfl, rfl⟩ | ⟨ss, rfl, scope⟩
    · exact .v6 is port
    · exact .zoned is scope port

/-- What is read as an IPv6 address with a port, behind its bracket. -/
theorem readV6_of_parts {cs rest ps : List Char} {gs : List Nat} {s p : Nat} (is : IsIpv6 cs gs)
    (closes : Closes rest) (scope : SocketAddress.scope rest = (s, ']' :: ':' :: ps))
    (port : IsBounded 65535 ps p) : readV6 ('[' :: (cs ++ rest)) = some (.v6 gs s p, []) := by
  have reads := port_eq_some_iff.mpr ⟨ps, rfl, port, (nofun : NoDigit 10 [])⟩
  rw [List.append_nil] at reads
  simp [readV6, char, ipv6_complete is closes, scope, reads]

/-- An address is read from a text exactly if the grammar gives it to the text. -/
theorem ofText?_eq_some_iff {t : String} {a : SocketAddress} :
    ofText? t = some a ↔ Writes t.toList a := by
  constructor
  · intro reads
    unfold ofText? at reads
    split at reads
    · next found =>
      cases reads
      cases four : readV4 t.toList with
      | none =>
        rw [four] at found
        exact readV6_sound found
      | some r =>
        rw [four] at found
        obtain ⟨cs, ps, ip, p, same, is, port, rfl⟩ := readV4_eq_some_iff.mp (four.trans found)
        exact same ▸ .v4 is port
    · cases reads
  · intro writes
    suffices (readV4 t.toList).orElse (fun _ => readV6 t.toList) = some (a, []) by
      rw [ofText?, this]
    -- what begins with a bracket is no IPv4 address
    have four (rest : List Char) : readV4 ('[' :: rest) = none := by
      have none := (read_of_noDigit (noDigit_cons (by decide) rest : NoDigit 16 ('[' :: rest))).1
      simp [readV4, none]
    generalize t.toList = input at writes ⊢
    cases writes with
    | v4 is port =>
      rw [readV4_eq_some_iff.mpr ⟨_, _, _, _, rfl, is, port, rfl⟩]
      rfl
    | v6 is port =>
      rw [four]
      exact readV6_of_parts is ⟨_, _, rfl, .inr rfl⟩ rfl port
    | zoned is scope port =>
      rw [four]
      exact readV6_of_parts is ⟨_, _, rfl, .inl rfl⟩
        (scope_complete scope (noDigit_cons (by decide) _)) port

end EvictionGate.SocketAddress
