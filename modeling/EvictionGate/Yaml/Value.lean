import EvictionGate.Binary64.Basic

/-!
# Values of a document

A plain text may stand for nothing, for a truth value or for a number; any other text is
just that. An integer may be written in base 16, 8 or 2; digits after a leading zero make
no number. A tag may say what a text stands for.

Two keys of a mapping may not be the same value.
-/

namespace EvictionGate.Yaml

/-- A number that is no integer. -/
inductive Real
  | finite (negative : Bool) (magnitude : Binary64)
  | infinite (negative : Bool)
  | undefined
  deriving DecidableEq, Repr

/-- A value. -/
inductive Value
  | null
  | bool (b : Bool)
  | integer (z : Int)
  | real (x : Real)
  | text (s : String)
  | list (items : List Value)
  | map (entries : List (Value × Value))
  /-- A value with a tag of its own. -/
  | tagged (v : Value)

namespace Value

instance : Inhabited Value := ⟨.null⟩

mutual

/-- Whether two values are the same. -/
def same : Value → Value → Bool
  | .null, .null => true
  | .bool a, .bool b => a = b
  | .integer a, .integer b => a = b
  | .real a, .real b => a = b
  | .text a, .text b => a = b
  | .list a, .list b => sameItems a b
  | .map a, .map b => sameEntries a b
  | .tagged a, .tagged b => same a b
  | _, _ => false

/-- Whether two lists hold the same values. -/
def sameItems : List Value → List Value → Bool
  | [], [] => true
  | a :: as, b :: bs => same a b && sameItems as bs
  | _, _ => false

/-- Whether two mappings hold the same entries. -/
def sameEntries : List (Value × Value) → List (Value × Value) → Bool
  | [], [] => true
  | (j, a) :: as, (k, b) :: bs => same j k && same a b && sameEntries as bs
  | _, _ => false

end

/-- A value without its tag. -/
def bare : Value → Value
  | .tagged v => v
  | v => v

/-- The text of a text. -/
def text? (v : Value) : Option String :=
  match v.bare with
  | .text s => some s
  | _ => none

/-- The items of a list; nothing stands for none. -/
def items? (v : Value) : Option (List Value) :=
  match v.bare with
  | .list vs => some vs
  | .null => some []
  | _ => none

/-- The entries of a mapping; nothing stands for none. -/
def entries? (v : Value) : Option (List (Value × Value)) :=
  match v.bare with
  | .map es => some es
  | .null => some []
  | _ => none

/-- What a mapping says about a name. -/
def get? (v : Value) (name : String) : Option Value :=
  ((v.entries?.getD []).find? fun e => e.1.text? = some name).map Prod.snd

end Value

/-! ## Numbers -/

/-- The value of a digit in a base of at most 16. -/
def digitIn? (base : Nat) (c : Char) : Option Nat :=
  let n :=
    if c.isDigit then c.toNat - 48
    else if 'a' ≤ c && c ≤ 'f' then c.toNat - 87
    else if 'A' ≤ c && c ≤ 'F' then c.toNat - 55
    else base
  if n < base then some n else none

/-- The number in the digits of a base. -/
def natural? (base : Nat) (cs : List Char) : Option Nat :=
  if cs.isEmpty then none
  else cs.foldlM (fun n c => (digitIn? base c).map fun d => n * base + d) 0

/-- Whether a text is digits after a leading zero. -/
def isPadded (cs : List Char) : Bool :=
  let digits := match cs with
    | '-' :: rest => rest
    | '+' :: rest => rest
    | cs => cs
  1 < digits.length && digits.head? = some '0' && digits.all Char.isDigit

/-- The number in digits, of which the first letters may tell the base. -/
def basedNatural? (cs : List Char) : Option Nat :=
  match cs with
  | '0' :: 'x' :: rest => natural? 16 rest
  | '0' :: 'o' :: rest => natural? 8 rest
  | '0' :: 'b' :: rest => natural? 2 rest
  | cs => natural? 10 cs

/-- The integer that a text writes. -/
def integer? (cs : List Char) : Option Int :=
  if isPadded cs then none
  else match cs with
    | '-' :: rest => (basedNatural? rest).map fun n => -(n : Int)
    | '+' :: rest => (basedNatural? rest).map fun n => (n : Int)
    | cs => (basedNatural? cs).map fun n => (n : Int)

/-- The number of values of 64 bits. -/
def wordCount : Nat := 18446744073709551616

/-- Whether an integer fits 64 bits. -/
def isWord (z : Int) : Bool :=
  -(wordCount / 2 : Nat) ≤ z && z < wordCount

/-- Whether an integer fits 128 bits. -/
def isDoubleWord (z : Int) : Bool :=
  -(wordCount * wordCount / 2 : Nat) ≤ z && z < (wordCount * wordCount : Nat)

/-- The magnitude of `digits * 10 ^ scale`; none beyond the greatest. Of a scale that is
far off only the direction matters. -/
def magnitude? (digits : List Char) (scale : Int) : Option Binary64 :=
  let digits := digits.dropWhile (· = '0')
  let n := digits.foldl (fun n c => n * 10 + (c.toNat - 48)) 0
  let top := scale + digits.length
  if n = 0 || top < -400 then some .zero
  else if 400 < top then none
  else Binary64.nearest (n * Nat.pow 10 scale.toNat) (Nat.pow 10 (-scale).toNat)

/-- The magnitude that a text writes in decimal, with a point or an exponent perhaps. -/
def decimal? (cs : List Char) : Option Binary64 :=
  let whole := cs.takeWhile Char.isDigit
  let (fraction, rest) := match cs.drop whole.length with
    | '.' :: rest =>
      let digits := rest.takeWhile Char.isDigit
      (digits, rest.drop digits.length)
    | rest => ([], rest)
  let digits := whole ++ fraction
  let scale? : Option Int := match rest with
    | [] => some 0
    | e :: rest =>
      if e ≠ 'e' && e ≠ 'E' then none
      else match rest with
        | '-' :: rest => (natural? 10 rest).map fun n => -(n : Int)
        | '+' :: rest => (natural? 10 rest).map fun n => (n : Int)
        | rest => (natural? 10 rest).map fun n => (n : Int)
  if digits.isEmpty then none
  else scale?.bind fun scale => magnitude? digits (scale - fraction.length)

/-- The number that a text writes, if it is no integer. -/
def real? (cs : List Char) : Option Real :=
  let name := String.ofList cs
  let isOneOf (names : List String) (sign : String) := (names.map (sign ++ ·)).contains name
  let infinity := [".inf", ".Inf", ".INF"]
  if isOneOf infinity "" || isOneOf infinity "+" then some (.infinite false)
  else if isOneOf infinity "-" then some (.infinite true)
  else if isOneOf [".nan", ".NaN", ".NAN"] "" then some .undefined
  else match cs with
    | '-' :: rest => (decimal? rest).map (.finite true)
    | '+' :: rest => (decimal? rest).map (.finite false)
    | cs => (decimal? cs).map (.finite false)

/-! ## What a text stands for -/

/-- Whether a text stands for nothing. -/
def isNullName (s : String) : Bool :=
  ["null", "Null", "NULL", "~"].contains s

/-- The truth value that a text stands for. -/
def bool? (s : String) : Option Bool :=
  if ["true", "True", "TRUE"].contains s then some true
  else if ["false", "False", "FALSE"].contains s then some false
  else none

/-- The integer that a text stands for, on condition that it fits 64 bits. One that fits
128 bits is refused; a greater one is no integer. -/
def word? (cs : List Char) : Option (Option Value) :=
  match integer? cs with
  | none => some none
  | some z =>
    if isWord z then some (some (.integer z)) else if isDoubleWord z then none else some none

/-- What a plain text stands for. -/
def plainValue? (cs : List Char) : Option Value :=
  let s := String.ofList cs
  if cs.isEmpty || isNullName s then some .null
  else match bool? s, word? cs with
    | some b, _ => some (.bool b)
    | none, none => none
    | none, some (some v) => some v
    | none, some none =>
      match if isPadded cs then none else real? cs with
      | some x => some (.real x)
      | none => some (.text s)

/-- The beginning of the tags that say what a text stands for. -/
def coreTag : String := "tag:yaml.org,2002:"

/-- What a text with a tag stands for. A tag that begins with an exclamation mark is one
of its own; a tag that is not known says that a text is a text. -/
def scalarValue? (tag : Option String) (text : List Char) (isPlain : Bool) : Option Value :=
  let s := String.ofList text
  let asWritten := if isPlain then plainValue? text else some (.text s)
  match tag with
  | none => asWritten
  | some tag =>
    if tag.toList.head? = some '!' then asWritten.map .tagged
    else if tag = coreTag ++ "bool" then (bool? s).map .bool
    else if tag = coreTag ++ "int" then (word? text).join
    else if tag = coreTag ++ "float" then (real? text).map .real
    else if tag = coreTag ++ "null" then if isNullName s then some .null else none
    else some (.text s)

end EvictionGate.Yaml
