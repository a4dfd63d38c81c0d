import EvictionGate.Json.Raw

/-!
# Reading JSON

`read?` takes the bytes of a JSON text (RFC 8259) to its tree and refuses
everything else. Blanks are space, tab, line feed and carriage return; nothing
follows the value.

Each reader takes the bytes that are left and gives back what it read with the
bytes after it. The readers of values and of lists call each other, and `fuel`
bounds how often: every second call reads a byte.
-/

namespace EvictionGate.Json

/-- Whether a byte may stand between tokens. -/
def isSpace (b : UInt8) : Bool :=
  b == 0x20 || b == 0x09 || b == 0x0A || b == 0x0D

/-- The bytes without the blanks before them. -/
def skipSpaces (bs : List UInt8) : List UInt8 :=
  bs.dropWhile isSpace

/-- The value of a decimal digit. -/
def digit? (b : UInt8) : Option Nat :=
  if 0x30 ≤ b && b ≤ 0x39 then some (b.toNat - 0x30) else none

/-- The value of a hexadecimal digit of either case. -/
def hexDigit? (b : UInt8) : Option Nat :=
  if 0x30 ≤ b && b ≤ 0x39 then some (b.toNat - 0x30)
  else if 0x41 ≤ b && b ≤ 0x46 then some (b.toNat - 0x37)
  else if 0x61 ≤ b && b ≤ 0x66 then some (b.toNat - 0x57)
  else none

/-- The number written by four hexadecimal digits. -/
def hex4? (a b c d : UInt8) : Option Nat := do
  let a ← hexDigit? a
  let b ← hexDigit? b
  let c ← hexDigit? c
  let d ← hexDigit? d
  some (((a * 16 + b) * 16 + c) * 16 + d)

/-- The byte that a letter stands for after a backslash. -/
def escape? (b : UInt8) : Option UInt8 :=
  if b == 0x22 || b == 0x5C || b == 0x2F then some b
  else if b == 0x62 then some 0x08
  else if b == 0x66 then some 0x0C
  else if b == 0x6E then some 0x0A
  else if b == 0x72 then some 0x0D
  else if b == 0x74 then some 0x09
  else none

/-- The pieces of a string up to its closing quote. -/
def readString : List UInt8 → Option (List Piece × List UInt8)
  | [] => none
  | 0x22 :: rest => some ([], rest)
  | 0x5C :: 0x75 :: a :: b :: c :: d :: rest =>
    match hex4? a b c d, readString rest with
    | some u, some (ps, rest) => some (.unit u :: ps, rest)
    | _, _ => none
  | 0x5C :: e :: rest =>
    match escape? e, readString rest with
    | some b, some (ps, rest) => some (.byte b :: ps, rest)
    | _, _ => none
  | b :: rest =>
    if b < 0x20 || b == 0x5C then none
    else match readString rest with
      | some (ps, rest) => some (.byte b :: ps, rest)
      | none => none

/-- The digits at the start of the bytes. -/
def readDigits : List UInt8 → List Nat × List UInt8
  | [] => ([], [])
  | b :: rest =>
    match digit? b with
    | some d =>
      let (ds, rest) := readDigits rest
      (d :: ds, rest)
    | none => ([], b :: rest)

/-- At least one digit. -/
def readDigits1 (bs : List UInt8) : Option (List Nat × List UInt8) :=
  match readDigits bs with
  | ([], _) => none
  | (ds, rest) => some (ds, rest)

/-- The digits before the point: a zero, or digits that start with no zero. -/
def readWhole (bs : List UInt8) : Option (List Nat × List UInt8) :=
  match readDigits1 bs with
  | some (0 :: _ :: _, _) => none
  | other => other

/-- The point and the digits after it, if there is a point. -/
def readFraction : List UInt8 → Option (Option (List Nat) × List UInt8)
  | 0x2E :: rest => (readDigits1 rest).map fun (ds, rest) => (some ds, rest)
  | bs => some (none, bs)

/-- The digits of an exponent after its sign. -/
def readScale (negative : Bool) (bs : List UInt8) : Option (Option Int × List UInt8) :=
  (readDigits1 bs).map fun (ds, rest) =>
    let n : Int := ofDigits ds
    (some (if negative then -n else n), rest)

/-- The exponent, if there is one. -/
def readExponent : List UInt8 → Option (Option Int × List UInt8)
  | e :: rest =>
    if e == 0x65 || e == 0x45 then
      match rest with
      | 0x2B :: rest => readScale false rest
      | 0x2D :: rest => readScale true rest
      | rest => readScale false rest
    else some (none, e :: rest)
  | [] => some (none, [])

/-- A number without its sign. -/
def readMagnitude (negative : Bool) (bs : List UInt8) : Option (Raw × List UInt8) := do
  let (whole, bs) ← readWhole bs
  let (fraction, bs) ← readFraction bs
  let (exponent, bs) ← readExponent bs
  some (.number ⟨negative, whole, fraction, exponent⟩, bs)

/-- A number. -/
def readNumber : List UInt8 → Option (Raw × List UInt8)
  | 0x2D :: rest => readMagnitude true rest
  | bs => readMagnitude false bs

mutual

/-- A value after the blanks before it. -/
def readValue : Nat → List UInt8 → Option (Raw × List UInt8)
  | 0, _ => none
  | fuel + 1, bs =>
    match skipSpaces bs with
    | 0x6E :: 0x75 :: 0x6C :: 0x6C :: rest => some (.null, rest)
    | 0x74 :: 0x72 :: 0x75 :: 0x65 :: rest => some (.bool true, rest)
    | 0x66 :: 0x61 :: 0x6C :: 0x73 :: 0x65 :: rest => some (.bool false, rest)
    | 0x22 :: rest => (readString rest).map fun (ps, rest) => (.string ps, rest)
    | 0x5B :: rest =>
      match skipSpaces rest with
      | 0x5D :: rest => some (.array [], rest)
      | rest => (readItems fuel rest).map fun (rs, rest) => (.array rs, rest)
    | 0x7B :: rest =>
      match skipSpaces rest with
      | 0x7D :: rest => some (.object [], rest)
      | rest => (readMembers fuel rest).map fun (ms, rest) => (.object ms, rest)
    | bs => readNumber bs

/-- The items of an array up to its closing bracket. -/
def readItems : Nat → List UInt8 → Option (List Raw × List UInt8)
  | 0, _ => none
  | fuel + 1, bs =>
    match readValue fuel bs with
    | none => none
    | some (r, rest) =>
      match skipSpaces rest with
      | 0x5D :: rest => some ([r], rest)
      | 0x2C :: rest => (readItems fuel rest).map fun (rs, rest) => (r :: rs, rest)
      | _ => none

/-- The members of an object up to its closing brace. -/
def readMembers : Nat → List UInt8 → Option (List (List Piece × Raw) × List UInt8)
  | 0, _ => none
  | fuel + 1, bs =>
    match skipSpaces bs with
    | 0x22 :: rest =>
      match readString rest with
      | none => none
      | some (name, rest) =>
        match skipSpaces rest with
        | 0x3A :: rest =>
          match readValue fuel rest with
          | none => none
          | some (r, rest) =>
            match skipSpaces rest with
            | 0x7D :: rest => some ([(name, r)], rest)
            | 0x2C :: rest =>
              (readMembers fuel rest).map fun (ms, rest) => ((name, r) :: ms, rest)
            | _ => none
        | _ => none
    | _ => none

end

/-- The tree of a JSON text. -/
def read? (bs : List UInt8) : Option Raw :=
  match readValue (2 * bs.length + 2) bs with
  | some (r, rest) => if (skipSpaces rest).isEmpty then some r else none
  | none => none

end EvictionGate.Json
