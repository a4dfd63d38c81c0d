import EvictionGate.Text.Blank

/-!
# Socket addresses

An IP address with a port, as text. Octets have no leading zeros; the groups of an
IPv6 address are up to four hexadecimal digits, one run of zero groups may be left
out as `::`, and the last two groups may be written as an IPv4 address.
-/

namespace EvictionGate

/-- An IPv4 address. -/
structure Ipv4 where
  a : Nat
  b : Nat
  c : Nat
  d : Nat
  deriving DecidableEq, Repr

/-- An address to listen on. The groups of an IPv6 address are eight. -/
inductive SocketAddress
  | v4 (ip : Ipv4) (port : Nat)
  | v6 (groups : List Nat) (scope port : Nat)
  deriving DecidableEq, Repr

namespace SocketAddress

/-- The value of a digit in a base up to 16. -/
def digit? (base : Nat) (c : Char) : Option Nat :=
  let n :=
    if '0' ≤ c && c ≤ '9' then c.toNat - 48
    else if 'a' ≤ c && c ≤ 'f' then c.toNat - 87
    else if 'A' ≤ c && c ≤ 'F' then c.toNat - 55
    else base
  if n < base then some n else none

/-- The digits at the start, and the rest. -/
def digits (base : Nat) : List Char → List Nat × List Char
  | [] => ([], [])
  | c :: cs =>
    match digit? base c with
    | some d => ((d :: (digits base cs).1), (digits base cs).2)
    | none => ([], c :: cs)

/-- A number of at most `width` digits and at most `limit`. -/
def number (base width limit : Nat) (cs : List Char) : Option (Nat × List Char) :=
  let (ds, rest) := digits base cs
  let n := ds.foldl (fun n d => n * base + d) 0
  if ds.isEmpty || width < ds.length || limit < n then none else some (n, rest)

/-- The rest after a character. -/
def char (c : Char) : List Char → Option (List Char)
  | d :: rest => if d = c then some rest else none
  | [] => none

/-- An octet: no zero before other digits. -/
def octet (cs : List Char) : Option (Nat × List Char) :=
  match digits 10 cs with
  | (0 :: _ :: _, _) => none
  | _ => number 10 3 255 cs

/-- An IPv4 address. -/
def ipv4 (cs : List Char) : Option (Ipv4 × List Char) := do
  let (a, cs) ← octet cs
  let cs ← char '.' cs
  let (b, cs) ← octet cs
  let cs ← char '.' cs
  let (c, cs) ← octet cs
  let cs ← char '.' cs
  let (d, cs) ← octet cs
  some (⟨a, b, c, d⟩, cs)

/-- Up to `limit` groups, all but the first behind a colon, and whether the last two
were written as an IPv4 address. -/
def groups (first : Bool) : Nat → List Char → List Nat × Bool × List Char
  | 0, cs => ([], false, cs)
  | limit + 1, cs =>
    let start := if first then some cs else char ':' cs
    let embedded := if limit = 0 then none else start.bind ipv4
    match embedded with
    | some (ip, rest) => ([ip.a * 256 + ip.b, ip.c * 256 + ip.d], true, rest)
    | none =>
      match start.bind (number 16 4 0xFFFF) with
      | some (g, rest) =>
        let (gs, four, rest) := groups false limit rest
        (g :: gs, four, rest)
      | none => ([], false, cs)

/-- An IPv6 address. -/
def ipv6 (cs : List Char) : Option (List Nat × List Char) :=
  let (head, four, rest) := groups true 8 cs
  if head.length = 8 then some (head, rest)
  else if four then none
  else do
    let rest ← char ':' rest
    let rest ← char ':' rest
    let (tail, _, rest) := groups true (7 - head.length) rest
    some (head ++ List.replicate (8 - head.length - tail.length) 0 ++ tail, rest)

/-- A port behind a colon; leading zeros do not matter. -/
def port (cs : List Char) : Option (Nat × List Char) := do
  let cs ← char ':' cs
  number 10 cs.length 65535 cs

/-- A scope behind a percent sign; zero if there is none. -/
def scope (cs : List Char) : Nat × List Char :=
  match (char '%' cs).bind fun rest => number 10 rest.length 4294967295 rest with
  | some found => found
  | none => (0, cs)

/-- An IPv4 address with a port. -/
def readV4 (cs : List Char) : Option (SocketAddress × List Char) := do
  let (ip, cs) ← ipv4 cs
  let (p, cs) ← port cs
  some (.v4 ip p, cs)

/-- An IPv6 address in brackets with a port. -/
def readV6 (cs : List Char) : Option (SocketAddress × List Char) := do
  let cs ← char '[' cs
  let (gs, cs) ← ipv6 cs
  let (s, cs) := scope cs
  let cs ← char ']' cs
  let (p, cs) ← port cs
  some (.v6 gs s p, cs)

/-- The address a text writes. -/
def ofText? (s : String) : Option SocketAddress :=
  match (readV4 s.toList).orElse fun _ => readV6 s.toList with
  | some (address, []) => some address
  | _ => none

/-- The port of an address. -/
def portNumber : SocketAddress → Nat
  | .v4 _ p => p
  | .v6 _ _ p => p

/-- Whether the address is an IPv6 address. -/
def isV6 : SocketAddress → Bool
  | .v4 _ _ => false
  | .v6 _ _ _ => true

/-- An IPv4 address as text. -/
def ipv4Text (ip : Ipv4) : String :=
  toString ip.a ++ "." ++ toString ip.b ++ "." ++ toString ip.c ++ "." ++ toString ip.d

/-- The length of the run of zeros at the start. -/
def zeroRun (gs : List Nat) : Nat :=
  (gs.takeWhile (· = 0)).length

/-- The start and the length of the longest run of zero groups, the first of equals,
looking from group `i` on. -/
def longestZeroRun : Nat → List Nat → Nat × Nat
  | _, [] => (0, 0)
  | i, g :: gs =>
    let here := zeroRun (g :: gs)
    let (start, length) := longestZeroRun (i + 1) gs
    if here ≠ 0 && length ≤ here then (i, here) else (start, length)

/-- Groups in hexadecimal between colons. -/
def groupsText (gs : List Nat) : String :=
  String.intercalate ":" (gs.map fun g => String.ofList (Nat.toDigits 16 g))

/-- An IPv6 address as text: the longest run of two or more zero groups is left out,
and an IPv4 address in IPv6 form shows as such. -/
def ipv6Text (gs : List Nat) : String :=
  match gs with
  | [0, 0, 0, 0, 0, 0xFFFF, hi, lo] =>
    "::ffff:" ++ ipv4Text ⟨hi / 256, hi % 256, lo / 256, lo % 256⟩
  | gs =>
    let (start, length) := longestZeroRun 0 gs
    if 1 < length then groupsText (gs.take start) ++ "::" ++ groupsText (gs.drop (start + length))
    else groupsText gs

/-- The address as text. -/
def text : SocketAddress → String
  | .v4 ip p => ipv4Text ip ++ ":" ++ toString p
  | .v6 gs s p =>
    let suffix := if s = 0 then "" else "%" ++ toString s
    "[" ++ ipv6Text gs ++ suffix ++ "]:" ++ toString p

end SocketAddress

end EvictionGate
