import EvictionGate.Text.Alphanumeric
import EvictionGate.Text.Blank

/-!
# Patterns

A field of a log filter may be compared with a regular expression. No line of the log has
such a field, so that all that matters of a pattern is whether it is one.

A pattern is read from left to right: sequences, alternatives, groups with names or flags,
classes with ranges, nested classes and operators, repetitions, and escapes. Every
character counts as Unicode unless the flag `u` is taken away; then nothing may match
beyond ASCII. Word borders are known for ASCII only. Blanks and comments count for nothing
under the flag `x`.

A count in braces is never complete: a field ends at the first closing brace.
-/

namespace EvictionGate.Startup.Pattern

open EvictionGate.Text (isBlank isLetter isAlphanumeric)

/-- The flags that decide how a part of a pattern is read. -/
structure Mode where
  unicode : Bool
  spaced : Bool
  deriving DecidableEq

/-- What a pattern holds at one place. -/
inductive Atom
  /-- A character that stands for itself. -/
  | char (c : Char)
  /-- A set of characters. -/
  | set
  /-- A place between characters. -/
  | place
  deriving DecidableEq

/-- The rest after blanks and comments, where those count for nothing. -/
def skip (m : Mode) : List Char → List Char
  | [] => []
  | c :: rest =>
    if !m.spaced then c :: rest
    else if isBlank c then skip m rest
    else if c = '#' then comment rest
    else c :: rest
where
  /-- The rest after a comment, which ends with its line. -/
  comment : List Char → List Char
    | [] => []
    | c :: rest => if c = '\n' then skip m rest else comment rest

/-- The rest after one more character and what counts for nothing, unless nothing follows. -/
def follow? (m : Mode) (rest : List Char) : Option (List Char) :=
  match skip m rest with
  | [] => none
  | rest => some rest

/-- The value of a hexadecimal digit. -/
def hexValue? (c : Char) : Option Nat :=
  if c.isDigit then some (c.toNat - 48)
  else if 'a' ≤ c && c ≤ 'f' then some (c.toNat - 87)
  else if 'A' ≤ c && c ≤ 'F' then some (c.toNat - 55)
  else none

/-- The number in as many hexadecimal digits. -/
def hexNumber? (m : Mode) : Nat → Nat → List Char → Option (Nat × List Char)
  | 0, n, cs => some (n, cs)
  | count + 1, n, cs =>
    match skip m cs with
    | [] => none
    | c :: rest => (hexValue? c).bind fun d => hexNumber? m count (n * 16 + d) rest

/-- The character that a number stands for. -/
def numbered? (m : Mode) (code : Nat × List Char) : Option (Atom × List Char) :=
  if !code.1.isValidChar || (!m.unicode && 0x7F < code.1 && code.1 ≤ 0xFF) then none
  else some (.char (Char.ofNat code.1), code.2)

/-- The letters that name a category of characters. -/
def categories : List Char := ['c', 'l', 'm', 'n', 'p', 's', 'z']

/-- What a backslash and the characters after it stand for. -/
def escape? (m : Mode) : List Char → Option (Atom × List Char)
  | [] => none
  | c :: rest =>
    if c = 'x' then (hexNumber? m 2 0 rest).bind (numbered? m)
    else if c = 'u' then (hexNumber? m 4 0 rest).bind (numbered? m)
    else if c = 'U' then (hexNumber? m 8 0 rest).bind (numbered? m)
    else if c = 'p' || c = 'P' then
      match skip m rest with
      | d :: rest =>
        if m.unicode && categories.contains d.toLower then some (.set, rest) else none
      | [] => none
    else if c = 'd' || c = 's' || c = 'w' then some (.set, rest)
    else if c = 'D' || c = 'S' || c = 'W' then
      if m.unicode then some (.set, rest) else none
    else if ['a', 'f', 't', 'n', 'r', 'v'].contains c then some (.char c, rest)
    else if c = 'A' || c = 'z' then some (.place, rest)
    else if c = 'b' || c = 'B' || c = '<' || c = '>' then
      if m.unicode then none else some (.place, rest)
    else if c.toNat < 0x80 && !c.isAlphanum then some (.char c, rest)
    else none

/-- A character of a class, or an escape. -/
def member? (m : Mode) : List Char → Option (Atom × List Char)
  | [] => none
  | '\\' :: rest => escape? m rest
  | c :: rest => if !m.unicode && 0x7F < c.toNat then none else some (.char c, rest)

/-- The rest after a member of a class or after a range of characters. A hyphen before a
bracket or a hyphen makes no range. -/
def range? (m : Mode) (cs : List Char) : Option (List Char) := do
  let (first, rest) ← member? m cs
  let rest ← follow? m rest
  let single := if first = .place then none else some rest
  match rest with
  | '-' :: after =>
    match skip m after with
    | [] => none
    | ']' :: _ => single
    | '-' :: _ => single
    | after =>
      match first, ← member? m after with
      | .char a, (.char b, rest) => if a ≤ b then some rest else none
      | _, _ => none
  | _ => single

/-- The names of the classes that can be written between colons. -/
def classNames : List String :=
  ["alnum", "alpha", "ascii", "blank", "cntrl", "digit", "graph", "lower", "print",
    "punct", "space", "upper", "word", "xdigit"]

/-- The rest after the name of a class, from behind its bracket. -/
def namedClass? : List Char → Option (List Char)
  | ':' :: rest =>
    let rest := match rest with
      | '^' :: rest => rest
      | rest => rest
    let name := rest.takeWhile (· ≠ ':')
    match rest.drop name.length with
    | ':' :: ']' :: rest =>
      if classNames.contains (String.ofList name) then some rest else none
    | _ => none
  | _ => none

/-- The rest after hyphens that stand for themselves. -/
def hyphens (m : Mode) : List Char → List Char
  | [] => []
  | c :: rest => if c = '-' || (m.spaced && isBlank c) then hyphens m rest else c :: rest

/-- The rest after the opening of a class, from behind its bracket: a bracket that would
close it at once stands for itself. -/
def opening? (m : Mode) (cs : List Char) : Option (List Char) := do
  let cs ← follow? m cs
  let cs ← match cs with
    | '^' :: rest => if m.unicode then follow? m rest else none
    | cs => some cs
  match cs with
  | ']' :: rest => follow? m rest
  | '-' :: rest => follow? m (hyphens m rest)
  | cs => some cs

/-- The rest after the classes that are open. -/
def classes? (m : Mode) : Nat → Nat → List Char → Option (List Char)
  | 0, _, _ => none
  | fuel + 1, depth, cs =>
    match skip m cs with
    | [] => none
    | ']' :: rest => if depth = 0 then some rest else classes? m fuel (depth - 1) rest
    | '[' :: rest =>
      match namedClass? rest with
      | some rest => classes? m fuel depth rest
      | none => (opening? m rest).bind (classes? m fuel (depth + 1))
    | '&' :: '&' :: rest => classes? m fuel depth rest
    | '-' :: '-' :: rest => classes? m fuel depth rest
    | '~' :: '~' :: rest => classes? m fuel depth rest
    | cs => (range? m cs).bind (classes? m fuel depth)

/-- The letters that are flags. -/
def flagNames : List Char := ['i', 'm', 's', 'U', 'u', 'R', 'x']

/-- The setting of a flag in a list of flags, of which those behind a hyphen are taken
away. -/
def setting (flags : List Char) (flag : Char) (now : Bool) : Bool :=
  if (flags.takeWhile (· ≠ '-')).contains flag then true
  else if flags.contains flag then false
  else now

/-- Whether no flag is unknown, none is given twice, and the hyphen stands before one. -/
def areFlags (flags : List Char) : Bool :=
  flags.all (fun c => c = '-' || flagNames.contains c) && decide flags.Nodup
    && flags.getLast? != some '-'

/-- Whether a text is the name of a group. -/
def isGroupName : List Char → Bool
  | [] => false
  | c :: rest =>
    (c = '_' || isLetter c) &&
      rest.all fun c => c = '_' || c = '.' || c = '[' || c = ']' || isAlphanumeric c

/-- How far a pattern has been read: the modes to return to when the open groups end, the
names given so far, and whether the last thing can be repeated. -/
structure Progress where
  mode : Mode
  outer : List Mode
  names : List (List Char)
  repeatable : Bool

namespace Progress

/-- Nothing has been read. -/
def start : Progress := ⟨⟨true, false⟩, [], [], false⟩

/-- A group begins. -/
def enter (p : Progress) (mode : Mode) : Progress :=
  { p with mode := mode, outer := p.mode :: p.outer, repeatable := false }

/-- A named group begins. -/
def name? (p : Progress) (cs : List Char) : Option (Progress × List Char) :=
  let name := cs.takeWhile (· ≠ '>')
  match cs.drop name.length with
  | _ :: rest =>
    if isGroupName name && !p.names.contains name then
      some ({ p.enter p.mode with names := name :: p.names }, rest)
    else none
  | [] => none

/-- Flags are set, for the rest of the group or for a group that begins. -/
def flags? (p : Progress) (cs : List Char) : Option (Progress × List Char) :=
  let flags := cs.takeWhile fun c => c ≠ ':' && c ≠ ')'
  let mode : Mode := ⟨setting flags 'u' p.mode.unicode, setting flags 'x' p.mode.spaced⟩
  match cs.drop flags.length with
  | ':' :: rest => if areFlags flags then some (p.enter mode, rest) else none
  | _ :: rest =>
    if areFlags flags && !flags.isEmpty then
      some ({ p with mode := mode, repeatable := false }, rest)
    else none
  | [] => none

/-- A group begins, from behind its bracket. No group looks ahead or behind. -/
def group? (p : Progress) (cs : List Char) : Option (Progress × List Char) :=
  match skip p.mode cs with
  | '?' :: '=' :: _ => none
  | '?' :: '!' :: _ => none
  | '?' :: '<' :: '=' :: _ => none
  | '?' :: '<' :: '!' :: _ => none
  | '?' :: 'P' :: '<' :: rest => p.name? rest
  | '?' :: '<' :: rest => p.name? rest
  | '?' :: rest => p.flags? rest
  | rest => some (p.enter p.mode, rest)

/-- A group ends. -/
def leave? (p : Progress) : Option Progress :=
  match p.outer with
  | [] => none
  | m :: outer => some { p with mode := m, outer := outer, repeatable := true }

/-- The rest after a repetition and the mark that makes it reluctant. -/
def reluctant : List Char → List Char
  | '?' :: rest => rest
  | rest => rest

/-- One step, of a character at least. -/
def step? (p : Progress) : List Char → Option (Progress × List Char)
  | [] => none
  | c :: rest =>
    let read : Progress := { p with repeatable := true }
    if c = '(' then p.group? rest
    else if c = ')' then p.leave?.map (·, rest)
    else if c = '|' then some ({ p with repeatable := false }, rest)
    else if c = '[' then
      ((opening? p.mode rest).bind (classes? p.mode rest.length 0)).map (read, ·)
    else if c = '?' || c = '*' || c = '+' then
      if p.repeatable then some (p, reluctant rest) else none
    else if c = '\x7b' then none
    else if c = '\\' then (escape? p.mode rest).map fun (_, rest) => (read, rest)
    else if c = '.' && !p.mode.unicode then none
    else some (read, rest)

/-- Reads to the end, where no group may be open. -/
def finishes : Nat → Progress → List Char → Bool
  | 0, _, _ => false
  | fuel + 1, p, cs =>
    match skip p.mode cs with
    | [] => p.outer.isEmpty
    | cs =>
      match p.step? cs with
      | some (p, rest) => finishes fuel p rest
      | none => false

end Progress

end Pattern

/-- Whether a text is a regular expression. -/
def isPattern (cs : List Char) : Bool :=
  Pattern.Progress.start.finishes (cs.length + 1) cs

end EvictionGate.Startup
