import EvictionGate.Yaml.Cursor

/-!
# Scalars as they are written

A scalar is a text: plain, in single quotes, in double quotes with escapes, or a block of
lines after `|` or `>`. A plain or quoted text may go over several lines: the blanks
around the end of a line become one space, or the ends of the empty lines that follow.

Each reader gives the text and the place after it.
-/

namespace EvictionGate.Yaml

/-- What stands between the words of a scalar: blanks, or the end of a line with what it
stands for, and the ends of the empty lines after it. -/
structure Gap where
  blanks : List Char
  isLine : Bool
  first : List Char
  more : List Char

namespace Gap

/-- Nothing. -/
def none : Gap := ⟨[], false, [], []⟩

/-- The end of a line that stands for nothing. -/
def escaped : Gap := ⟨[], true, [], []⟩

/-- The text that a gap becomes. -/
def text (g : Gap) : List Char :=
  if !g.isLine then g.blanks
  else if g.first = ['\n'] then (if g.more.isEmpty then [' '] else g.more)
  else g.first ++ g.more

/-- One more end of a line. -/
def addBreak (g : Gap) (b : List Char) : Gap :=
  if g.isLine then { g with more := g.more ++ b } else ⟨[], true, b, []⟩

/-- One more blank; it counts only on the first line. -/
def addBlank (g : Gap) (c : Char) : Gap :=
  if g.isLine then g else { g with blanks := g.blanks ++ [c] }

/-- Reads a gap. A tab may not stand left of `indent` on a line of its own. -/
def read? (indent : Option Int) : Nat → Gap → Cursor → Option (Gap × Cursor)
  | 0, g, at_ => some (g, at_)
  | fuel + 1, g, at_ =>
    match at_.rest with
    | [] => some (g, at_)
    | c :: _ =>
      if isBreak c then read? indent fuel (g.addBreak at_.lineBreak) at_.nextLine
      else if !isBlank c then some (g, at_)
      else if c = '\t' && g.isLine && (indent.any fun i => (at_.column : Int) < i) then Option.none
      else read? indent fuel (g.addBlank c) (at_.skip 1)

end Gap

/-! ## Plain text -/

/-- Whether a character ends plain text in brackets and braces. -/
def isFlowEnd (c : Char) : Bool :=
  c = ',' || c = '[' || c = ']' || c = '\x7b' || c = '\x7d'

/-- The number of characters of a plain word: a colon before a blank is no part of it. In
brackets and braces a colon must not stand before one of those. -/
def plainLength? (inFlow : Bool) : List Char → Option Nat
  | [] => some 0
  | c :: rest =>
    let clash := match rest with
      | d :: _ => isFlowEnd d || d = '?'
      | [] => false
    if isBlank c || isBreak c then some 0
    else if inFlow && c = ':' && clash then none
    else if (c = ':' && endsWord rest) || (inFlow && isFlowEnd c) then some 0
    else (plainLength? inFlow rest).map (· + 1)

/-- A text that has been read, the place after it, and whether that is on another line. -/
structure Span where
  text : List Char
  after : Cursor
  isLine : Bool

/-- Reads plain text. Its lines stand at `indent` or right of it, except in brackets and
braces. -/
def plain? (inFlow : Bool) (indent : Int) :
    Nat → List Char → Gap → Cursor → Option Span
  | 0, text, gap, at_ => some ⟨text, at_, gap.isLine⟩
  | fuel + 1, text, gap, at_ =>
    if at_.isAtDocument || at_.rest.head? = some '#' then some ⟨text, at_, gap.isLine⟩
    else
      match plainLength? inFlow at_.rest with
      | none => none
      | some 0 => some ⟨text, at_, gap.isLine⟩
      | some n =>
        let text := text ++ gap.text ++ at_.rest.take n
        match Gap.read? (some indent) at_.rest.length .none (at_.skip n) with
        | none => none
        | some (gap, at_) =>
          if !inFlow && (at_.column : Int) < indent then some ⟨text, at_, gap.isLine⟩
          else plain? inFlow indent fuel text gap at_

/-! ## Quoted text -/

/-- The character that a letter stands for after a backslash. -/
def escaped? (c : Char) : Option Char :=
  [('0', '\x00'), ('a', '\x07'), ('b', '\x08'), ('t', '\t'), ('\t', '\t'), ('n', '\n'),
    ('v', '\x0b'), ('f', '\x0c'), ('r', '\r'), ('e', '\x1b'), (' ', ' '), ('"', '"'),
    ('/', '/'), ('\\', '\\'), ('N', '\u0085'), ('_', '\u00a0'), ('L', '\u2028'),
    ('P', '\u2029')].lookup c

/-- How many hexadecimal digits follow a letter after a backslash. -/
def escapedDigits? (c : Char) : Option Nat :=
  [('x', 2), ('u', 4), ('U', 8)].lookup c

/-- The value of a hexadecimal digit. -/
def hexValue? (c : Char) : Option Nat :=
  if c.isDigit then some (c.toNat - 48)
  else if 'a' ≤ c && c ≤ 'f' then some (c.toNat - 87)
  else if 'A' ≤ c && c ≤ 'F' then some (c.toNat - 55)
  else none

/-- The number in hexadecimal digits. -/
def hexNumber? (digits : List Char) : Option Nat :=
  digits.foldlM (fun n c => (hexValue? c).map fun d => n * 16 + d) 0

/-- The character after a backslash, and how many characters name it. -/
def escape? (cs : List Char) : Option (Char × Nat) :=
  match cs with
  | [] => none
  | c :: rest =>
    match escaped? c, escapedDigits? c with
    | some d, _ => some (d, 1)
    | none, some n =>
      match hexNumber? (rest.take n) with
      | some code =>
        if n ≤ rest.length && code.isValidChar then some (Char.ofNat code, n + 1) else none
      | none => none
    | none, none => none

/-- Where a word in quotes ends. -/
inductive Stop
  | closed
  | blank
  /-- At the end of a line that stands for nothing. -/
  | escapedLine

/-- Reads a word in quotes. -/
def quotedWord? (single : Bool) : Nat → List Char → Cursor → Option (List Char × Stop × Cursor)
  | 0, _, _ => none
  | fuel + 1, text, at_ =>
    match at_.rest with
    | [] => some (text, .blank, at_)
    | c :: rest =>
      if isBlank c || isBreak c then some (text, .blank, at_)
      else if single then
        if c ≠ '\x27' then quotedWord? single fuel (text ++ [c]) (at_.skip 1)
        else if rest.head? = some '\x27' then
          quotedWord? single fuel (text ++ ['\x27']) (at_.skip 2)
        else some (text, .closed, at_.skip 1)
      else if c = '"' then some (text, .closed, at_.skip 1)
      else if c ≠ '\\' then quotedWord? single fuel (text ++ [c]) (at_.skip 1)
      else if (rest.head?.map isBreak).getD false then
        some (text, .escapedLine, (at_.skip 1).nextLine)
      else
        match escape? rest with
        | some (d, n) => quotedWord? single fuel (text ++ [d]) (at_.skip (n + 1))
        | none => none

/-- Reads quoted text from behind its first quote. No line of it may start or end a
document. -/
def quoted? (single : Bool) : Nat → List Char → Cursor → Option (List Char × Cursor)
  | 0, _, _ => none
  | fuel + 1, text, at_ =>
    if at_.isAtDocument || at_.rest.isEmpty then none
    else
      let go (gap : Gap) (text : List Char) (at_ : Cursor) :=
        match Gap.read? none at_.rest.length gap at_ with
        | none => none
        | some (gap, at_) =>
          match at_.rest with
          | [] => none
          | _ => quoted? single fuel (text ++ gap.text) at_
      match quotedWord? single (at_.rest.length + 1) text at_ with
      | none => none
      | some (text, .closed, at_) => some (text, at_)
      | some (text, .blank, at_) => go .none text at_
      | some (text, .escapedLine, at_) => go .escaped text at_

/-! ## Blocks of lines -/

/-- What is done with the ends of lines at the end of a block. -/
inductive Chomp
  | strip
  | clip
  | keep

/-- The marks after the sign of a block: what is done at its end, and by how much it is
indented. -/
def blockMarks? (at_ : Cursor) : Option (Chomp × Nat × Cursor) :=
  let chomp? (c : Char) : Option Chomp :=
    if c = '+' then some .keep else if c = '-' then some .strip else none
  let digit? (c : Char) : Option Nat := if c.isDigit then some (c.toNat - 48) else none
  let checked (chomp : Chomp) (indent : Nat) (n : Nat) :=
    if indent = 0 then none else some (chomp, indent, at_.skip n)
  match at_.rest with
  | [] => some (.clip, 0, at_)
  | c :: rest =>
    let next := rest.head?
    match chomp? c, digit? c with
    | some chomp, _ =>
      match next.bind digit? with
      | some d => checked chomp d 2
      | none => some (chomp, 0, at_.skip 1)
    | none, some d =>
      match next.bind chomp? with
      | some chomp => checked chomp d 2
      | none => checked .clip d 1
    | none, none => some (.clip, 0, at_)

/-- Reads the empty lines before a line of a block, and its indentation. An indentation
of zero is not known yet and is then that of the first line, but at least `least`. -/
def blockLines? (least : Nat) :
    Nat → Nat → Nat → List Char → Cursor → Option (Nat × List Char × Cursor)
  | 0, _, _, _, _ => none
  | fuel + 1, indent, most, ends, at_ =>
    let spaces := (at_.rest.takeWhile (· = ' ')).length
    let at_ := at_.skip (if indent = 0 then spaces else min spaces (indent - at_.column))
    let most := max most at_.column
    match at_.rest with
    | c :: _ =>
      if c = '\t' && (indent = 0 || at_.column < indent) then none
      else if isBreak c then
        blockLines? least fuel indent most (ends ++ at_.lineBreak) at_.nextLine
      else some (if indent = 0 then max most least else indent, ends, at_)
    | [] => some (if indent = 0 then max most least else indent, ends, at_)

/-- The lines of a block that have been read: their text, the end of the last, and the
ends of the empty lines after it. -/
structure Block where
  text : List Char
  last : List Char
  empty : List Char
  /-- The last line begins with a blank. -/
  isBlank : Bool

/-- Reads the lines of a block. If it is folded, the end of a line between two lines that
do not begin with a blank is a space. -/
def blockText? (folded : Bool) (indent : Nat) : Nat → Block → Cursor → Option (Block × Cursor)
  | 0, b, at_ => some (b, at_)
  | fuel + 1, b, at_ =>
    match at_.rest with
    | [] => some (b, at_)
    | c :: _ =>
      if at_.column ≠ indent then some (b, at_)
      else
        let joint :=
          if folded && b.last = ['\n'] && !b.isBlank && !isBlank c then
            if b.empty.isEmpty then [' '] else b.empty
          else b.last ++ b.empty
        let line := at_.rest.takeWhile fun d => !isBreak d
        let text := b.text ++ joint ++ line
        let at_ := at_.lineEnd
        match blockLines? 1 (at_.rest.length + 1) indent 0 [] at_.nextLine with
        | none => none
        | some (_, ends, next) =>
          blockText? folded indent fuel ⟨text, at_.lineBreak, ends, isBlank c⟩ next

/-- Reads a block from behind its sign. `parent` is the indentation of what it stands in. -/
def block? (folded : Bool) (parent : Int) (at_ : Cursor) : Option (List Char × Cursor) :=
  match blockMarks? at_ with
  | none => none
  | some (chomp, increment, at_) =>
    match at_.closeLine? with
    | none => none
    | some at_ =>
      let base := parent.toNat
      let indent := if increment = 0 then 0 else base + increment
      let fuel := at_.rest.length + 1
      match blockLines? (max (parent + 1).toNat 1) fuel indent 0 [] at_ with
      | none => none
      | some (indent, ends, at_) =>
        match blockText? folded indent fuel ⟨[], [], ends, false⟩ at_ with
        | none => none
        | some (b, at_) =>
          match chomp with
          | .strip => some (b.text, at_)
          | .clip => some (b.text ++ b.last, at_)
          | .keep => some (b.text ++ b.last ++ b.empty, at_)

end EvictionGate.Yaml
