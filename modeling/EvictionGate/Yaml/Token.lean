import EvictionGate.Yaml.Scalar

/-!
# Tokens of a document

A document is cut into signs and scalars. Where brackets and braces are open, signs alone
tell what belongs together; elsewhere indentation does, and the beginnings and ends of
lists and mappings are tokens of their own.

A text is known to be a key only when the colon after it is found. Its place among the
tokens is kept until then, and the token that says so is put there. A key stands on one
line and within 1024 characters before its colon; one that begins where its mapping's
lines begin must be followed by a colon.
-/

namespace EvictionGate.Yaml

/-- A token. -/
inductive Token
  | version (major minor : Nat)
  /-- A handle of tags and what it stands for. -/
  | handle (name start : List Char)
  | documentStart
  | documentEnd
  | listStart
  | mapStart
  | blockEnd
  | flowListStart
  | flowListEnd
  | flowMapStart
  | flowMapEnd
  | comma
  | item
  | key
  | value
  | alias (name : List Char)
  | anchor (name : List Char)
  /-- A tag: a handle, which may be empty, and what follows it. -/
  | tag (handle suffix : List Char)
  | scalar (text : List Char) (isPlain : Bool)
  deriving DecidableEq

/-- A place where a key may have begun. -/
structure KeyPlace where
  isRequired : Bool
  number : Nat
  line : Nat
  column : Nat
  index : Nat

/-- How far a text has been cut into tokens. The newest token is first. -/
structure Scan where
  here : Cursor
  indent : Int
  indents : List Int
  key : Option KeyPlace
  /-- The places where keys may have begun outside the open brackets and braces, one for
  each of these. -/
  outer : List (Option KeyPlace)
  mayBeKey : Bool
  tokens : List Token
  count : Nat

namespace Scan

/-- Nothing has been cut yet. -/
def start (text : List Char) : Scan :=
  ⟨.start text, -1, [], none, [], true, [], 0⟩

/-- Whether brackets or braces are open. -/
def inFlow (s : Scan) : Bool := !s.outer.isEmpty

/-- One more token. -/
def emit (t : Token) (s : Scan) : Scan :=
  { s with tokens := t :: s.tokens, count := s.count + 1 }

/-- A token before the one with a number. -/
def insert (number : Nat) (t : Token) (s : Scan) : Scan :=
  let n := s.count - number
  { s with tokens := s.tokens.take n ++ t :: s.tokens.drop n, count := s.count + 1 }

/-- Goes on after some characters. -/
def skip (n : Nat) (s : Scan) : Scan :=
  { s with here := s.here.skip n }

/-! ## Keys -/

/-- The most characters from the beginning of a key to its colon. -/
def maxKey : Nat := 1024

/-- A place where a key may have begun, unless it is too far back. -/
def keepKey? (here : Cursor) : Option KeyPlace → Option (Option KeyPlace)
  | none => some none
  | some k =>
    if k.line < here.line || k.index + maxKey < here.index then
      if k.isRequired then none else some none
    else some (some k)

/-- Forgets the places that are too far back. -/
def dropOldKeys? (s : Scan) : Option Scan := do
  let key ← keepKey? s.here s.key
  let outer ← s.outer.mapM (keepKey? s.here)
  some { s with key := key, outer := outer }

/-- Forgets the place where a key may have begun. -/
def dropKey? (s : Scan) : Option Scan :=
  if s.key.any (·.isRequired) then none else some { s with key := none }

/-- A key may begin here. -/
def markKey? (s : Scan) : Option Scan := do
  if s.mayBeKey then
    let isRequired := !s.inFlow && s.indent = (s.here.column : Int)
    let s ← s.dropKey?
    some { s with key := some ⟨isRequired, s.count, s.here.line, s.here.column, s.here.index⟩ }
  else some s

/-! ## Indentation -/

/-- Ends the lists and mappings that are indented deeper than a column. -/
def unindent (column : Int) (s : Scan) : Scan :=
  if s.inFlow then s
  else
    let deeper := (s.indent :: s.indents).takeWhile fun i => column < i
    match (s.indent :: s.indents).drop deeper.length with
    | indent :: indents =>
      let ends := List.replicate deeper.length Token.blockEnd
      { s with indent := indent, indents := indents, tokens := ends ++ s.tokens,
               count := s.count + deeper.length }
    | [] => s

/-- Begins a list or a mapping at a column, unless it has begun. Its token goes before
the one with a number. -/
def indentTo (column : Nat) (number : Nat) (t : Token) (s : Scan) : Scan :=
  if s.inFlow || (column : Int) ≤ s.indent then s
  else { s.insert number t with indent := column, indents := s.indent :: s.indents }

/-! ## Signs -/

/-- Ends what is open and begins or ends a document. -/
def document? (t : Token) (s : Scan) : Option Scan := do
  let s ← (s.unindent (-1)).dropKey?
  some ({ s with mayBeKey := false }.skip 3 |>.emit t)

/-- Opens a bracket or a brace. -/
def openFlow? (t : Token) (s : Scan) : Option Scan := do
  let s ← s.markKey?
  some ({ s with outer := s.key :: s.outer, key := none, mayBeKey := true }.skip 1 |>.emit t)

/-- Closes a bracket or a brace. -/
def closeFlow? (t : Token) (s : Scan) : Option Scan := do
  let s ← s.dropKey?
  let s := match s.outer with
    | key :: outer => { s with key := key, outer := outer }
    | [] => s
  some ({ s with mayBeKey := false }.skip 1 |>.emit t)

/-- A comma. -/
def comma? (s : Scan) : Option Scan := do
  let s ← s.dropKey?
  some ({ s with mayBeKey := true }.skip 1 |>.emit .comma)

/-- The hyphen before an item of a list. -/
def item? (s : Scan) : Option Scan := do
  if !s.inFlow && !s.mayBeKey then none
  else
    let s ← (s.indentTo s.here.column s.count .listStart).dropKey?
    some ({ s with mayBeKey := true }.skip 1 |>.emit .item)

/-- The question mark before a key. -/
def key? (s : Scan) : Option Scan := do
  if !s.inFlow && !s.mayBeKey then none
  else
    let s ← (s.indentTo s.here.column s.count .mapStart).dropKey?
    some ({ s with mayBeKey := !s.inFlow }.skip 1 |>.emit .key)

/-- The colon before a value. -/
def value? (s : Scan) : Option Scan :=
  match s.key with
  | some k =>
    let s := (s.insert k.number .key).indentTo k.column k.number .mapStart
    some ({ s with key := none, mayBeKey := false }.skip 1 |>.emit .value)
  | none =>
    if !s.inFlow && !s.mayBeKey then none
    else
      let s := s.indentTo s.here.column s.count .mapStart
      some ({ s with mayBeKey := !s.inFlow }.skip 1 |>.emit .value)

/-! ## Names, tags and directives -/

/-- Whether a character may follow a name. -/
def endsName (cs : List Char) : Bool :=
  endsWord cs || (cs.head?.any fun c => ['?', ':', ',', ']', '\x7d', '%', '@', '\x60'].contains c)

/-- A name for what follows, or what a name stands for. -/
def name? (make : List Char → Token) (s : Scan) : Option Scan := do
  let s ← s.markKey?
  let here := s.here.skip 1
  let name := here.rest.takeWhile isNameChar
  if name.isEmpty || !endsName (here.rest.drop name.length) then none
  else some ({ s with mayBeKey := false, here := here.skip name.length }.emit (make name))

/-- Whether a character may stand in a tag. -/
def isTagChar (verbatim : Bool) (c : Char) : Bool :=
  isNameChar c || (";/?:@&=+$.%!~*'()".toList.contains c)
    || (verbatim && (c = ',' || c = '[' || c = ']'))

/-- The bytes that are written after percent signs are those of characters. -/
def unescapeTag? : Nat → List Char → Option (List Char)
  | 0, _ => none
  | _ + 1, [] => some []
  | fuel + 1, '%' :: rest => do
    let byte? (cs : List Char) : Option Nat :=
      match cs with
      | a :: b :: _ => hexNumber? [a, b]
      | _ => none
    let first ← byte? rest
    let width ←
      if first < 0x80 then some 1
      else if first / 32 = 6 then some 2
      else if first / 16 = 14 then some 3
      else if first / 8 = 30 then some 4
      else none
    let more := rest.drop 2
    let trail ← (List.range (width - 1)).mapM fun i =>
      match more.drop (3 * i) with
      | '%' :: cs => (byte? cs).bind fun b => if b / 64 = 2 then some (b % 64) else none
      | _ => none
    let lead := if width = 1 then first else first % Nat.pow 2 (7 - width)
    let code := trail.foldl (fun n b => n * 64 + b) lead
    let tail ← unescapeTag? fuel (more.drop (3 * (width - 1)))
    some (Char.ofNat code :: tail)
  | fuel + 1, c :: rest => (unescapeTag? fuel rest).map (c :: ·)

/-- The characters of a tag, and the place after them. -/
def tagText? (verbatim : Bool) (here : Cursor) : Option (List Char × Cursor) :=
  let text := here.rest.takeWhile (isTagChar verbatim)
  (unescapeTag? (text.length + 1) text).map (·, here.skip text.length)

/-- The handle at the beginning of a tag: what stands between exclamation marks, or the
mark alone. -/
def tagHandle (cs : List Char) : List Char :=
  let name := (cs.drop 1).takeWhile isNameChar
  match cs.drop (name.length + 1) with
  | '!' :: _ => '!' :: name ++ ['!']
  | _ => ['!']

/-- The handle and the rest of a tag, and the place after it. -/
def tagParts? (here : Cursor) : Option (List Char × List Char × Cursor) :=
  match here.rest with
  | '!' :: '<' :: _ => do
    let (text, here) ← tagText? true (here.skip 2)
    match here.rest with
    | '>' :: _ => if text.isEmpty then none else some ([], text, here.skip 1)
    | _ => none
  | cs => do
    let handle := tagHandle cs
    let (text, here) ← tagText? false (here.skip handle.length)
    if handle.length = 1 then
      if text.isEmpty then some ([], ['!'], here) else some (handle, text, here)
    else if text.isEmpty then none
    else some (handle, text, here)

/-- A tag for what follows. -/
def tag? (s : Scan) : Option Scan := do
  let s ← s.markKey?
  let (handle, suffix, here) ← tagParts? s.here
  let isEnd := endsWord here.rest || (s.inFlow && here.rest.head? = some ',')
  if isEnd then some ({ s with mayBeKey := false, here := here }.emit (.tag handle suffix))
  else none

/-- A number of at most nine digits, and the place after it. -/
def number? (here : Cursor) : Option (Nat × Cursor) :=
  let digits := here.rest.takeWhile Char.isDigit
  if digits.isEmpty || 9 < digits.length then none
  else some (digits.foldl (fun n c => n * 10 + (c.toNat - 48)) 0, here.skip digits.length)

/-- What a directive says, and the place after it. -/
def directiveToken? (here : Cursor) : Option (Token × Cursor) := do
  let name := here.rest.takeWhile isNameChar
  let here := here.skip name.length
  if !endsWord here.rest then none
  else if String.ofList name = "YAML" then
    let (major, here) ← number? (here.skipWhile isBlank)
    match here.rest with
    | '.' :: _ =>
      let (minor, here) ← number? (here.skip 1)
      some (.version major minor, here)
    | _ => none
  else if String.ofList name = "TAG" then
    let here := here.skipWhile isBlank
    let handle := tagHandle here.rest
    let after := here.skip handle.length
    if here.rest.head? != some '!' || !(after.rest.head?.any isBlank) then none
    else
      let (text, here) ← tagText? true (after.skipWhile isBlank)
      if text.isEmpty || !endsWord here.rest then none else some (.handle handle text, here)
  else none

/-- A directive, which has a line of its own. -/
def directive? (s : Scan) : Option Scan := do
  let s ← (s.unindent (-1)).dropKey?
  let (t, here) ← directiveToken? (s.here.skip 1)
  let here ← here.closeLine?
  some ({ s with mayBeKey := false, here := here }.emit t)

/-! ## Texts -/

/-- A block of lines. -/
def block? (folded : Bool) (s : Scan) : Option Scan := do
  let s ← s.dropKey?
  let (text, here) ← Yaml.block? folded s.indent (s.here.skip 1)
  some ({ s with mayBeKey := true, here := here }.emit (.scalar text false))

/-- A text in quotes. -/
def quoted? (single : Bool) (s : Scan) : Option Scan := do
  let s ← s.markKey?
  let (text, here) ← Yaml.quoted? single (s.here.rest.length + 1) [] (s.here.skip 1)
  some ({ s with mayBeKey := false, here := here }.emit (.scalar text false))

/-- A plain text. After one that ends with its line a key may begin. -/
def plain? (s : Scan) : Option Scan := do
  let s ← s.markKey?
  let span ← Yaml.plain? s.inFlow (s.indent + 1) (s.here.rest.length + 1) [] .none s.here
  some ({ s with mayBeKey := span.isLine, here := span.after }.emit (.scalar span.text true))

/-- Whether a plain text may begin with a character, given what follows it. -/
def startsPlain (inFlow : Bool) (c : Char) (rest : List Char) : Bool :=
  !("-?:,[]\x7b\x7d#&*!|>'\"%@\x60".toList.contains c)
    || (c = '-' && !(rest.head?.any isBlank))
    || (!inFlow && (c = '?' || c = ':') && !endsWord rest)

/-! ## The next token -/

/-- Skips blanks, comments and the ends of lines. A tab may not stand where a key may
begin. -/
def skipToToken : Nat → Scan → Scan
  | 0, s => s
  | fuel + 1, s =>
    let here := match s.here.rest with
      | '\ufeff' :: _ => if s.here.column = 0 then s.here.skip 1 else s.here
      | _ => s.here
    let tabs := s.inFlow || !s.mayBeKey
    let here := (here.skipWhile fun c => c = ' ' || (tabs && c = '\t')).skipComment
    match here.rest with
    | c :: _ =>
      if isBreak c then
        skipToToken fuel { s with here := here.nextLine, mayBeKey := s.mayBeKey || !s.inFlow }
      else { s with here := here }
    | [] => { s with here := here }

/-- Cuts the token that begins here. -/
def token? (s : Scan) : Option Scan :=
  match s.here.rest with
  | [] => none
  | c :: rest =>
    let isSign := endsWord rest
    if s.here.column = 0 && c = '%' then s.directive?
    else if s.here.isAtMark '-' then s.document? .documentStart
    else if s.here.isAtMark '.' then s.document? .documentEnd
    else if c = '[' then s.openFlow? .flowListStart
    else if c = '\x7b' then s.openFlow? .flowMapStart
    else if c = ']' then s.closeFlow? .flowListEnd
    else if c = '\x7d' then s.closeFlow? .flowMapEnd
    else if c = ',' then s.comma?
    else if c = '-' && isSign then s.item?
    else if c = '?' && (s.inFlow || isSign) then s.key?
    else if c = ':' && (s.inFlow || isSign) then s.value?
    else if c = '*' then s.name? .alias
    else if c = '&' then s.name? .anchor
    else if c = '!' then s.tag?
    else if c = '|' && !s.inFlow then s.block? false
    else if c = '>' && !s.inFlow then s.block? true
    else if c = '\x27' then s.quoted? true
    else if c = '"' then s.quoted? false
    else if startsPlain s.inFlow c rest then s.plain?
    else none

/-- Ends the text. -/
def finish? (s : Scan) : Option (List Token) := do
  let s ← (s.unindent (-1)).dropKey?
  some s.tokens.reverse

/-- Cuts the rest of the text. -/
def run? : Nat → Scan → Option (List Token)
  | 0, _ => none
  | fuel + 1, s => do
    let s ← (skipToToken (s.here.rest.length + 1) s).dropOldKeys?
    let s := s.unindent s.here.column
    if s.here.rest.isEmpty then s.finish?
    else s.token?.bind (run? fuel)

end Scan

/-- The tokens of a text, perhaps after a mark of the order of its bytes. -/
def tokens? (text : List Char) : Option (List Token) :=
  let text := match text with
    | '\ufeff' :: rest => rest
    | text => text
  if text.all isAllowed then (Scan.start text).run? (text.length + 1) else none

end EvictionGate.Yaml
