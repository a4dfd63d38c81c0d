import EvictionGate.Log
import EvictionGate.Startup.Pattern

/-!
# Log filters

Which lines of the log are shown is told by a list of directives between commas: a
level, a source, or a source and a level with an equals sign between them. A directive
for a source counts for every source that begins with it.

In brackets a directive may name a span, and in braces fields, with or without a value.
The lines of a span are shown while it lasts, and no line here is written in one. A
directive for fields without values counts for the lines that have all of them; every
line has a single field, its message.

Of the directives that count for a line the one with the longest source decides, then the
one with most fields, and of two alike the later.
-/

namespace EvictionGate.Startup

/-- A line of the log with the part of the program that wrote it. -/
structure Entry where
  source : String
  line : LogLine
  deriving DecidableEq, Repr

/-- The field that holds the text of a line. -/
def messageField : String := "message"

/-- A field that a directive asks for. -/
structure Field where
  name : String
  hasValue : Bool
  deriving DecidableEq, Repr

/-- One directive: it shows the lines of a source, or of all, up to a verbosity. -/
structure Directive where
  source : Option String
  span : Option String
  fields : List Field
  most : Nat
  deriving DecidableEq, Repr

/-- A list of directives. -/
abbrev LogFilter := List Directive

/-- The number that a text is in decimal digits, perhaps with a plus sign. -/
def number? (cs : List Char) : Option Nat :=
  let digits := match cs with
    | '+' :: rest => rest
    | cs => cs
  if digits.isEmpty then none
  else digits.foldlM (fun n c =>
    if c.isDigit then some (n * 10 + (c.toNat - '0'.toNat)) else none) 0

/-- Levels by name and verbosity; nothing is as verbose as `off`. -/
def levelNames : List (String × Nat) :=
  ("OFF", 0) :: [Level.error, .warn, .info, .debug, .trace].map fun l => (l.name, l.verbosity)

/-- The most verbose level. -/
def mostVerbose : Nat := Level.trace.verbosity

/-- The verbosity that a text names, by a name in any letter case or by a number. -/
def verbosity? (cs : List Char) : Option Nat :=
  match number? cs with
  | some n => if n ≤ mostVerbose then some n else none
  | none =>
    (levelNames.find? fun l => l.1.toList == cs.map Char.toUpper).map Prod.snd

/-- The verbosity after an equals sign; nothing stands for all. -/
def givenVerbosity? (cs : List Char) : Option Nat :=
  if cs.isEmpty then some mostVerbose else verbosity? cs

/-- Whether a text is a number with a point or an exponent perhaps, or the name of one
that is not finite. -/
def isReal (cs : List Char) : Bool :=
  let digits (cs : List Char) := cs.takeWhile Char.isDigit
  let unsigned (cs : List Char) : List Char := match cs with
    | '+' :: rest => rest
    | '-' :: rest => rest
    | cs => cs
  let magnitude := unsigned cs
  let whole := digits magnitude
  let (fraction, rest) := match magnitude.drop whole.length with
    | '.' :: rest => (digits rest, rest.drop (digits rest).length)
    | rest => ([], rest)
  let ends := match rest with
    | [] => true
    | e :: rest =>
      let scale := unsigned rest
      e.toLower = 'e' && !scale.isEmpty && scale.all Char.isDigit
  [['i', 'n', 'f'], ['i', 'n', 'f', 'i', 'n', 'i', 't', 'y'], ['n', 'a', 'n']].contains
      (magnitude.map Char.toLower)
    || ((!whole.isEmpty || !fraction.isEmpty) && ends)

/-- Reads a field: a name, and after an equals sign a value, which is a number or a
pattern and ends before the next equals sign. -/
def Field.ofChars? (cs : List Char) : Option Field :=
  let name := cs.takeWhile (· ≠ '=')
  match cs.drop name.length with
  | [] => if name.isEmpty then none else some ⟨String.ofList name, false⟩
  | _ :: rest =>
    let value := rest.takeWhile (· ≠ '=')
    if isReal value || isPattern value then some ⟨String.ofList name, true⟩ else none

namespace Directive

/-- Whether a character may begin a directive, apart from a bracket. -/
def isStart (c : Char) : Bool :=
  Text.isAlphanumeric c || c = '-' || c = ':' || c = '_'

/-- What may follow the bracket that closes a span. -/
def afterSpan? (d : Directive) (bare cs : List Char) : Option Directive :=
  match bare with
  | [] => some d
  | '=' :: _ => (givenVerbosity? (cs.drop 1)).map fun most => { d with most := most }
  | _ => none

/-- Reads from inside the brackets of a span, which may ask for a field in braces. -/
def span? (source : Option String) (bare cs : List Char) : Option Directive :=
  let length := (bare.takeWhile fun c => c ≠ ']' && c ≠ '\x7b').length
  let name := String.ofList (cs.take length)
  let cs := cs.drop (length + 1)
  match bare.drop length with
  | ']' :: rest => afterSpan? ⟨source, some name, [], mostVerbose⟩ rest cs
  | _ :: fields =>
    let span := if length = 0 then none else some name
    let length := (fields.takeWhile (· ≠ '\x7d')).length
    match fields.drop length with
    | _ :: ']' :: rest => do
      let field ← Field.ofChars? (cs.take length)
      afterSpan? ⟨source, span, [field], mostVerbose⟩ rest (cs.drop (length + 2))
    | _ => none
  | [] => none

/-- Reads a directive. Where its parts end is looked up without the blanks around it;
the parts are then cut from the directive as it is. -/
def ofChars? (cs : List Char) : Option Directive :=
  let bare := Text.trimChars cs
  let length := (bare.takeWhile fun c => c ≠ '=' && c ≠ '[').length
  let source := some (String.ofList (cs.take length))
  match bare, bare.drop length with
  | [], _ => none
  | '[' :: rest, _ => span? none rest (cs.drop 1)
  | c :: _, after =>
    if !isStart c then none
    else match after with
      | [] =>
        match verbosity? cs with
        | some most => some ⟨none, none, [], most⟩
        | none => some ⟨some (String.ofList cs), none, [], mostVerbose⟩
      | '[' :: rest => span? source rest (cs.drop (length + 1))
      | _ => (givenVerbosity? (cs.drop (length + 1))).map (⟨source, none, [], ·⟩)

/-- Whether a directive counts for the lines of a source. -/
def counts (d : Directive) (source : String) : Bool :=
  d.span.isNone && d.fields.all (fun f => f.name = messageField && !f.hasValue)
    && (d.source.getD "").toList.isPrefixOf source.toList

/-- How closely a directive is about the lines that it counts for: by the length of its
source, then by the number of its fields. -/
def closeness (d : Directive) : Nat × Nat :=
  (d.source.elim 0 (·.length + 1), d.fields.length)

/-- Whether a directive is at least as close as another. -/
def isAsClose (d e : Directive) : Bool :=
  e.closeness.1 < d.closeness.1
    || (e.closeness.1 = d.closeness.1 && e.closeness.2 ≤ d.closeness.2)

end Directive

namespace LogFilter

/-- Shows the lines of all sources up to level info. -/
def default : LogFilter := [⟨none, none, [], Level.info.verbosity⟩]

/-- Shows errors only. -/
def errorsOnly : LogFilter := [⟨none, none, [], Level.error.verbosity⟩]

/-- Reads a list of directives. An empty list shows errors only. -/
def ofText? (s : String) : Option LogFilter :=
  let parts := (Text.splitChars ',' s.toList).filter (!·.isEmpty)
  if parts.isEmpty then some errorsOnly else parts.mapM Directive.ofChars?

/-- The filter that a variable sets. One that is unset or cannot be read leaves the
default. -/
def ofVariable (v : Option String) : LogFilter :=
  (v.bind ofText?).getD default

/-- The directive that decides about the lines of a source. -/
def decider? (filter : LogFilter) (source : String) : Option Directive :=
  (filter.filter (·.counts source)).foldl
    (fun best d => match best with
      | some e => if d.isAsClose e then some d else best
      | none => some d) none

/-- The verbosity up to which the lines of a source are shown. -/
def verbosityFor (filter : LogFilter) (source : String) : Nat :=
  (filter.decider? source).elim 0 (·.most)

/-- Whether a line is shown. -/
def shows (filter : LogFilter) (e : Entry) : Bool :=
  e.line.level.verbosity ≤ filter.verbosityFor e.source

end LogFilter

end EvictionGate.Startup
