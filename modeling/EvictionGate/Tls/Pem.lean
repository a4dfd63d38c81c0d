import EvictionGate.Text.Utf8
import EvictionGate.Tls.Base64

/-!
# PEM files

A file holds blocks between a BEGIN and an END line, with any text around them. A
block may start with headers, which a blank line ends; after one, the lines of the
body are at most 64 characters and only the last may be shorter.

`finds` lists what is found in a file when a search goes on after each find: a block, or
a broken one. A block is broken by bad base64, by no data at all, by an END line that is
missing or for another label, by a second blank line. A line that begins with a zero byte
ends a search as the end of the file does.
-/

namespace EvictionGate.Tls.Pem

/-- A block with its data. -/
structure Block where
  label : List UInt8
  /-- What stands before the body. -/
  headers : List UInt8
  /-- The data; there is some. -/
  data : List UInt8
  deriving DecidableEq

/-- What a search ends with. -/
inductive Find
  | block (b : Block)
  | broken
  | nothing
  deriving DecidableEq

/-- The most bytes of a line that are read at once. -/
def maxLine : Nat := 254

/-- The lines of a file with their ends, after `room` more bytes of the first. A line
that is too long comes in parts. -/
def linesFrom (room : Nat) : List UInt8 → List (List UInt8)
  | [] => []
  | b :: bs =>
    if b == 0x0A || room ≤ 1 then [b] :: linesFrom maxLine bs
    else match bs with
      | [] => [[b]]
      | bs =>
        match linesFrom (room - 1) bs with
        | line :: lines => (b :: line) :: lines
        | [] => [[b]]

/-- The lines of a file. Nothing is seen of a line from a zero byte on. -/
def lines (file : List UInt8) : List (List UInt8) :=
  (linesFrom maxLine file).map (·.takeWhile (· != 0))

/-- A line without what is not visible ASCII at its end. -/
def trimmed (line : List UInt8) : List UInt8 :=
  (line.reverse.dropWhile fun b => b ≤ 0x20 || 0x80 ≤ b).reverse

/-- Whether a line stops before its end. -/
def isPart (line : List UInt8) : Bool :=
  line.length = maxLine && line.getLast? != some 0x0A

/-- The line without a byte order mark. -/
def withoutMark : List UInt8 → List UInt8
  | 0xEF :: 0xBB :: 0xBF :: b :: rest => b :: rest
  | line => line

/-- What follows a prescribed start. -/
def after? (start line : List UInt8) : Option (List UInt8) :=
  if start.isPrefixOf line then some (line.drop start.length) else none

/-- The label between a start and five hyphens. -/
def label? (start : String) (line : List UInt8) : Option (List UInt8) :=
  let hyphens := Text.bytes "-----"
  match after? (Text.bytes start) line with
  | none => none
  | some rest =>
    if hyphens.isSuffixOf rest then some (rest.take (rest.length - hyphens.length)) else none

/-- The label of a BEGIN line. -/
def beginLabel? (line : List UInt8) : Option (List UInt8) :=
  label? "-----BEGIN " line

/-- How far a block has been read. -/
inductive Phase
  /-- Headers or body, as will turn out. -/
  | undecided
  /-- Headers. -/
  | headers
  /-- The body, after a blank line. -/
  | body
  deriving DecidableEq

/-- A block under way. -/
structure Open where
  label : List UInt8
  phase : Phase
  /-- What has been read before a blank line. -/
  before : List UInt8
  /-- What has been read after it. -/
  text : List UInt8
  /-- Whether the last line was only a part of one. -/
  wasPart : Bool
  /-- Whether a short line has ended the body. -/
  complete : Bool

/-- What becomes of a block at a line. -/
inductive Next
  | goesOn (b : Open)
  | closed (b : Block)
  | broken

/-- The block whose END line has been met. -/
def close (b : Open) : Next :=
  let (headers, text) := if b.phase = .undecided then ([], b.before) else (b.before, b.text)
  match Base64.decode? text with
  | some (byte :: bytes) => .closed ⟨b.label, headers, byte :: bytes⟩
  | _ => .broken

/-- The block after one more line. -/
def line (b : Open) (raw : List UInt8) : Next :=
  let b := if b.phase = .undecided && raw.contains 0x3A then { b with phase := .headers } else b
  let wasPart := b.wasPart
  let b := { b with wasPart := isPart raw }
  let text := trimmed raw
  if text.isEmpty then
    if wasPart then .goesOn b
    else if b.phase = .body then .broken
    else .goesOn { b with phase := .body }
  else match after? (Text.bytes "-----END ") text with
    | some rest => if rest = b.label ++ Text.bytes "-----" then close b else .broken
    | none =>
      if b.complete then .broken
      else if b.phase = .body then
        if 64 < text.length then .broken
        else .goesOn
          { b with text := b.text ++ text ++ [0x0A], complete := text.length < 64 }
      else .goesOn { b with before := b.before ++ text ++ [0x0A] }

/-- What is found in the lines of a file. `first` says whether a byte order mark may
come. -/
def scan (first : Bool) : Option Open → List (List UInt8) → List Find
  | none, [] => []
  | some _, [] => [.broken]
  | none, [] :: rest => .nothing :: scan true none rest
  | some _, [] :: rest => .broken :: scan true none rest
  | none, raw :: rest =>
    let raw := if first then withoutMark raw else raw
    match beginLabel? (trimmed raw) with
    | some label => scan false (some ⟨label, .undecided, [], [], false, false⟩) rest
    | none => scan false none rest
  | some b, raw :: rest =>
    match line b raw with
    | .goesOn b => scan false (some b) rest
    | .closed block => .block block :: scan true none rest
    | .broken => .broken :: scan true none rest

/-- What is found in a file. -/
def finds (file : List UInt8) : List Find :=
  scan true none (lines file)

/-- The data of the first block with one of some labels, and what is found after it. A
broken block before it leaves nothing, nor does one with headers. -/
def first? (labels : List String) : List Find → Option (List UInt8 × List Find)
  | .block b :: rest =>
    if labels.any fun l => Text.bytes l = b.label then
      if b.headers.isEmpty then some (b.data, rest) else none
    else first? labels rest
  | _ => none

end EvictionGate.Tls.Pem
