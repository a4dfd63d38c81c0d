import EvictionGate.Http.Authority

/-!
# Request targets

A target names what a request is about: a path with an optional query, a whole
address, an authority, or an asterisk. A fragment is no part of it.
-/

namespace EvictionGate.Http

/-- A path with its query; no query is not the same as an empty one. -/
structure PathAndQuery where
  path : String
  query : Option String
  deriving DecidableEq, Repr

/-- Whether a character may stand in a path. The blank and the controls may not, and U+007F is
one of these; whatever lies beyond ASCII may. -/
def isPathChar (c : Char) : Bool :=
  0x80 ≤ c.toNat || ('!' ≤ c && c ≤ '~' && c ≠ '<' && c ≠ '>' && c ≠ '\x60')

/-- Whether a character may stand in a query: the same blank and controls may not. -/
def isQueryChar (c : Char) : Bool :=
  0x80 ≤ c.toNat || ('!' ≤ c && c ≤ '~' && c ≠ '"' && c ≠ '<' && c ≠ '>')

namespace PathAndQuery

/-- The characters of a target up to its fragment. -/
def withoutFragment (cs : List Char) : List Char :=
  cs.takeWhile (· ≠ '#')

/-- The parts of a target: the first question mark ends the path. -/
def ofChars (cs : List Char) : PathAndQuery :=
  let cs := withoutFragment cs
  let path := cs.takeWhile (· ≠ '?')
  match cs.drop path.length with
  | [] => ⟨String.ofList path, none⟩
  | _ :: query => ⟨String.ofList path, some (String.ofList query)⟩

/-- Whether a target holds only characters that it may. -/
def isSound (t : PathAndQuery) : Bool :=
  t.path.toList.all isPathChar && (t.query.getD "").toList.all isQueryChar

/-- The target as it is sent. -/
def text (t : PathAndQuery) : String :=
  match t.query with
  | none => t.path
  | some q => t.path ++ "?" ++ q

end PathAndQuery

/-- The most bytes that a target may have. -/
def maxTarget : Nat := 65534

/-- Whether a character may stand in the scheme of an address. -/
def isSchemeChar (c : Char) : Bool :=
  c.isAlphanum || c = '+' || c = '-' || c = '.' || c = '~'

/-- The scheme of an address and what follows its `://`. -/
def scheme? (cs : List Char) : Option (List Char × List Char) :=
  let scheme := cs.takeWhile isSchemeChar
  match cs.drop scheme.length with
  | ':' :: '/' :: '/' :: rest => some (scheme, rest)
  | _ => none

/-- The most characters that a scheme may have. -/
def maxScheme : Nat := 64

/-- Whether a character ends the authority of an address. -/
def endsAuthority (c : Char) : Bool :=
  c = '/' || c = '?' || c = '#'

/-- What a target names, in its parts. An address has a scheme and an authority; an
authority alone has neither scheme nor path. -/
structure Address where
  scheme : Option (List Char)
  authority : List Char
  target : PathAndQuery
  deriving DecidableEq, Repr

namespace Address

/-- A path and a query that hold only what they may. -/
def soundTarget? (cs : List Char) : Option PathAndQuery :=
  let t := PathAndQuery.ofChars cs
  if t.isSound then some t else none

/-- The common schemes are the same in either letter case. -/
def schemeName (cs : List Char) : List Char :=
  let name := cs.map Char.toLower
  if name = "http".toList || name = "https".toList then name else cs

/-- The parts of a whole address, from behind its scheme. -/
def whole? (scheme rest : List Char) : Option Address :=
  let authority := rest.takeWhile fun c => !endsAuthority c
  if scheme.length ≤ maxScheme && isAuthority authority then
    (soundTarget? (rest.drop authority.length)).map fun t =>
      ⟨some (schemeName scheme), authority, t⟩
  else none

/-- The parts of a target, if it is one. -/
def ofText? (s : String) : Option Address :=
  match s.toList with
  | '/' :: rest => (soundTarget? ('/' :: rest)).map (⟨none, [], ·⟩)
  | ['*'] => some ⟨none, [], ⟨"*", none⟩⟩
  | cs =>
    match scheme? cs with
    | some (scheme, rest) => whole? scheme rest
    | none => if isAuthority cs then some ⟨none, cs, ⟨"", none⟩⟩ else none

/-- The path; that of an address is at least the root. -/
def path (a : Address) : String :=
  if a.scheme.isSome && a.target.path = "" then "/" else a.target.path

/-- The address in writing, without its fragment. -/
def text (a : Address) : String :=
  let scheme := a.scheme.elim "" fun s => String.ofList s ++ "://"
  scheme ++ String.ofList a.authority ++ ({ a.target with path := a.path } : PathAndQuery).text

end Address

/-- The path of a target, if it is one. An authority alone has an empty path. -/
def targetPath? (target : String) : Option String :=
  (Address.ofText? target).map Address.path

end EvictionGate.Http
