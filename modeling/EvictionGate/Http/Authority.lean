/-!
# Authorities

The part of an address that names a host, with an optional user before an at sign
and an optional port after a colon. A host in brackets may hold colons of its own.
Only its form is checked.
-/

namespace EvictionGate.Http

/-- Whether a character that has no meaning of its own may stand in an authority. -/
def isAuthorityChar (c : Char) : Bool :=
  c.isAlphanum || "!$&'()*+,-.;=_~".toList.contains c

/-- What has been seen of an authority. Colons and percent signs before an at sign or
inside brackets are forgotten again. -/
structure Authority where
  colons : Nat
  opened : Bool
  closed : Bool
  hasPercent : Bool
  /-- Whether the last character was an at sign. -/
  endsOpen : Bool
  deriving DecidableEq, Repr

namespace Authority

/-- Before the first character. -/
def start : Authority := ⟨0, false, false, false, false⟩

/-- The most colons in a row of host parts. -/
def maxColons : Nat := 8

/-- One more character. -/
def next (a : Authority) (c : Char) : Option Authority :=
  let a := { a with endsOpen := false }
  match c with
  | ':' => if maxColons ≤ a.colons then none else some { a with colons := a.colons + 1 }
  | '[' => if a.hasPercent || a.opened then none else some { a with opened := true }
  | ']' =>
    if a.opened && !a.closed then
      some { a with closed := true, colons := 0, hasPercent := false }
    else none
  | '@' => some { a with colons := 0, hasPercent := false, endsOpen := true }
  | '%' => some { a with hasPercent := true }
  | c => if isAuthorityChar c then some a else none

/-- Whether an authority may end here. -/
def isComplete (a : Authority) : Bool :=
  a.opened == a.closed && a.colons ≤ 1 && !a.endsOpen && !a.hasPercent

end Authority

/-- Whether characters form an authority; none do not. -/
def isAuthority (cs : List Char) : Bool :=
  !cs.isEmpty && ((cs.foldlM Authority.next .start).map Authority.isComplete).getD false

end EvictionGate.Http
