import EvictionGate.Json.Value

/-!
# Merge patches

A merge patch (RFC 7386) is a value laid over another: a member that is null is
removed, a member that is an object is laid over the member of its name, every
other member replaces it.
-/

namespace EvictionGate.Json.Value

mutual

/-- The target with a patch laid over it. An absent target counts as no object. -/
def patched (target : Option Value) : Value → Value
  | .object patch => .object (patchedMembers ((target.map members).getD []) patch)
  | patch => patch

/-- The members of an object with the members of a patch laid over them. -/
def patchedMembers (target : Dict Value) : List (String × Value) → Dict Value
  | [] => target
  | (name, .null) :: patch => patchedMembers (Dict.erase target name) patch
  | (name, v) :: patch =>
    patchedMembers (Dict.insert target name (patched (Dict.get? target name) v)) patch

end

end EvictionGate.Json.Value
