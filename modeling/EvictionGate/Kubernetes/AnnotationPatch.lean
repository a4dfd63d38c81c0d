import EvictionGate.Json.MergePatch
import EvictionGate.Json.Printer

/-!
# Annotation patches

The gate changes an object only by setting one annotation or removing it, as a
merge patch that names nothing else.
-/

namespace EvictionGate

open EvictionGate.Json

/-- The merge patch that sets an annotation, or removes it. -/
def annotationPatch (key : String) (value : Option String) : Value :=
  .object [("metadata", .object [("annotations", .object [(key, Value.ofText? value)])])]

/-- The text of the patch. -/
def annotationPatchText (key : String) (value : Option String) : String :=
  (annotationPatch key value).text

end EvictionGate
