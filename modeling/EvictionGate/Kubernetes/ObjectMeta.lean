import EvictionGate.Json.Schema

/-!
# Object metadata

The part of an object that all objects share. The gate reads names, labels and
annotations; the other members are checked, because an object in which one of them
is malformed is not read at all.
-/

namespace EvictionGate

open EvictionGate.Json

/-- The metadata of an object, as far as the gate reads it. -/
structure ObjectMeta where
  name : Option String
  ns : Option String
  labels : Option (Dict String)
  annotations : Option (Dict String)
  deriving DecidableEq

namespace ObjectMeta

/-- The metadata of an object that has none. -/
def empty : ObjectMeta := ⟨none, none, none, none⟩

/-- An entry of the record of who manages which fields. -/
def managedFieldsSchema : Schema :=
  .record [
    ("apiVersion", .optional .text),
    ("fieldsType", .optional .text),
    ("fieldsV1", .optional .anything),
    ("manager", .optional .text),
    ("operation", .optional .text),
    ("subresource", .optional .text),
    ("time", .optional .instant)]

/-- A reference to the object that owns this one. -/
def ownerSchema : Schema :=
  .record [
    ("apiVersion", .optional .text),
    ("blockOwnerDeletion", .optional .flag),
    ("controller", .optional .flag),
    ("kind", .optional .text),
    ("name", .optional .text),
    ("uid", .optional .text)]

/-- What metadata has to look like. -/
def schema : Schema :=
  .record [
    ("annotations", .optional (.map .text)),
    ("creationTimestamp", .optional .instant),
    ("deletionGracePeriodSeconds", .optional (.integer 64)),
    ("deletionTimestamp", .optional .instant),
    ("finalizers", .optional (.list .text)),
    ("generateName", .optional .text),
    ("generation", .optional (.integer 64)),
    ("labels", .optional (.map .text)),
    ("managedFields", .optional (.list managedFieldsSchema)),
    ("name", .optional .text),
    ("namespace", .optional .text),
    ("ownerReferences", .optional (.list ownerSchema)),
    ("resourceVersion", .optional .text),
    ("selfLink", .optional .text),
    ("uid", .optional .text)]

/-- The texts of an object of texts; none of a null. -/
def texts? : Value → Option (Dict String)
  | .object ms => some (ms.filterMap fun p => p.2.text?.map (p.1, ·))
  | _ => none

/-- The metadata in a value. -/
def ofValue (v : Value) : ObjectMeta where
  name := (v.get? "name").bind Value.text?
  ns := (v.get? "namespace").bind Value.text?
  labels := (v.get? "labels").bind texts?
  annotations := (v.get? "annotations").bind texts?

/-- A label. -/
def labelAt? (m : ObjectMeta) (key : String) : Option String :=
  m.labels.bind fun d => Dict.get? d key

/-- An annotation. -/
def annotationAt? (m : ObjectMeta) (key : String) : Option String :=
  m.annotations.bind fun d => Dict.get? d key

/-- The metadata with an annotation set, or removed. -/
def annotate (m : ObjectMeta) (key : String) : Option String → ObjectMeta
  | some value => { m with annotations := some (Dict.insert (m.annotations.getD []) key value) }
  | none => { m with annotations := m.annotations.map fun d => Dict.erase d key }

/-! An annotation that is set reads back, one that is removed is gone, and nothing
else of the metadata changes. -/

@[simp] theorem annotationAt?_annotate_self (m : ObjectMeta) (key : String)
    (value : Option String) : (m.annotate key value).annotationAt? key = value := by
  cases value with
  | some v => simp [annotate, annotationAt?]
  | none => cases hm : m.annotations <;> simp [annotate, annotationAt?, hm]

theorem annotationAt?_annotate_of_ne (m : ObjectMeta) {key other : String}
    (value : Option String) (h : other ≠ key) :
    (m.annotate key value).annotationAt? other = m.annotationAt? other := by
  cases value with
  | some v =>
    cases hm : m.annotations <;>
      simp [annotate, annotationAt?, hm, Dict.get?_insert_of_ne _ _ h]
  | none =>
    cases hm : m.annotations <;> simp [annotate, annotationAt?, hm, Dict.get?_erase_of_ne _ h]

@[simp] theorem labels_annotate (m : ObjectMeta) (key : String) (value : Option String) :
    (m.annotate key value).labels = m.labels := by
  cases value <;> rfl

@[simp] theorem ns_annotate (m : ObjectMeta) (key : String) (value : Option String) :
    (m.annotate key value).ns = m.ns := by
  cases value <;> rfl

@[simp] theorem name_annotate (m : ObjectMeta) (key : String) (value : Option String) :
    (m.annotate key value).name = m.name := by
  cases value <;> rfl

theorem annotate_annotate (m : ObjectMeta) (key earlier later : String) :
    (m.annotate key (some earlier)).annotate key (some later) = m.annotate key (some later) := by
  simp [annotate, Dict.insert_insert]

/-- Of an annotation that is set and removed twice no more remains than of one that is set and
removed once. -/
theorem annotate_undone (m : ObjectMeta) (key value : String) :
    ((((m.annotate key (some value)).annotate key none).annotate key (some value)).annotate key
      none) = (m.annotate key (some value)).annotate key none := by
  simp [annotate, Dict.erase_insert, Dict.erase_erase]

end ObjectMeta

end EvictionGate
