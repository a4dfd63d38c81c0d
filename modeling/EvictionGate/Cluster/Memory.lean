import EvictionGate.Decision.Tree

/-!
# A cluster in memory

A world of pods and tracking objects that answers calls at once. Any operation can
be made to fail, for a number of calls or for good; a call that fails has no effect.
-/

namespace EvictionGate

/-- Where a tracking object lies. -/
structure TrackingKey where
  kind : TrackerKind
  tracker : Tracker
  deriving DecidableEq, Repr

/-- The entries of a table, one for each key. -/
abbrev Table (κ α : Type) := List (κ × α)

namespace Table

variable {κ α : Type} [DecidableEq κ]

/-- The entry under a key. -/
def get? : Table κ α → κ → Option α
  | [], _ => none
  | (k, v) :: t, key => if k = key then some v else get? t key

/-- The table with an entry set. -/
def set : Table κ α → κ → α → Table κ α
  | [], key, value => [(key, value)]
  | (k, v) :: t, key, value => if k = key then (key, value) :: t else (k, v) :: set t key value

/-- The table without an entry. -/
def erase (t : Table κ α) (key : κ) : Table κ α :=
  t.filter fun p => p.1 ≠ key

@[simp] theorem get?_set_self (t : Table κ α) (key : κ) (value : α) :
    (t.set key value).get? key = some value := by
  induction t with
  | nil => simp [set, get?]
  | cons p t ih =>
    obtain ⟨k, v⟩ := p
    by_cases hk : k = key
    · simp [set, get?, hk]
    · simp [set, get?, hk, ih]

theorem get?_set_of_ne (t : Table κ α) {key other : κ} (value : α) (h : other ≠ key) :
    (t.set key value).get? other = t.get? other := by
  induction t with
  | nil => simp [set, get?, h.symm]
  | cons p t ih =>
    obtain ⟨k, v⟩ := p
    by_cases hk : k = key
    · subst hk
      simp [set, get?, h.symm]
    · simp [set, get?, hk, ih]

/-- An entry that is set anew stands where the old one stood. -/
theorem set_set (t : Table κ α) (key : κ) (earlier later : α) :
    (t.set key earlier).set key later = t.set key later := by
  induction t with
  | nil => simp [set]
  | cons p t ih =>
    obtain ⟨k, v⟩ := p
    by_cases hk : k = key
    · simp [set, hk]
    · simp [set, hk, ih]

/-- Setting an entry to what it is changes nothing. -/
theorem set_eq_self {t : Table κ α} {key : κ} {value : α} (h : t.get? key = some value) :
    t.set key value = t := by
  induction t with
  | nil => simp [get?] at h
  | cons p t ih =>
    obtain ⟨k, v⟩ := p
    by_cases hk : k = key
    · simp [get?, hk] at h
      simp [set, hk, h]
    · simp [get?, hk] at h
      simp [set, hk, ih h]

@[simp] theorem get?_erase_self (t : Table κ α) (key : κ) : (t.erase key).get? key = none := by
  induction t with
  | nil => rfl
  | cons p t ih =>
    obtain ⟨k, v⟩ := p
    unfold erase at ih ⊢
    by_cases hk : k = key
    · simpa [hk] using ih
    · simpa [get?, hk] using ih

theorem get?_erase_of_ne (t : Table κ α) {key other : κ} (h : other ≠ key) :
    (t.erase key).get? other = t.get? other := by
  induction t with
  | nil => rfl
  | cons p t ih =>
    obtain ⟨k, v⟩ := p
    unfold erase at ih ⊢
    by_cases hk : k = key
    · subst hk
      simpa [get?, h.symm] using ih
    · rw [List.filter_cons_of_pos (by simpa using hk), get?, get?, ih]

end Table

/-- Whether a row of names comes before another, or is the same. -/
def namesLe : List String → List String → Bool
  | [], _ => true
  | _ :: _, [] => false
  | a :: as, b :: bs => if a = b then namesLe as bs else a < b

/-- A table in ascending order of rows of names. -/
def sortedBy {κ α : Type} (names : κ → List String) (t : Table κ α) : Table κ α :=
  t.mergeSort fun p q => namesLe (names p.1) (names q.1)

/-- The pods and the tracking objects of a cluster, each under the name by which it
is asked for. -/
structure World where
  pods : Table Target Pod
  tracking : Table TrackingKey DynamicObject

/-- What a call does, a patch that sets told from a patch that removes. -/
inductive Operation
  | getPod
  | getTracker
  | setTracker
  | clearTracker
  | patchPod
  deriving DecidableEq, Repr

namespace Operation

/-- All operations. -/
def all : List Operation := [.getPod, .getTracker, .setTracker, .clearTracker, .patchPod]

/-- The name of an operation. -/
def name : Operation → String
  | .getPod => "get_pod"
  | .getTracker => "get_tracking"
  | .setTracker => "set_tracking"
  | .clearTracker => "clear_tracking"
  | .patchPod => "patch_pod"

/-- The operation with a name. -/
def named? (s : String) : Option Operation :=
  all.find? fun o => o.name == s

end Operation

namespace Call

/-- What a call does. -/
def operation : Call → Operation
  | .getPod _ => .getPod
  | .getTracker _ _ => .getTracker
  | .patchTracker _ _ _ (some _) => .setTracker
  | .patchTracker _ _ _ none => .clearTracker
  | .patchPod _ _ _ => .patchPod

/-- Where a tracking object lies, as text. -/
def placeText (r : TrackerKind) (i : Tracker) : String :=
  r.name ++ " " ++ i.ns.getD "-" ++ " " ++ i.name

/-- A call in one line. -/
def text (c : Call) : String :=
  c.operation.name ++ " " ++
    match c with
    | .getPod t => t.ns ++ " " ++ t.name
    | .getTracker r i => placeText r i
    | .patchTracker r i key value => placeText r i ++ " " ++ key ++ "=" ++ value.getD "null"
    | .patchPod t key value => t.ns ++ " " ++ t.name ++ " " ++ key ++ "=" ++ value

end Call

/-- The answer about an object that does not exist. -/
def notFound : GateError :=
  .api (.refused ⟨"Failure", "not found", "NotFound", 404⟩)

namespace World

/-- The tracking object with an annotation set or removed. -/
def annotated (o : DynamicObject) (key : String) (value : Option String) : DynamicObject :=
  { o with metadata := o.metadata.annotate key value }

/-- The reply to a call, and the world after it. -/
def answer (w : World) : (c : Call) → Reply c × World
  | .getPod t =>
    match w.pods.get? t with
    | some pod => (.ok pod, w)
    | none => (.error notFound, w)
  | .getTracker r i =>
    match w.tracking.get? ⟨r, i⟩ with
    | some o => (.ok o, w)
    | none => (.error notFound, w)
  | .patchTracker r i key value =>
    match w.tracking.get? ⟨r, i⟩ with
    | some o => (.ok (), { w with tracking := w.tracking.set ⟨r, i⟩ (annotated o key value) })
    | none => (.error notFound, w)
  | .patchPod t key value =>
    match w.pods.get? t with
    | some pod =>
      let patched : Pod := { pod with metadata := pod.metadata.annotate key (some value) }
      (.ok (), { w with pods := w.pods.set t patched })
    | none => (.error notFound, w)

/-- The world without a pod. -/
def deletePod (w : World) (t : Target) : World :=
  { w with pods := w.pods.erase t }

/-- The world with a pod under a name. -/
def putPod (w : World) (t : Target) (pod : Pod) : World :=
  { w with pods := w.pods.set t pod }

/-- The world without a tracking object. -/
def deleteTracking (w : World) (k : TrackingKey) : World :=
  { w with tracking := w.tracking.erase k }

/-- The world with a tracking object. -/
def putTracking (w : World) (k : TrackingKey) (o : DynamicObject) : World :=
  { w with tracking := w.tracking.set k o }

/-- The pods in ascending order of namespace and name. -/
def sortedPods (w : World) : Table Target Pod :=
  sortedBy (fun t => [t.ns, t.name]) w.pods

/-- The tracking objects in ascending order of kind, namespace and name; an
object in no namespace comes before those in one. -/
def sortedTracking (w : World) : Table TrackingKey DynamicObject :=
  sortedBy (fun k => [k.kind.name, if k.tracker.ns.isSome then "1" else "0",
    k.tracker.ns.getD "", k.tracker.name]) w.tracking

end World

/-- The failure of an operation, for a number of calls or for good. -/
structure Fault where
  operation : Operation
  failure : GateError
  left : Option Nat

/-- A failure after one call has met it; none if it was the last. -/
def Fault.spent (f : Fault) : Option Fault :=
  match f.left with
  | none => some f
  | some n => if n ≤ 1 then none else some { f with left := some (n - 1) }

/-- A world with the failures it is made to show and the calls it has received. -/
structure Memory where
  world : World
  faults : List Fault
  calls : List Call

namespace Memory

/-- A cluster that works. -/
def ofWorld (w : World) : Memory := ⟨w, [], []⟩

/-- The cluster with an operation failing, whatever it did before. -/
def fail (m : Memory) (f : Fault) : Memory :=
  { m with faults := f :: m.faults.filter (·.operation ≠ f.operation) }

/-- The cluster with an operation working again. -/
def mend (m : Memory) (o : Operation) : Memory :=
  { m with faults := m.faults.filter (·.operation ≠ o) }

/-- The failure that a call meets, and the failures after it. -/
def meet (o : Operation) : List Fault → Option GateError × List Fault
  | [] => (none, [])
  | f :: fs =>
    if f.operation = o && f.left ≠ some 0 then
      match f.spent with
      | some rest => (some f.failure, rest :: fs)
      | none => (some f.failure, fs)
    else
      let (failure, fs) := meet o fs
      (failure, f :: fs)

/-- The reply to a call. The call is noted, then fails or acts. -/
def perform (c : Call) (m : Memory) : Reply c × Log × Memory :=
  let m := { m with calls := m.calls ++ [c] }
  match meet c.operation m.faults with
  | (some e, faults) => (.error e, [], { m with faults })
  | (none, _) =>
    let (reply, world) := m.world.answer c
    (reply, [], { m with world })

end Memory

end EvictionGate
