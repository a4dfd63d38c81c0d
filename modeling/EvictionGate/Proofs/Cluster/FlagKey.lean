import EvictionGate.Proofs.Cluster.Home
import EvictionGate.Proofs.Decision.Situation

/-!
# The keys of flags

The API server keeps an annotation only under an admissible key: a DNS name, a slash, and a
name of at most 63 characters. A flag's key has the pod's namespace and the pod's name behind
its slash, so it is admissible exactly if the two are short enough together. Namespaces and pods
may have longer names than that. Such a pod is never marked: its flag is refused, and every
eviction of it fails.

A key does not tell where the namespace ends and the pod's name begins. It tells the pod all the
same, as namespaces have no dots.

Results:
1. `framed_of_isDnsName`: a DNS name begins and ends with a letter or a digit.
2. `isAnnotationKey_flagKey`: which flags have an admissible key.
3. `Candidate.result_refused`: what becomes of an eviction whose flag is refused.
4. `Target.flagKey_eq_iff`: which pods have one key.
-/

namespace EvictionGate

/-! ## Names -/

/-- Whether a text begins and ends with characters of `edge`, and all its characters are of `edge`
or `inner`. -/
def isFramed (edge inner : Char → Bool) (cs : List Char) : Bool :=
  cs.head?.any edge && cs.getLast?.any edge && cs.all fun c => edge c || inner c

/-- A letter or a digit of a DNS name. -/
def isDnsAlphanum (c : Char) : Bool := c.isLower || c.isDigit

/-- Whether a text is a label of a DNS name: letters and digits, with hyphens between them. -/
def isLabel (cs : List Char) : Bool := isFramed isDnsAlphanum (· = '-') cs

/-- Whether a text is a DNS name: labels that are separated by dots. -/
def isDnsName (cs : List Char) : Bool := (Text.splitChars '.' cs).all isLabel

/-- Whether a namespace may have a name, which is a label of at most 63 characters. -/
def isNamespaceName (s : String) : Bool := isLabel s.toList && s.length ≤ 63

/-- Whether a pod may have a name, which is a DNS name of at most 253 characters. -/
def isPodName (s : String) : Bool := isDnsName s.toList && s.length ≤ 253

/-- Whether a text may follow the slash of an annotation key: at most 63 letters, digits, hyphens,
underscores and dots, the first and the last a letter or a digit. -/
def isKeyName (cs : List Char) : Bool :=
  isFramed Char.isAlphanum (fun c => c = '-' || c = '_' || c = '.') cs && cs.length ≤ 63

/-- Whether an annotation may have a key with a slash: a DNS name of at most 253 characters before
it, an `isKeyName` behind it. -/
def isAnnotationKey (key : String) : Bool :=
  match Text.splitChars '/' key.toList with
  | [domain, name] => isDnsName domain && domain.length ≤ 253 && isKeyName name
  | _ => false

/-! ## Framed texts -/

section

variable {edge inner edge' inner' : Char → Bool} {cs ds : List Char}

theorem isFramed_iff : isFramed edge inner cs = true ↔
    cs.head?.any edge = true ∧ cs.getLast?.any edge = true ∧
      ∀ c ∈ cs, edge c = true ∨ inner c = true := by
  simp [isFramed, and_assoc]

theorem isFramed_mono (edges : ∀ c, edge c = true → edge' c = true)
    (inners : ∀ c, inner c = true → inner' c = true) (framed : isFramed edge inner cs = true) :
    isFramed edge' inner' cs = true := by
  have first {o : Option Char} (h : o.any edge = true) : o.any edge' = true := by
    rw [Option.any_eq_true] at h ⊢
    exact h.imp fun c found => ⟨found.1, edges c found.2⟩
  obtain ⟨head, last, all⟩ := isFramed_iff.mp framed
  exact isFramed_iff.mpr
    ⟨first head, first last, fun c mem => (all c mem).imp (edges c) (inners c)⟩

/-- Framed texts with a character between them are a framed text. -/
theorem isFramed_append {sep : Char} (first : isFramed edge inner cs = true)
    (second : isFramed edge inner ds = true) (between : inner sep = true) :
    isFramed edge inner (cs ++ sep :: ds) = true := by
  obtain ⟨head, -, all⟩ := isFramed_iff.mp first
  obtain ⟨-, last, all'⟩ := isFramed_iff.mp second
  refine isFramed_iff.mpr ⟨?_, ?_, fun c mem => ?_⟩
  · cases cs with
    | nil => cases head
    | cons c cs => exact head
  · cases ds with
    | nil => cases last
    | cons d ds => simpa [List.getLast?_append, List.getLast?_cons] using last
  · rcases List.mem_append.mp mem with mem | mem
    · exact all c mem
    · rcases List.mem_cons.mp mem with rfl | mem
      · exact .inr between
      · exact all' c mem

end

theorem isAlphanum_of_isDnsAlphanum {c : Char} (alphanum : isDnsAlphanum c = true) :
    c.isAlphanum = true := by
  rw [isDnsAlphanum, Bool.or_eq_true] at alphanum
  rcases alphanum with lower | digit
  · have letter : (c.isUpper || c.isLower) = true := by rw [lower, Bool.or_true]
    exact (Bool.or_eq_true _ _).mpr (.inl letter)
  · exact (Bool.or_eq_true _ _).mpr (.inr digit)

/-! ## Parts -/

/-- A text without the separator is one part. -/
theorem splitChars_of_not_mem {sep : Char} {cs : List Char} (without : sep ∉ cs) :
    Text.splitChars sep cs = [cs] := by
  induction cs with
  | nil => rfl
  | cons c cs ih =>
    obtain ⟨other, without⟩ := List.ne_and_not_mem_of_not_mem_cons without
    rw [Text.splitChars, if_neg (Ne.symm other), ih without]

/-- What stands before the first separator is the first part. -/
theorem splitChars_append {sep : Char} {cs : List Char} (without : sep ∉ cs)
    (ds : List Char) :
    Text.splitChars sep (cs ++ sep :: ds) = cs :: Text.splitChars sep ds := by
  induction cs with
  | nil => rw [List.nil_append, Text.splitChars, if_pos rfl]
  | cons c cs ih =>
    obtain ⟨other, without⟩ := List.ne_and_not_mem_of_not_mem_cons without
    rw [List.cons_append, Text.splitChars, if_neg (Ne.symm other), ih without]

theorem framed_of_isLabel {cs : List Char} (label : isLabel cs = true) :
    isFramed isDnsAlphanum (fun c => c = '-' || c = '.') cs = true := by
  refine isFramed_mono (fun _ => id) (fun c hyphen => ?_) label
  rw [hyphen, Bool.true_or]

/-- A DNS name begins and ends with a letter or a digit, and has hyphens and dots inside. -/
theorem framed_of_isDnsName {cs : List Char} (dns : isDnsName cs = true) :
    isFramed isDnsAlphanum (fun c => c = '-' || c = '.') cs = true := by
  -- a name goes on behind its first dot
  by_cases dotted : '.' ∈ cs
  · obtain ⟨part, rest, rfl, without⟩ := List.eq_append_cons_of_mem dotted
    rw [isDnsName, splitChars_append without, List.all_cons, Bool.and_eq_true] at dns
    exact isFramed_append (framed_of_isLabel dns.1) (framed_of_isDnsName dns.2) rfl
  · rw [isDnsName, splitChars_of_not_mem dotted, List.all_cons, Bool.and_eq_true] at dns
    exact framed_of_isLabel dns.1
termination_by cs.length

/-- A framed text holds no other characters than it may. -/
theorem not_mem_of_framed {edge inner : Char → Bool} {cs : List Char} {c : Char}
    (framed : isFramed edge inner cs = true) (neither : (edge c || inner c) = false) : c ∉ cs := by
  intro mem
  rcases (isFramed_iff.mp framed).2.2 c mem with is | is <;> simp [is] at neither

/-! ## Keys -/

/-- A key of a domain and a name is admissible if both of them are. -/
theorem isAnnotationKey_append {domain name : List Char} (plain : '/' ∉ domain)
    (whole : '/' ∉ name) : isAnnotationKey (String.ofList (domain ++ '/' :: name)) =
      (isDnsName domain && domain.length ≤ 253 && isKeyName name) := by
  rw [isAnnotationKey, String.toList_ofList, splitChars_append plain, splitChars_of_not_mem whole]

/-- The part of a flag's key behind the slash. -/
def Target.flagName (t : Target) : List Char := t.ns.toList ++ '.' :: t.name.toList

theorem Target.flagKey_eq (t : Target) :
    t.flagKey = String.ofList ("reschedule.hook".toList ++ '/' :: t.flagName) := by
  apply String.toList_injective
  simp [flagKey, flagDomain, flagName, String.toList_append]

variable {t : Target}

/-- A flag's key is admissible exactly if the names of the pod and of its namespace are short
enough together. -/
theorem isAnnotationKey_flagKey (ns : isNamespaceName t.ns = true)
    (name : isPodName t.name = true) :
    isAnnotationKey t.flagKey = true ↔ t.ns.length + t.name.length ≤ 62 := by
  rw [isNamespaceName, Bool.and_eq_true] at ns
  rw [isPodName, Bool.and_eq_true] at name
  have framed : isFramed isDnsAlphanum (fun c => c = '-' || c = '.') t.flagName = true :=
    isFramed_append (framed_of_isLabel ns.1) (framed_of_isDnsName name.1) rfl
  have key : isFramed Char.isAlphanum (fun c => c = '-' || c = '_' || c = '.') t.flagName = true :=
    isFramed_mono (fun _ => isAlphanum_of_isDnsAlphanum) (fun c inner => by grind) framed
  have length : t.flagName.length = t.ns.length + t.name.length + 1 := by
    simp only [Target.flagName, List.length_append, List.length_cons, String.length_toList]
    omega
  rw [t.flagKey_eq, isAnnotationKey_append (by decide) (not_mem_of_framed framed rfl)]
  have domain : (isDnsName "reschedule.hook".toList &&
      decide ("reschedule.hook".toList.length ≤ 253)) = true := by decide
  rw [domain, Bool.true_and, isKeyName, key, Bool.true_and, decide_eq_true_iff, length]
  omega

/-! ## A cluster that checks keys -/

/-- The key under which a call sets an annotation. -/
def Call.keySet? : Call → Option String
  | .patchTracker _ _ key (some _) => some key
  | .patchPod _ key _ => some key
  | _ => none

/-- `World.perform` of a server that checks keys: a call whose `Call.keySet?` fails
`isAnnotationKey` is refused, any other one succeeds. -/
def World.performChecked (refusal : GateError) (call : Call) (w : World) :
    Reply call × Log × World :=
  World.perform (if call.keySet?.all isAnnotationKey then none else some refusal) call w

/-- A run makes the call of its stage, whichever calls fail, and goes on from the next stage. -/
theorem Stage.result_turn_checked {c : Settings} {stage : Stage} {call : Call}
    {next : Reply call → Stage} (asks : stage.ask c t = some ⟨call, next⟩)
    (failure : Option GateError) {refusal : GateError}
    (fails : (if call.keySet?.all isAnnotationKey then none else some refusal) = failure)
    (w : World) : (stage.rest c t).result (World.performChecked refusal) w =
      ((stage.turn c t failure w).1.rest c t).result (World.performChecked refusal)
        (stage.turn c t failure w).2 := by
  rw [Stage.result_rest asks]
  simp only [World.performChecked, fails, Stage.turn, asks, World.perform]

/-- A pod whose flag is refused is not marked, and the eviction fails. It leaves everything as it
was, so that the next one fails in the same way. -/
theorem Candidate.result_refused {c : Settings} {w : World} (s : Candidate c t w) (due : s.Due)
    (long : isAnnotationKey t.flagKey = false) (refusal : GateError) :
    (decideEviction c t).result (World.performChecked refusal) w =
      (.deny .failedToAddFlag, w) := by
  have refused : (if (Call.setFlag c t s.tracker).keySet?.all isAnnotationKey then none
      else some refusal) = some refusal := by
    rw [Call.keySet?, Option.all_some, long, if_neg Bool.false_ne_true]
  show (Stage.fetch.rest c t).result _ _ = _
  have fetch := s.turn_fetch due.tracks false false
  have look := s.turn_look due.unflagged false
  rw [if_neg Bool.false_ne_true, s.state_start] at fetch
  rw [due.eligible, if_pos rfl, s.state_start] at look
  rw [Stage.result_turn_checked rfl none rfl, fetch, Stage.result_turn_checked rfl none rfl, look,
    Stage.result_turn_checked rfl (some refusal) refused, Stage.turn_failed]
  rfl

/-- A flag has an admissible key exactly if the names of its pod and of the pod's namespace have
62 characters together at most. Where they have more, and the cluster checks keys, no eviction of
the pod gets as far as its marker. -/
theorem flagKey_admissible_iff (ns : isNamespaceName t.ns = true) (name : isPodName t.name = true) :
    (isAnnotationKey t.flagKey = true ↔ t.ns.length + t.name.length ≤ 62) ∧
      ∀ (c : Settings) (w : World) (s : Candidate c t w), s.Due →
        62 < t.ns.length + t.name.length → ∀ refusal,
        (decideEviction c t).result (World.performChecked refusal) w =
          (.deny .failedToAddFlag, w) := by
  have short := isAnnotationKey_flagKey ns name
  refine ⟨short, fun c w s due long refusal => s.result_refused due ?_ refusal⟩
  exact Bool.eq_false_iff.mpr fun admissible => absurd (short.mp admissible) (by omega)

namespace Sample

/-- A pod whose name and namespace are too long together. -/
def longNamed : Target :=
  ⟨"customer-analytics-cluster-eu-central-1-data-0042", "couchbase-production"⟩

/-- The pod, and the database cluster it belongs to. -/
def longNamedWorld : World :=
  ⟨[(longNamed, { fresh with metadata := { fresh.metadata with
      name := some longNamed.name, ns := some longNamed.ns } })],
    [(⟨.couchbaseCluster, "main", some longNamed.ns⟩, cluster)]⟩

def longNamedCandidate : Candidate .default longNamed longNamedWorld where
  pod := _
  tracker := ⟨"main", some longNamed.ns⟩
  object := cluster
  found := rfl
  selected := by decide
  unmarked := by decide
  tracked := by decide
  present := rfl

end Sample

theorem flagKey_admissible_of_db :
    (isNamespaceName Sample.db.ns = true ∧ isPodName Sample.db.name = true ∧
      isAnnotationKey Sample.db.flagKey = true) ∧
    isNamespaceName Sample.longNamed.ns = true ∧ isPodName Sample.longNamed.name = true ∧
      Sample.longNamedCandidate.Due ∧
      (decideEviction .default Sample.longNamed).result
          (World.performChecked (.api .requestNotBuilt)) Sample.longNamedWorld =
        (.deny .failedToAddFlag, Sample.longNamedWorld) := by
  have due : Sample.longNamedCandidate.Due := ⟨rfl, by decide, by decide⟩
  refine ⟨⟨by decide, by decide, ?_⟩, by decide, by decide, due, ?_⟩
  · exact (flagKey_admissible_iff (by decide) (by decide)).1.mpr (by decide)
  · exact (flagKey_admissible_iff (by decide) (by decide)).2 _ _ _ due (by decide) _

/-- A namespace and a pod may have these names, and the key of the pod's flag is not
admissible. -/
theorem flagKey_not_admissible :
    isNamespaceName Sample.longNamed.ns = true ∧ isPodName Sample.longNamed.name = true ∧
      isAnnotationKey Sample.longNamed.flagKey = false := by
  decide

/-! ## Whose key it is -/

/-- Two texts around a separator are another two around it exactly if they are the same, or one of
the separators stands within a part of the other two. -/
theorem append_cons_eq_iff {α : Type} {sep : α} {as bs cs ds : List α} :
    as ++ sep :: bs = cs ++ sep :: ds ↔ (as = cs ∧ bs = ds) ∨
      (∃ part, cs = as ++ sep :: part ∧ bs = part ++ sep :: ds) ∨
      ∃ part, as = cs ++ sep :: part ∧ ds = part ++ sep :: bs := by
  rw [List.append_eq_append_iff]
  constructor
  · rintro (⟨between, rfl, same⟩ | ⟨between, rfl, same⟩)
    · cases between with
      | nil =>
        obtain ⟨-, rfl⟩ := List.cons.inj same
        exact .inl ⟨(List.append_nil _).symm, rfl⟩
      | cons first part =>
        obtain ⟨rfl, rfl⟩ := List.cons.inj same
        exact .inr (.inl ⟨part, rfl, rfl⟩)
    · cases between with
      | nil =>
        obtain ⟨-, rfl⟩ := List.cons.inj same
        exact .inl ⟨List.append_nil _, rfl⟩
      | cons first part =>
        obtain ⟨rfl, rfl⟩ := List.cons.inj same
        exact .inr (.inr ⟨part, rfl, rfl⟩)
  · rintro (⟨rfl, rfl⟩ | ⟨part, rfl, rfl⟩ | ⟨part, rfl, rfl⟩)
    · exact .inl ⟨[], (List.append_nil _).symm, rfl⟩
    · exact .inl ⟨sep :: part, rfl, rfl⟩
    · exact .inr ⟨sep :: part, rfl, rfl⟩

namespace Target

/-- `RunsInto t u`: for some `part`, the namespace of `u` is that of `t` with a dot and `part`
behind it, and the name of `t` is `part` with a dot and the name of `u` behind it. -/
def RunsInto (t u : Target) : Prop :=
  ∃ part, u.ns = t.ns ++ "." ++ part ∧ t.name = part ++ "." ++ u.name

variable {u : Target}

theorem runsInto_iff : t.RunsInto u ↔ ∃ part, u.ns.toList = t.ns.toList ++ '.' :: part ∧
    t.name.toList = part ++ '.' :: u.name.toList := by
  constructor
  · rintro ⟨part, ns, name⟩
    exact ⟨part.toList, by simp [ns, String.toList_append], by simp [name, String.toList_append]⟩
  · rintro ⟨part, ns, name⟩
    exact ⟨String.ofList part, String.toList_injective (by simp [ns, String.toList_append]),
      String.toList_injective (by simp [name, String.toList_append])⟩

/-- Only a namespace with a dot in it is run into. -/
theorem RunsInto.dotted (runs : t.RunsInto u) : '.' ∈ u.ns.toList := by
  obtain ⟨part, ns, -⟩ := runsInto_iff.mp runs
  rw [ns]
  exact List.mem_append_right _ List.mem_cons_self

/-- Two pods have one key exactly if they are one pod, or one of them runs into the namespace of the
other. -/
theorem flagKey_eq_iff : t.flagKey = u.flagKey ↔ t = u ∨ t.RunsInto u ∨ u.RunsInto t := by
  have key : t.flagKey = u.flagKey ↔ t.flagName = u.flagName := by
    rw [t.flagKey_eq, u.flagKey_eq, String.ofList_inj, List.append_cancel_left_eq,
      List.cons.injEq, eq_self, true_and]
  have same : t.ns.toList = u.ns.toList ∧ t.name.toList = u.name.toList ↔ t = u := by
    obtain ⟨name, ns⟩ := t
    obtain ⟨name', ns'⟩ := u
    rw [String.toList_inj, String.toList_inj, mk.injEq, and_comm]
  rw [key, flagName, flagName, append_cons_eq_iff, same, runsInto_iff, runsInto_iff]

end Target

/-- The key of a flag tells the pod: among the pods of namespaces without dots, whatever their own
names, and among those of any one namespace. Pods share a key only where the namespace of one of
them begins with the namespace of the other and goes on with what that one's name begins with. -/
theorem flagKey_identifies :
    (∀ t u : Target, '.' ∉ t.ns.toList → '.' ∉ u.ns.toList → t.flagKey = u.flagKey →
      t.name = u.name ∧ t.ns = u.ns) ∧
    (∀ ns name name' : String, (Target.mk name ns).flagKey = (Target.mk name' ns).flagKey →
      name = name') ∧
    ∀ t u : Target, t.flagKey = u.flagKey ↔ t = u ∨ t.RunsInto u ∨ u.RunsInto t := by
  refine ⟨fun t u plain plain' key => ?_, fun ns name name' key => ?_,
    fun t u => Target.flagKey_eq_iff⟩
  · rcases Target.flagKey_eq_iff.mp key with rfl | runs | runs
    · exact ⟨rfl, rfl⟩
    · exact absurd runs.dotted plain'
    · exact absurd runs.dotted plain
  · have same : Target.mk name ns = Target.mk name' ns := Target.eq_of_flagKey rfl key
    exact congrArg Target.name same

/-- Pods may have dots in their names. A namespace with a dot in it would share a key. -/
theorem flagKey_identifies_dotted :
    ('.' ∉ (Target.mk "db.0" "prod").ns.toList ∧ '.' ∉ (Target.mk "0" "prod-db").ns.toList ∧
      (Target.mk "db.0" "prod").flagKey ≠ (Target.mk "0" "prod-db").flagKey) ∧
    (Target.mk "db.0" "prod").flagKey ≠ (Target.mk "0" "prod").flagKey ∧
    (Target.mk "db.0" "prod").flagKey = (Target.mk "0" "prod.db").flagKey := by
  obtain ⟨plain, within, shared⟩ := flagKey_identifies
  have dotless : '.' ∉ (Target.mk "db.0" "prod").ns.toList := by decide
  have dotless' : '.' ∉ (Target.mk "0" "prod-db").ns.toList := by decide
  refine ⟨⟨dotless, dotless', fun key => ?_⟩, fun key => ?_, ?_⟩
  · exact absurd (plain _ _ dotless dotless' key).1 (by decide)
  · exact absurd (within _ _ _ key) (by decide)
  · exact (shared _ _).mpr (.inr (.inl ⟨"db", rfl, rfl⟩))

end EvictionGate
