import EvictionGate.Proofs.History.Chronicle

/-!
# A pod has moved only if it has come back

A decision answers that a pod has moved because it finds the pod's flag. If no decision is
cut off and every flag whose pod could not be marked is taken back, such an answer is true:
the pod was marked when its flag was written, and only a pod that is created anew loses the
marker.

Results:
1. `AllTraced.happen`: what every flag goes back to, whatever happens.
2. `moved_of_created`: between the write of the flag that is found and the answer, the pod
   has been created anew; and a write is answered for once.
-/

namespace EvictionGate

/-- The verdict `podRescheduledWithSameName`. -/
abbrev movedAnswer : Option Verdict := some (.deny .podRescheduledWithSameName)

namespace Record

/-- The event is a `create` of the pod `t`. -/
def Creates (t : Target) (r : Record) : Prop :=
  ∃ pod : Pod, r.event = .create pod ∧ pod.home = t

/-- The event has sent `setFlag` of `t` on `i`, and the call has acted. -/
def Writes (c : Settings) (t : Target) (i : Tracker) (r : Record) : Prop :=
  (Call.setFlag c t i, true) ∈ r.sent

/-- The event is a `decide` about `t` with the verdict `movedAnswer`, whose `clearFlag` on `i` has
acted. -/
def Answers (c : Settings) (t : Target) (i : Tracker) (r : Record) : Prop :=
  r.Decides t ∧ r.verdict = movedAnswer ∧ (Call.clearFlag c t i, true) ∈ r.sent

end Record

/-- `LastWrite c records t i j k r`: `r` is record number `j`, and of the records before number
`k` the last for which `Record.Writes` holds. -/
structure LastWrite (c : Settings) (records : List Record) (t : Target) (i : Tracker)
    (j k : Nat) (r : Record) : Prop where
  before : j < k
  stands : records[j]? = some r
  writes : r.Writes c t i
  last : ∀ n r', j < n → n < k → records[n]? = some r' → ¬ r'.Writes c t i

/-- `Traced c records w t i`: the last record that `Record.Writes` the flag of `t` on `i` is a
`decide` with the verdict `rescheduleRequested`. Since then `Record.Answers` has not held, and
unless `Record.Creates` has, the pod in `w` has the marker. -/
def Traced (c : Settings) (records : List Record) (w : World) (t : Target) (i : Tracker) :
    Prop :=
  ∃ j r, LastWrite c records t i j records.length r ∧ r.Decides t ∧
    r.verdict = some (.deny .rescheduleRequested) ∧
    (∀ n r', j < n → records[n]? = some r' → ¬ r'.Answers c t i) ∧
    ((∃ n r', j < n ∧ records[n]? = some r' ∧ r'.Creates t) ∨
      ∀ pod, w.pods.get? t = some pod → c.markerIsOn pod = true)

/-- Every flag that is on in `w` is `Traced`. -/
structure AllTraced (c : Settings) (records : List Record) (w : World) : Prop where
  home : w.PodsAtHome
  traced : ∀ t i, t.ns = c.trackerKind.homeOf i →
    w.flagOn ⟨c.trackerKind, i⟩ t.flagKey = true → Traced c records w t i

/-- A `decide` has come to a verdict, and its `clearFlag` after a failed `setMarker` has not
failed too. -/
structure Record.Settled (c : Settings) (r : Record) : Prop where
  complete : ∀ t, r.Decides t → r.verdict.isSome = true
  undone : ∀ t i, (Call.setMarker c t, false) ∈ r.sent → (Call.clearFlag c t i, false) ∉ r.sent

section

variable {c : Settings} {records : List Record} {w : World} {t : Target} {i : Tracker}

/-- What happens elsewhere does not change what a flag goes back to. -/
theorem Traced.carry (traced : Traced c records w t i) {new : Record} {w' : World}
    (elsewhere : ∀ value,
      (Call.patchTracker c.trackerKind i t.flagKey value, true) ∉ new.sent)
    (still : (∀ pod, w.pods.get? t = some pod → c.markerIsOn pod = true) →
      new.Creates t ∨ ∀ pod, w'.pods.get? t = some pod → c.markerIsOn pod = true) :
    Traced c (records ++ [new]) w' t i := by
  obtain ⟨j, r, write, decides, requested, unanswered, marked⟩ := traced
  have old {n : Nat} {r' : Record} (at_n : records[n]? = some r') :
      (records ++ [new])[n]? = some r' := by
    rw [List.getElem?_append_left (List.getElem?_eq_some_iff.mp at_n).1]
    exact at_n
  refine ⟨j, r, ⟨?_, old write.stands, write.writes, ?_⟩, decides, requested, ?_, ?_⟩
  · rw [List.length_append]
    exact Nat.lt_add_right _ write.before
  · intro n r' later _ at_n
    rcases getElem?_concat_cases at_n with at_n | ⟨rfl, rfl⟩
    · exact write.last n r' later (List.getElem?_eq_some_iff.mp at_n).1 at_n
    · exact elsewhere _
  · intro n r' later at_n answers
    rcases getElem?_concat_cases at_n with at_n | ⟨rfl, rfl⟩
    · exact unanswered n r' later at_n answers
    · exact elsewhere _ answers.2.2
  · rcases marked with ⟨n, r', later, at_n, creates⟩ | marked
    · exact .inl ⟨n, r', later, old at_n, creates⟩
    · rcases still marked with creates | marked
      · exact .inl ⟨records.length, new, write.before, List.getElem?_concat_length, creates⟩
      · exact .inr marked

/-- A decision that has come to its verdict traces the flag that it leaves. -/
theorem Traced.of_decision (home : w.PodsAtHome) {u : Target} {fates : Nat → Fate}
    {timeout : Nat} {v : Verdict} {sent : List (Call × Bool)}
    (sit : Situation c u w (.ended v) sent)
    (undone : ∀ t i, (Call.setMarker c t, false) ∈ sent → (Call.clearFlag c t i, false) ∉ sent)
    (at_home : t.ns = c.trackerKind.homeOf i) {value : Option String}
    (touched : (Call.patchTracker c.trackerKind i t.flagKey value, true) ∈ sent)
    (on : (w.replay sent).flagOn ⟨c.trackerKind, i⟩ t.flagKey = true) :
    Traced c (records ++ [⟨.decide u fates timeout, w, some v, sent⟩]) (w.replay sent) t i := by
  obtain ⟨s, -, rfl, key⟩ := sit.tracker_patch touched
  obtain rfl : t = u := Target.eq_of_flagKey (at_home.trans (s.ns_eq_homeOf home).symm) key
  have off_after_clear (v : World) : (v.after (.clearFlag c t s.tracker)).flagOn
      ⟨c.trackerKind, s.tracker⟩ t.flagKey = false := by
    cases present : v.tracking.get? ⟨c.trackerKind, s.tracker⟩ with
    | none => simp [World.flagOn, World.tracking_after_patchTracker, present]
    | some o => rw [World.flagOn_after_patchTracker_self v present]; rfl
  -- a flag that is on at the end was set by the decision itself, which has marked its pod
  cases sit with
  | moved s' =>
    rw [s'.tracker_eq s, Situation.replay_readings, World.replay_acted, World.replay_nil,
      off_after_clear] at on
    cases on
  | requested sit =>
    cases sit with
    | mark => simp at touched
    | markUntracked => simp at touched
    | markFlagged s' =>
      refine ⟨records.length, _, ⟨?_, List.getElem?_concat_length, ?_, ?_⟩, ⟨fates, timeout, rfl⟩,
        rfl, ?_, .inr ?_⟩
      · simp
      · rw [s.tracker_eq s']
        simp [Record.Writes]
      · intro n r' later earlier
        simp at earlier
        omega
      · intro n r' later at_n
        have lt := (List.getElem?_eq_some_iff.mp at_n).1
        simp at lt
        omega
      · intro pod found
        have marked := s'.markerOn_state true true
        rw [Situation.replay_marked] at found
        rwa [World.markerOn, found, Option.any_some] at marked
  | undone s' acted =>
    cases acted with
    | false =>
      exact absurd (by simp) (undone t s'.tracker (by simp))
    | true =>
      rw [s'.tracker_eq s, Situation.replay_readings] at on
      simp only [World.replay_acted, World.replay_failed, World.replay_nil, off_after_clear] at on
      cases on
  | idle _ _ quiet => cases quiet _ touched rfl

/-- Whatever happens, every flag goes back to a decision that has marked its pod. -/
theorem AllTraced.happen (all : AllTraced c records w) (e : Incident)
    (settled : (e.happen c w).1.Settled c) :
    AllTraced c (records ++ [(e.happen c w).1]) (e.happen c w).2 := by
  refine ⟨all.home.happen c e, fun t i at_home on => ?_⟩
  cases e with
  | decide u fates timeout =>
    have passed := passage c u w fates timeout
    rw [Incident.happen_decide] at settled on ⊢
    have complete := settled.complete u ⟨fates, timeout, rfl⟩
    have undone := settled.undone
    clear settled
    dsimp only at complete undone on ⊢
    generalize decideWithin c u fates timeout w = o at passed complete undone on ⊢
    by_cases touched : ∃ value,
        (Call.patchTracker c.trackerKind i t.flagKey value, true) ∈ o.2.sent
    · obtain ⟨value, touched⟩ := touched
      cases passed with
      | dropped => cases complete
      | ended sit => exact .of_decision all.home sit undone at_home touched on
    · -- a decision that leaves the flag alone finds it on, and leaves markers on
      have elsewhere value := fun mem => touched ⟨value, mem⟩
      rw [passed.world, World.flagOn_replay w elsewhere] at on
      refine (all.traced t i at_home on).carry elsewhere fun marked => .inr ?_
      rw [passed.world]
      exact w.marker_replay (fun _ _ _ mem => (passed.pod_patch mem).2) marked
  | delete u =>
    refine (all.traced t i at_home on).carry (fun _ => List.not_mem_nil) fun marked => .inr ?_
    intro pod found
    by_cases h : t = u
    · subst h
      cases (Table.get?_erase_self w.pods t).symm.trans found
    · exact marked pod ((Table.get?_erase_of_ne w.pods h).symm.trans found)
  | create new =>
    refine (all.traced t i at_home on).carry (fun _ => List.not_mem_nil) fun marked => ?_
    by_cases h : t = new.home
    · exact .inl ⟨new, rfl, h.symm⟩
    · exact .inr fun pod found =>
        marked pod ((Table.get?_set_of_ne w.pods new h).symm.trans found)
  | edit place data =>
    rw [Incident.happen_edit] at on ⊢
    rw [World.flagOn_editData] at on
    refine (all.traced t i at_home on).carry (fun _ => List.not_mem_nil) fun marked => .inr ?_
    rwa [World.pods_editData]

/-- From a world without flags, every flag is traced through all that happens. -/
theorem AllTraced.through (all : AllTraced c records w) (events : List Incident)
    (settled : ∀ r ∈ chronicle c w events, r.Settled c) :
    AllTraced c (records ++ chronicle c w events) (w.through c events) := by
  induction events generalizing records w with
  | nil =>
    rw [chronicle, List.append_nil]
    exact all
  | cons e events ih =>
    have first := all.happen e (settled _ List.mem_cons_self)
    have rest := ih first fun r hr => settled r (List.mem_cons_of_mem _ hr)
    rwa [List.append_assoc, List.singleton_append] at rest

theorem AllTraced.nil (home : w.PodsAtHome)
    (clean : ∀ place (t : Target), w.flagOn place t.flagKey = false) : AllTraced c [] w where
  home := home
  traced t i _ on := by
    rw [clean] at on
    cases on

/-! ## Answers that a pod has moved -/

/-- A decision that answers that the pod has moved met a world in which its flag was on. -/
theorem Record.flagOn_of_moved {e : Incident} {r : Record} (recorded : r = (e.happen c w).1)
    (decides : r.Decides t) (moved : r.verdict = movedAnswer) :
    ∃ s : Candidate c t w, w.flagOn ⟨c.trackerKind, s.tracker⟩ t.flagKey = true ∧
      (∀ i, (Call.clearFlag c t i, true) ∈ r.sent ↔ i = s.tracker) := by
  obtain ⟨fates, timeout, event⟩ := decides
  subst recorded
  cases e with
  | decide u fates' timeout' =>
    cases event
    obtain ⟨s, flagged, sent⟩ := (passage c t w fates timeout).moved moved
    refine ⟨s, s.flagOn_eq.trans flagged, fun i => ?_⟩
    rw [Incident.happen_decide, sent]
    simp
  | delete => cases event
  | create => cases event
  | edit => cases event

theorem LastWrite.take {first rest : List Record} {j : Nat} {r : Record}
    (write : LastWrite c first t i j first.length r) :
    LastWrite c (first ++ rest) t i j first.length r where
  before := write.before
  stands := by
    rw [List.getElem?_append_left write.before]
    exact write.stands
  writes := write.writes
  last n r' later earlier at_n := by
    rw [List.getElem?_append_left earlier] at at_n
    exact write.last n r' later earlier at_n

/-- The last write is one only. -/
theorem LastWrite.unique {j j' k : Nat} {r r' : Record}
    (write : LastWrite c records t i j k r) (write' : LastWrite c records t i j' k r') :
    j = j' := by
  rcases Nat.lt_trichotomy j j' with lt | eq | gt
  · exact absurd write'.writes (write.last j' r' lt write'.before write'.stands)
  · exact eq
  · exact absurd write.writes (write'.last j r gt write.before write.stands)

variable {events : List Incident} (home : w.PodsAtHome)
  (clean : ∀ place (t : Target), w.flagOn place t.flagKey = false)
  (settled : ∀ r ∈ chronicle c w events, r.Settled c)
include home clean settled

/-- The flag that is found has been written by a decision that marked the pod. It has not
been answered for since, and the pod has been created anew. -/
theorem exists_write_of_moved {k : Nat} {r : Record}
    (at_k : (chronicle c w events)[k]? = some r) (decides : r.Decides t)
    (moved : r.verdict = movedAnswer) :
    ∃ i j first, r.Answers c t i ∧ LastWrite c (chronicle c w events) t i j k first ∧
      first.Decides t ∧ first.verdict = some (.deny .rescheduleRequested) ∧
      (∀ n r', j < n → n < k → (chronicle c w events)[n]? = some r' → ¬ r'.Answers c t i) ∧
      ∃ n new, j < n ∧ n < k ∧ (chronicle c w events)[n]? = some new ∧ new.Creates t := by
  obtain ⟨before, e, rest, -, count, recorded, split⟩ := exists_of_record at_k
  have all : AllTraced c ([] ++ chronicle c w before) (w.through c before) := by
    refine (AllTraced.nil home clean).through before fun r' hr => settled r' ?_
    rw [split]
    exact List.mem_append_left _ hr
  rw [List.nil_append] at all
  obtain ⟨s, on, found⟩ := r.flagOn_of_moved recorded decides moved
  obtain ⟨j, first, write, writer, requested, unanswered, marked⟩ :=
    all.traced t s.tracker (s.ns_eq_homeOf all.home) on
  subst count
  have early {n : Nat} {r' : Record} (lt : n < (chronicle c w before).length) :
      (chronicle c w events)[n]? = some r' ↔ (chronicle c w before)[n]? = some r' := by
    rw [split, List.getElem?_append_left lt]
  refine ⟨s.tracker, j, first, ⟨decides, moved, (found _).mpr rfl⟩, ?_, writer, requested, ?_, ?_⟩
  · rw [split]
    exact write.take
  · intro n r' later earlier at_n
    exact unanswered n r' later ((early earlier).mp at_n)
  · rcases marked with ⟨n, new, later, at_n, creates⟩ | marked
    · have lt := (List.getElem?_eq_some_iff.mp at_n).1
      exact ⟨n, new, later, lt, (early lt).mpr at_n, creates⟩
    · -- a pod that was not created anew would still be marked
      exact absurd (s.unmarked.symm.trans (marked s.pod s.found)) Bool.false_ne_true

/-- A write of a flag is answered for once. -/
theorem answers_once {j k k' : Nat} {first r r' : Record}
    (write : LastWrite c (chronicle c w events) t i j k first)
    (write' : LastWrite c (chronicle c w events) t i j k' first)
    (at_k : (chronicle c w events)[k]? = some r) (at_k' : (chronicle c w events)[k']? = some r')
    (answers : r.Answers c t i) (answers' : r'.Answers c t i) : k ≤ k' := by
  refine Nat.le_of_not_lt fun lt => ?_
  obtain ⟨before, e, _, -, -, recorded, -⟩ := exists_of_record at_k
  obtain ⟨s, -, found⟩ := r.flagOn_of_moved recorded answers.1 answers.2.1
  obtain ⟨i', j', other, again, last, -, -, unanswered, -⟩ :=
    exists_write_of_moved home clean settled at_k answers.1 answers.2.1
  obtain rfl : i' = i :=
    ((found i').mp again.2.2).trans ((found i).mp answers.2.2).symm
  obtain rfl := last.unique write
  exact unanswered k' r' write'.before lt at_k' answers'

end

/-- From a world without flags, and as long as every decision comes to its verdict and takes
back a flag whose pod it cannot mark: when a decision answers that a pod has moved, the pod
has been created anew after the decision that wrote the flag it found; and no write is
answered for twice. -/
theorem moved_of_created (c : Settings) (start : World) (home : start.PodsAtHome)
    (clean : ∀ place (t : Target), start.flagOn place t.flagKey = false) (events : List Incident)
    (settled : ∀ r ∈ chronicle c start events, r.Settled c) :
    (∀ k t r, (chronicle c start events)[k]? = some r → r.Decides t →
      r.verdict = movedAnswer →
      ∃ i j first n new, r.Answers c t i ∧ LastWrite c (chronicle c start events) t i j k first ∧
        first.Decides t ∧ first.verdict = some (.deny .rescheduleRequested) ∧
        (chronicle c start events)[n]? = some new ∧ new.Creates t ∧ j < n ∧ n < k) ∧
    ∀ t i j first k k' r r', LastWrite c (chronicle c start events) t i j k first →
      LastWrite c (chronicle c start events) t i j k' first →
      (chronicle c start events)[k]? = some r → (chronicle c start events)[k']? = some r' →
      r.Answers c t i → r'.Answers c t i → k = k' := by
  refine ⟨fun k t r at_k decides moved => ?_, ?_⟩
  · obtain ⟨i, j, first, answers, write, writer, requested, -, n, new, later, earlier, at_n,
      creates⟩ := exists_write_of_moved home clean settled at_k decides moved
    exact ⟨i, j, first, n, new, answers, write, writer, requested, at_n, creates, later, earlier⟩
  · intro t i j first k k' r r' write write' at_k at_k' answers answers'
    exact Nat.le_antisymm
      (answers_once home clean settled write write' at_k at_k' answers answers')
      (answers_once home clean settled write' write at_k' at_k answers' answers)

/-- The pod is evicted, created anew and evicted again. -/
def Sample.cycle : List Incident :=
  [.decide Sample.db (Sample.prompt none) 0, .create Sample.fresh,
    .decide Sample.db (Sample.prompt none) 0]

/-- The second decision says that the pod has moved. -/
theorem moved_of_created_once :
    ((chronicle .default Sample.world Sample.cycle)[2]?).bind Record.verdict = movedAnswer ∧
      ∃ i j first n new, LastWrite .default (chronicle .default Sample.world Sample.cycle)
        Sample.db i j 2 first ∧ (chronicle .default Sample.world Sample.cycle)[n]? = some new ∧
        new.Creates Sample.db ∧ j < n ∧ n < 2 := by
  have clean : ∀ place (t : Target), Sample.world.flagOn place t.flagKey = false := by
    intro place t
    by_cases h : place = ⟨.couchbaseCluster, "main", some "prod"⟩
    · subst h
      rfl
    · simp [World.flagOn, Sample.world, Table.get?, Ne.symm h]
  have acted : ∀ r ∈ chronicle .default Sample.world Sample.cycle,
      r.sent.all (fun e => e.2) = true := by decide
  have settled : ∀ r ∈ chronicle .default Sample.world Sample.cycle, r.Settled .default := by
    intro r mem
    refine ⟨fun t decides => ?_, fun t i failed => ?_⟩
    · obtain ⟨fates, timeout, event⟩ := decides
      simp only [Sample.cycle, chronicle, List.mem_cons, List.not_mem_nil, or_false] at mem
      rcases mem with rfl | rfl | rfl
      · decide
      · cases event
      · decide
    · cases List.all_eq_true.mp (acted r mem) _ failed
  obtain ⟨i, j, first, n, new, -, write, -, -, at_n, creates, later, earlier⟩ :=
    (moved_of_created .default Sample.world Sample.podsAtHome_world clean Sample.cycle settled).1 2
      Sample.db _ rfl ⟨_, _, rfl⟩ (by decide)
  exact ⟨by decide, i, j, first, n, new, write, at_n, creates, later, earlier⟩

end EvictionGate
