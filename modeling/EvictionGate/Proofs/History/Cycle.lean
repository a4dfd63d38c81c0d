import EvictionGate.Proofs.Cluster.View
import EvictionGate.Proofs.History.Chronicle

/-!
# Cycles of a pod that comes back

A pod is evicted again and again, deleted in between and created anew without the marker.
No call fails, and the pod's tracking object says that a flag is due. A decision that finds
the pod without the marker either asks for the reschedule, and sets the flag, or answers that
the pod has moved, and takes the flag back; all others leave the flag alone. So the two
answers take turns. A decision that does not find the pod answers that it is gone, which is
not the end of the cycle: the pod that comes back is answered that it has moved.

Results:
1. `InCycle.happen_unmarked`: how a decision that finds the pod unmarked is answered by the
   flag, and turns it over.
2. `InCycle.first_unmarked`: the flag waits for the next decision that finds the pod unmarked.
3. `cycles_alternate`: the two answers take turns.
4. `cycle_outlives_absence`: the answer that a pod is gone does not end its cycle.
-/

namespace EvictionGate

/-- `Cycles c t old e`: the event is a `decide` about `t` in which no call fails, a `delete` of
`t`, or a `create` of `t` without the marker and `Pod.Akin` to `old`. -/
inductive Incident.Cycles (c : Settings) (t : Target) (old : Pod) : Incident → Prop
  | decide {fates : Nat → Fate} {timeout : Nat} : (∀ n, (fates n).failure = none) →
      Cycles c t old (.decide t fates timeout)
  | delete : Cycles c t old (.delete t)
  | create {new : Pod} : new.home = t → old.Akin new → c.markerIsOn new = false →
      Cycles c t old (.create new)

/-- The event is a `decide` about `t`, and the world before it has the pod without the marker. -/
structure Record.FindsUnmarked (c : Settings) (t : Target) (r : Record) : Prop where
  decides : r.Decides t
  pod : ∃ pod, r.met.pods.get? t = some pod ∧ c.markerIsOn pod = false

/-- Only a decision that finds its pod unmarked touches the flag. -/
theorem Incident.Cycles.flagOn_happen {c : Settings} {t : Target} {old : Pod} {w : World}
    {e : Incident} (cycles : e.Cycles c t old) (tracks : c.tracks = true)
    (other : ¬ (e.happen c w).1.FindsUnmarked c t) (place : TrackingKey) :
    (e.happen c w).2.flagOn place t.flagKey = w.flagOn place t.flagKey := by
  cases cycles with
  | delete => rfl
  | create => rfl
  | @decide fates timeout =>
    have passed := passage c t w fates timeout
    have quiet := passed.quiet_of_no_candidate tracks fun s =>
      other ⟨⟨fates, timeout, rfl⟩, s.pod, s.found, s.unmarked⟩
    rw [Incident.happen_decide, passed.world, World.replay_of_quiet w quiet]

/-- A decision that does not find its pod answers that it is gone, and patches nothing. -/
theorem Incident.Cycles.happen_absent {c : Settings} {t : Target} {old : Pod} {w : World}
    {e : Incident} (cycles : e.Cycles c t old) (tracks : c.tracks = true)
    (decides : (e.happen c w).1.Decides t) (absent : (e.happen c w).1.met.pods.get? t = none)
    (answered : (e.happen c w).1.verdict.isSome = true) :
    (e.happen c w).1.verdict = some (.deny .podRescheduled) ∧
      ∀ call ∈ (e.happen c w).1.sent, call.2 = true → call.1.isPatch = false := by
  obtain ⟨fates, timeout, same⟩ := decides
  cases cycles with
  | delete => cases same
  | create => cases same
  | @decide fates timeout calm =>
    obtain ⟨v, ends⟩ := Option.isSome_iff_exists.mp answered
    have runs := result_of_calm calm ends
    have absent : w.pods.get? t = none := absent
    have goes : (decideEviction c t).result (World.perform none) w =
        (.deny .podRescheduled, w) := by
      show (Stage.fetch.rest c t).result _ _ = _
      rw [Stage.result_turn, Stage.turn_fetch_absent c t absent]
      rfl
    rw [goes] at runs
    obtain ⟨rfl, -⟩ := Prod.mk.inj runs
    refine ⟨ends, (passage c t w fates timeout).quiet_of_no_candidate tracks fun s => ?_⟩
    cases s.found.symm.trans absent

/-- The verdict about a pod without the marker whose tracking object `TrackerKind.recreatesPods`,
by whether the flag is on. -/
def unmarkedAnswer (flagged : Bool) : Verdict :=
  .deny (if flagged then .podRescheduledWithSameName else .rescheduleRequested)

/-- `InCycle c t old i w`: the pod `t` of `w`, if there is one, is `Pod.Akin` to `old`, and
`TrackerKind.recreatesPods` holds of the object of `i`. -/
structure InCycle (c : Settings) (t : Target) (old : Pod) (i : Tracker) (w : World) : Prop where
  akin : ∀ pod, w.pods.get? t = some pod → old.Akin pod
  eligible : (w.bareAt ⟨c.trackerKind, i⟩).any c.trackerKind.recreatesPods = true

namespace InCycle

variable {c : Settings} {t : Target} {old : Pod} {i : Tracker} {w : World}

theorem after (cycle : InCycle c t old i w) (call : Call) : InCycle c t old i (w.after call) := by
  refine ⟨fun pod found => ?_, by rw [World.bareAt_after]; exact cycle.eligible⟩
  cases before : w.pods.get? t with
  | none =>
    rw [w.pod_after_absent before] at found
    cases found
  | some pod' =>
    obtain ⟨pod'', found', alike⟩ := w.pod_after before call
    cases found.symm.trans found'
    exact (cycle.akin pod' before).trans alike.toAkin

theorem replay (cycle : InCycle c t old i w) (sent : List (Call × Bool)) :
    InCycle c t old i (w.replay sent) := by
  induction sent generalizing w with
  | nil => exact cycle
  | cons e sent ih =>
    obtain ⟨call, acted⟩ := e
    cases acted with
    | false => exact ih cycle
    | true => exact ih (cycle.after call)

theorem happen (cycle : InCycle c t old i w) {e : Incident} (cycles : e.Cycles c t old) :
    InCycle c t old i (e.happen c w).2 := by
  cases cycles with
  | @decide fates timeout =>
    rw [Incident.happen_decide, (passage c t w fates timeout).world]
    exact cycle.replay _
  | delete =>
    refine ⟨fun pod found => ?_, cycle.eligible⟩
    cases (Table.get?_erase_self w.pods t).symm.trans found
  | @create new home akin =>
    refine ⟨fun pod found => ?_, cycle.eligible⟩
    subst home
    cases (Table.get?_set_self w.pods new.home new).symm.trans found
    exact akin

theorem through (cycle : InCycle c t old i w) {events : List Incident}
    (cycles : ∀ e ∈ events, e.Cycles c t old) : InCycle c t old i (w.through c events) := by
  induction events generalizing w with
  | nil => exact cycle
  | cons e events ih =>
    exact ih (cycle.happen (cycles e List.mem_cons_self))
      fun e mem => cycles e (List.mem_cons_of_mem _ mem)

/-! ## The flag of a pod in a cycle -/

section

variable (selected : c.selects old = true) (tracked : c.trackerKind.trackerOf? old = some i)
include selected tracked

theorem exists_candidate (cycle : InCycle c t old i w) {pod : Pod}
    (found : w.pods.get? t = some pod) (unmarked : c.markerIsOn pod = false) :
    ∃ s : Candidate c t w, s.tracker = i ∧ s.eligible = true := by
  have akin := cycle.akin pod found
  have eligible := cycle.eligible
  rw [World.bareAt, Option.any_map, Option.any_eq_true] at eligible
  obtain ⟨o, present, due⟩ := eligible
  refine ⟨⟨pod, i, o, found, (akin.selects c).trans selected, unmarked,
    (akin.trackerOf? _).trans tracked, present⟩, rfl, ?_⟩
  exact (TrackerKind.recreatesPods_bare _ o).symm.trans due

variable (tracks : c.tracks = true)
include tracks

/-- A decision that finds the pod unmarked answers by the flag, and turns it over. -/
theorem happen_unmarked (cycle : InCycle c t old i w) {e : Incident} (cycles : e.Cycles c t old)
    (finds : (e.happen c w).1.FindsUnmarked c t)
    (answered : (e.happen c w).1.verdict.isSome = true) :
    (e.happen c w).1.verdict =
        some (unmarkedAnswer (w.flagOn ⟨c.trackerKind, i⟩ t.flagKey)) ∧
      (e.happen c w).2.flagOn ⟨c.trackerKind, i⟩ t.flagKey =
        !w.flagOn ⟨c.trackerKind, i⟩ t.flagKey := by
  obtain ⟨⟨fates, timeout, same⟩, pod, found, unmarked⟩ := finds
  cases cycles with
  | delete => cases same
  | create => cases same
  | decide calm =>
    obtain ⟨v, ends⟩ := Option.isSome_iff_exists.mp answered
    have runs := result_of_calm calm ends
    obtain ⟨s, rfl, eligible⟩ := cycle.exists_candidate selected tracked found unmarked
    rw [ends, Incident.happen_decide, s.flagOn_eq]
    cases flagged : s.flagged with
    | true =>
      rw [s.result_flagged tracks flagged] at runs
      obtain ⟨rfl, leaves⟩ := Prod.mk.inj runs
      rw [← leaves]
      exact ⟨rfl, (s.cleared.flagOn_state false false).trans s.cleared_flagged⟩
    | false =>
      rw [s.result_unflagged tracks flagged, eligible] at runs
      obtain ⟨rfl, leaves⟩ := Prod.mk.inj runs
      rw [← leaves]
      exact ⟨rfl, s.flagOn_state true true⟩

/-- The flag waits for the next decision that finds the pod unmarked. -/
theorem first_unmarked (cycle : InCycle c t old i w) {events : List Incident}
    (cycles : ∀ e ∈ events, e.Cycles c t old)
    (complete : ∀ r ∈ chronicle c w events, r.Decides t → r.verdict.isSome = true)
    {others rest : List Record} {r : Record}
    (split : chronicle c w events = others ++ r :: rest) (finds : r.FindsUnmarked c t)
    (unfound : ∀ r ∈ others, ¬ r.FindsUnmarked c t) :
    r.verdict = some (unmarkedAnswer (w.flagOn ⟨c.trackerKind, i⟩ t.flagKey)) := by
  induction events generalizing w others with
  | nil => cases others <;> cases split
  | cons e events ih =>
    have this_cycles := cycles e List.mem_cons_self
    cases others with
    | nil =>
      cases split
      exact (cycle.happen_unmarked selected tracked tracks this_cycles finds
        (complete _ List.mem_cons_self finds.decides)).1
    | cons other others =>
      obtain ⟨rfl, after⟩ := List.cons.inj split
      rw [← this_cycles.flagOn_happen tracks (unfound _ List.mem_cons_self)]
      exact ih (cycle.happen this_cycles) (fun e mem => cycles e (List.mem_cons_of_mem _ mem))
        (fun r mem => complete r (List.mem_cons_of_mem _ mem)) after
        fun r mem => unfound r (List.mem_cons_of_mem _ mem)

end

end InCycle

/-- A pod for which a flag is due is evicted, deleted and created anew without the marker, in
any order, and no call fails. A decision that does not find the pod answers that it is gone,
and patches nothing. Of two decisions that find it without the marker, with none such in
between, one asks for the reschedule and the other answers that the pod has moved. -/
theorem cycles_alternate (c : Settings) (tracks : c.tracks = true) (start : World) (t : Target)
    (old : Pod) (i : Tracker) (o : DynamicObject) (there : start.pods.get? t = some old)
    (selected : c.selects old = true) (tracked : c.trackerKind.trackerOf? old = some i)
    (present : start.tracking.get? ⟨c.trackerKind, i⟩ = some o)
    (eligible : c.trackerKind.recreatesPods o = true) (events : List Incident)
    (cycles : ∀ e ∈ events, e.Cycles c t old)
    (complete : ∀ r ∈ chronicle c start events, r.Decides t → r.verdict.isSome = true) :
    (∀ r ∈ chronicle c start events, r.Decides t → r.met.pods.get? t = none →
      r.verdict = some (.deny .podRescheduled) ∧ ∀ e ∈ r.sent, e.2 = true → e.1.isPatch = false) ∧
    ∀ (before between after : List Record) (first next : Record),
      chronicle c start events = before ++ first :: (between ++ next :: after) →
      first.FindsUnmarked c t → next.FindsUnmarked c t →
      (∀ r ∈ between, ¬ r.FindsUnmarked c t) →
      (first.verdict = some (.deny .rescheduleRequested) ∧
          next.verdict = some (.deny .podRescheduledWithSameName)) ∨
        (first.verdict = some (.deny .podRescheduledWithSameName) ∧
          next.verdict = some (.deny .rescheduleRequested)) := by
  have cycle : InCycle c t old i start := by
    refine ⟨fun pod found => ?_, ?_⟩
    · cases there.symm.trans found
      exact ⟨rfl, rfl⟩
    · rw [World.bareAt, present, Option.map_some, Option.any_some]
      exact (TrackerKind.recreatesPods_bare _ o).trans eligible
  refine ⟨fun r mem decides absent => ?_, fun before between after first next split => ?_⟩
  · obtain ⟨k, at_k⟩ := List.mem_iff_getElem?.mp mem
    have answered := complete r mem decides
    obtain ⟨earlier, e, later, rfl, -, rfl, -⟩ := exists_of_record at_k
    exact (cycles e (by simp)).happen_absent tracks decides absent answered
  · intro finds finds' unfound
    have at_first : (chronicle c start events)[before.length]? = some first := by
      rw [split, List.getElem?_append_right (Nat.le_refl _), Nat.sub_self]
      rfl
    obtain ⟨earlier, e, later, rfl, count, rfl, all⟩ := exists_of_record at_first
    obtain ⟨-, rest⟩ := List.append_inj (all.symm.trans split) count
    have answered (r : Record) (mem : r ∈ chronicle c (start.through c earlier) (e :: later)) :=
      complete r (by rw [all]; exact List.mem_append_right _ mem)
    have there_cycle := cycle.through fun e mem => cycles e (List.mem_append_left _ mem)
    have this_cycles := cycles e (by simp)
    obtain ⟨answer, turned⟩ := there_cycle.happen_unmarked selected tracked tracks this_cycles
      finds (answered _ List.mem_cons_self finds.decides)
    have answer' := (there_cycle.happen this_cycles).first_unmarked selected tracked tracks
      (fun e mem => cycles e (by simp [mem])) (fun r mem => answered r (List.mem_cons_of_mem _ mem))
      (List.cons.inj rest).2 finds' unfound
    rw [answer, answer', turned]
    cases (start.through c earlier).flagOn ⟨c.trackerKind, i⟩ t.flagKey with
    | true => exact .inr ⟨rfl, rfl⟩
    | false => exact .inl ⟨rfl, rfl⟩

namespace Sample

/-- The eviction of the pod, in which no call fails. -/
def evict : Incident := .decide db (prompt none) 0

/-- The pod is evicted, deleted, evicted again, created and evicted again. -/
def evictedWhileAway : List Incident := [evict, .delete db, evict, .create fresh, evict]

/-- The same, and then the pod is evicted once more. -/
def evictedAgain : List Incident := evictedWhileAway ++ [evict]

theorem evictedAgain_cycles : ∀ e ∈ evictedAgain, e.Cycles .default db fresh := by
  have evicts : evict.Cycles .default db fresh := .decide fun _ => rfl
  have creates : (Incident.create fresh).Cycles .default db fresh :=
    .create rfl ⟨rfl, rfl⟩ (by decide)
  simp only [evictedAgain, evictedWhileAway, List.cons_append, List.nil_append,
    List.forall_mem_cons]
  exact ⟨evicts, .delete, evicts, creates, evicts, evicts, fun _ mem => nomatch mem⟩

theorem evictedAgain_complete : ∀ r ∈ chronicle .default world evictedAgain,
    r.Decides db → r.verdict.isSome = true := by
  have all : (chronicle .default world evictedAgain).all (fun r =>
      match r.event with
      | .decide .. => r.verdict.isSome
      | _ => true) = true := by decide
  rintro r mem ⟨fates, timeout, decides⟩
  have this_one := List.all_eq_true.mp all r mem
  rwa [decides] at this_one

end Sample

/-- The pod that has come back is evicted twice: the first time it has moved, the second time
a new cycle begins. -/
theorem cycles_alternate_after_absence :
    ((chronicle .default Sample.world Sample.evictedAgain)[5]?).bind Record.verdict =
      some (.deny .rescheduleRequested) := by
  obtain ⟨-, alternate⟩ := cycles_alternate .default rfl Sample.world Sample.db Sample.fresh
    ⟨"main", some "prod"⟩ Sample.cluster rfl (by decide) rfl rfl (by decide)
    Sample.evictedAgain Sample.evictedAgain_cycles Sample.evictedAgain_complete
  obtain ⟨asked, -⟩ | ⟨-, asks⟩ := alternate
    (chronicle .default Sample.world (Sample.evictedWhileAway.take 4)) [] [] _ _ rfl
    ⟨⟨_, _, rfl⟩, Sample.fresh, by decide, by decide⟩
    ⟨⟨_, _, rfl⟩, Sample.fresh, by decide, by decide⟩ fun _ mem => nomatch mem
  · exact absurd asked (by decide)
  · exact asks

/-- The pod is answered that it is gone, and after it has come back that it has moved, by
which the same cycle is said to be over twice. -/
theorem cycle_outlives_absence :
    (chronicle .default Sample.world Sample.evictedWhileAway).map Record.verdict =
        [some (.deny .rescheduleRequested), none, some (.deny .podRescheduled), none,
          some (.deny .podRescheduledWithSameName)] ∧
      ∀ r, (chronicle .default Sample.world Sample.evictedWhileAway)[4]? = some r →
        r.FindsUnmarked .default Sample.db := by
  refine ⟨by decide, ?_⟩
  rintro r ⟨⟩
  exact ⟨⟨_, _, rfl⟩, Sample.fresh, by decide, by decide⟩

end EvictionGate
