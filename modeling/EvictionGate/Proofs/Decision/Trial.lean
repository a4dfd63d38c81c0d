import EvictionGate.Proofs.Decision.Stage

/-!
# Decisions whose calls take time and may fail

A call takes its time, and may fail, in which case it has no effect. A decision that has
not ended when its time is up is dropped while it waits for a reply; whether the call has
acted by then is up to the call (`Fate`).

Results:
1. `timed_concluded`, `timed_induction`: what every timely reply preserves holds where a
   decision ends, and where it is dropped.
2. `result_of_calm`: a decision to which no call fails is a run to the end, if it ends in time.
3. `timed_pair`: two runs that bring the same replies come to the same verdict.
4. `World.pod_replay`, `World.isSome_tracking_replay`: whichever calls have acted, no pod and
   no tracking object comes or goes.
-/

namespace EvictionGate

/-- An entry of a list that has grown by one is an old entry or the new one. -/
theorem getElem?_concat_cases {α : Type} {l : List α} {a b : α} {n : Nat}
    (h : (l ++ [a])[n]? = some b) : l[n]? = some b ∨ n = l.length ∧ b = a := by
  rcases Nat.lt_trichotomy n l.length with lt | rfl | gt
  · rw [List.getElem?_append_left lt] at h
    exact .inl h
  · rw [List.getElem?_concat_length] at h
    exact .inr ⟨rfl, (Option.some.inj h).symm⟩
  · rw [List.getElem?_eq_none (by simpa using Nat.succ_le_of_lt gt)] at h
    cases h

/-- What becomes of a call. -/
structure Fate where
  /-- How long the reply takes; none if it never comes. -/
  latency : Option Nat
  /-- How the call fails, if it does. -/
  failure : Option GateError
  /-- Whether the call acts even if nobody waits for the reply any more. -/
  early : Bool

/-- The sum of the latencies of the first `n` calls; none if one of them is never answered. -/
def spent (fates : Nat → Fate) : Nat → Option Nat
  | 0 => some 0
  | n + 1 => (spent fates n).bind fun before => (fates n).latency.map (before + ·)

/-- The first `n` calls are all answered before the deadline. -/
def Timely (fates : Nat → Fate) (timeout n : Nat) : Prop :=
  ∃ used, spent fates n = some used ∧ used ≤ timeout

/-- Call number `n` acts if it is sent: those before it are answered before the deadline, it does
not fail, and it is itself answered in time or `Fate.early`. -/
def Acts (fates : Nat → Fate) (timeout n : Nat) : Prop :=
  Timely fates timeout n ∧ (fates n).failure = none ∧
    (Timely fates timeout (n + 1) ∨ (fates n).early = true)

section

variable {fates : Nat → Fate} {timeout : Nat}

theorem Timely.of_succ {n : Nat} (timely : Timely fates timeout (n + 1)) :
    Timely fates timeout n := by
  obtain ⟨used, all, enough⟩ := timely
  simp only [spent, Option.bind_eq_some_iff, Option.map_eq_some_iff] at all
  obtain ⟨before, some_before, wait, -, rfl⟩ := all
  exact ⟨before, some_before, Nat.le_trans (Nat.le_add_right _ _) enough⟩

theorem Timely.mono {m n : Nat} (le : m ≤ n) (timely : Timely fates timeout n) :
    Timely fates timeout m := by
  induction le with
  | refl => exact timely
  | step _ ih => exact ih timely.of_succ

/-- No call acts after a reply that comes too late. -/
theorem not_acts_of_late {m n : Nat} (late : ¬ Timely fates timeout m) (le : m ≤ n) :
    ¬ Acts fates timeout n :=
  fun acts => late (acts.1.mono le)

end

/-- A world, and the calls that have been sent, each with whether it has acted. -/
structure Trial where
  world : World
  sent : List (Call × Bool)

namespace Trial

/-- The trial after a call whose reply comes in time. -/
def answered (fate : Fate) (call : Call) (s : Trial) : Trial where
  world := (s.world.attempt fate.failure call).2
  sent := s.sent ++ [(call, (s.world.attempt fate.failure call).1.isOk)]

/-- The trial after a call whose reply does not come in time; it acts if it is `Fate.early`. -/
def abandoned (fate : Fate) (call : Call) (s : Trial) : Trial :=
  if fate.early then s.answered fate call else ⟨s.world, s.sent ++ [(call, false)]⟩

/-- A cluster for `Decision.runWithin` that treats call number `n` as `fates n` tells. -/
def send (fates : Nat → Fate) (call : Call) (s : Trial) : Exchange Trial call where
  sent := s.abandoned (fates s.sent.length) call
  latency := (fates s.sent.length).latency
  reply := (s.world.attempt (fates s.sent.length).failure call).1
  log := []
  done := s.answered (fates s.sent.length) call

end Trial

/-- `Decision.timed` of the decision about `t`, with the fates of its calls. -/
def decideWithin (c : Settings) (t : Target) (fates : Nat → Fate) (timeout : Nat) (w : World) :
    Option Verdict × Trial :=
  (decideEviction c t).timed (Trial.send fates) timeout ⟨w, []⟩

/-- `Concludes c t fates P o`: the outcome `o` under a deadline, if `P` holds of the stage, the
remaining time and the trial before each call.

* `ended`: it is at a verdict.
* `dropped`: the call of its stage takes longer than the remaining time. -/
inductive Concludes (c : Settings) (t : Target) (fates : Nat → Fate)
    (P : Stage → Nat → Trial → Prop) : Option Verdict × Trial → Prop
  | ended {v : Verdict} {left : Nat} {s : Trial} :
      P (.ended v) left s → Concludes c t fates P (some v, s)
  | dropped {stage : Stage} {left : Nat} {s : Trial} {call : Call} {next : Reply call → Stage} :
      stage.ask c t = some ⟨call, next⟩ → P stage left s →
      (∀ wait, (fates s.sent.length).latency = some wait → left < wait) →
      Concludes c t fates P (none, s.abandoned (fates s.sent.length) call)

section

variable {c : Settings} {t : Target} {fates : Nat → Fate} {P : Stage → Nat → Trial → Prop}

theorem Stage.eq_ended_of_standing {stage : Stage} {v : Verdict}
    (h : stage.standing c t = .ended v) : stage = .ended v := by
  cases asks : stage.ask c t with
  | none =>
    obtain ⟨u, rfl⟩ := eq_ended_of_ask asks
    cases h
    rfl
  | some request =>
    obtain ⟨call, next⟩ := request
    obtain ⟨after, waits, -⟩ := Stage.settle_rest c t asks
    rw [waits] at h
    cases h

theorem Stage.ask_of_standing {stage : Stage} {call : Call} {after : Reply call → Decision}
    (h : stage.standing c t = .waiting call after) :
    ∃ next : Reply call → Stage, stage.ask c t = some ⟨call, next⟩ ∧
      ∀ reply, (after reply).settle.2 = (next reply).standing c t := by
  cases asks : stage.ask c t with
  | none =>
    obtain ⟨v, rfl⟩ := eq_ended_of_ask asks
    cases h
  | some request =>
    obtain ⟨call', next⟩ := request
    obtain ⟨after', waits, follows⟩ := Stage.settle_rest c t asks
    rw [waits] at h
    cases h
    exact ⟨next, rfl, follows⟩

/-- `Concluded c t send P o`: `Concludes` for calls that are sent by any `send`. -/
inductive Concluded {σ : Type} (c : Settings) (t : Target)
    (send : (call : Call) → σ → Exchange σ call) (P : Stage → Nat → σ → Prop) :
    Option Verdict × σ → Prop
  | ended {v : Verdict} {left : Nat} {s : σ} :
      P (.ended v) left s → Concluded c t send P (some v, s)
  | dropped {stage : Stage} {left : Nat} {s : σ} {call : Call} {next : Reply call → Stage} :
      stage.ask c t = some ⟨call, next⟩ → P stage left s →
      (∀ wait, (send call s).latency = some wait → left < wait) →
      Concluded c t send P (none, (send call s).sent)

/-- What every timely reply preserves holds where a decision ends, and where it is
dropped. -/
theorem timed_concluded {σ : Type} {send : (call : Call) → σ → Exchange σ call}
    {P : Stage → Nat → σ → Prop}
    (step : ∀ {stage left s call next wait}, stage.ask c t = some ⟨call, next⟩ →
      P stage left s → (send call s).latency = some wait → wait ≤ left →
      P (next (send call s).reply) (left - wait) (send call s).done)
    {stage : Stage} {left : Nat} {s : σ} (start : P stage left s) :
    Concluded c t send P ((stage.rest c t).timed send left s) := by
  -- induction on the tree of calls, along which the stages run
  suffices along : ∀ (d : Decision) (stage : Stage) (left : Nat) (s : σ),
      d.settle.2 = stage.standing c t → P stage left s →
      Concluded c t send P (d.timed send left s) from
    along _ stage left s rfl start
  intro d
  induction d with
  | verdict v =>
    intro stage left s stands holds
    rw [Stage.eq_ended_of_standing stands.symm] at holds
    exact .ended holds
  | log line d ih =>
    intro stage left s stands holds
    exact ih stage left s stands holds
  | call call after ih =>
    intro stage left s stands holds
    obtain ⟨next, asks, follows⟩ := Stage.ask_of_standing stands.symm
    rw [Decision.timed_of_waiting rfl]
    cases takes : (send call s).latency with
    | none =>
      refine .dropped asks holds fun wait awaited => ?_
      cases takes.symm.trans awaited
    | some wait =>
      dsimp only
      split
      · next late =>
        refine .dropped asks holds fun other awaited => ?_
        cases takes.symm.trans awaited
        exact late
      · next timely =>
        exact ih _ _ _ _ (follows _) (step asks holds takes (Nat.le_of_not_lt timely))

/-- The same of a decision whose calls may fail. -/
theorem timed_induction
    (step : ∀ {stage left s call next wait}, stage.ask c t = some ⟨call, next⟩ →
      P stage left s → (fates s.sent.length).latency = some wait → wait ≤ left →
      P (stage.turn c t (fates s.sent.length).failure s.world).1 (left - wait)
        (s.answered (fates s.sent.length) call))
    {stage : Stage} {left : Nat} {s : Trial} (start : P stage left s) :
    Concludes c t fates P ((stage.rest c t).timed (Trial.send fates) left s) := by
  have concluded : Concluded c t (Trial.send fates) P
      ((stage.rest c t).timed (Trial.send fates) left s) := by
    refine timed_concluded (fun asks holds takes timely => ?_) start
    have goes := step asks holds takes timely
    rwa [Stage.turn, asks] at goes
  generalize (stage.rest c t).timed (Trial.send fates) left s = o at concluded ⊢
  cases concluded with
  | ended holds => exact .ended holds
  | dropped asks holds late => exact .dropped asks holds late

end

/-- A decision that comes to a verdict in time, and none of whose calls fails, is a run to
the end. -/
theorem result_of_calm {timeout : Nat} {w : World} (calm : ∀ n, (fates n).failure = none)
    {v : Verdict} (ends : (decideWithin c t fates timeout w).1 = some v) :
    (decideEviction c t).result (World.perform none) w =
      (v, (decideWithin c t fates timeout w).2.world) := by
  have concludes : Concludes c t fates
      (fun stage _ s => (decideEviction c t).result (World.perform none) w =
        (stage.rest c t).result (World.perform none) s.world)
      ((Stage.fetch.rest c t).timed (Trial.send fates) timeout ⟨w, []⟩) := by
    refine timed_induction (fun {stage _ s call next _} asks along _ _ => ?_) rfl
    rw [along, Stage.result_turn, calm]
    simp only [Stage.turn, asks, Trial.answered, calm]
  change Concludes c t fates _ (decideWithin c t fates timeout w) at concludes
  generalize decideWithin c t fates timeout w = o at concludes ends
  cases concludes with
  | ended along =>
    cases ends
    exact along
  | dropped => cases ends

/-! ## Two decisions under a deadline -/

section

variable {c : Settings} {t : Target} {σ τ : Type} {send : (call : Call) → σ → Exchange σ call}
  {send' : (call : Call) → τ → Exchange τ call}

variable (send send') in
/-- Two runs of a decision in which every call takes the same time and leads to the same stage
come to the same verdict. No decision is dropped at a call that takes no time. -/
theorem timed_alike (left : Nat) {R : Stage → σ → τ → Prop} {Q : σ → τ → Prop}
    (step : ∀ {stage s s' call next}, stage.ask c t = some ⟨call, next⟩ → R stage s s' →
      (send call s).latency = (send' call s').latency ∧
        next (send call s).reply = next (send' call s').reply ∧
        ((send call s).latency ≠ some 0 → Q (send call s).sent (send' call s').sent) ∧
        R (next (send call s).reply) (send call s).done (send' call s').done)
    (ends : ∀ {v s s'}, R (.ended v) s s' → Q s s') {stage : Stage} {s : σ} {s' : τ}
    (start : R stage s s') :
    ((stage.rest c t).timed send left s).1 = ((stage.rest c t).timed send' left s').1 ∧
      Q ((stage.rest c t).timed send left s).2 ((stage.rest c t).timed send' left s').2 := by
  -- induction on the tree of calls, along which the stages run
  suffices along : ∀ (d : Decision) (stage : Stage) (left : Nat) (s : σ) (s' : τ),
      d.settle.2 = stage.standing c t → R stage s s' →
      (d.timed send left s).1 = (d.timed send' left s').1 ∧
        Q (d.timed send left s).2 (d.timed send' left s').2 from
    along _ stage left s s' rfl start
  intro d
  induction d with
  | verdict v =>
    intro stage left s s' stands related
    rw [Stage.eq_ended_of_standing stands.symm] at related
    exact ⟨rfl, ends related⟩
  | log line d ih =>
    intro stage left s s' stands related
    exact ih stage left s s' stands related
  | call call after ih =>
    intro stage left s s' stands related
    obtain ⟨next, asks, follows⟩ := Stage.ask_of_standing stands.symm
    obtain ⟨latency, leads, sent, done⟩ := step asks related
    rw [Decision.timed_of_waiting rfl, Decision.timed_of_waiting rfl, ← latency]
    cases waits : (send call s).latency with
    | none => exact ⟨rfl, sent (by simp [waits])⟩
    | some wait =>
      dsimp only
      split
      · next late =>
        refine ⟨rfl, sent fun none => ?_⟩
        cases waits.symm.trans none
        exact absurd late (Nat.not_lt_zero _)
      · -- the two replies may differ, the stages after them do not
        have stands' : (after (send' call s').reply).settle.2 =
            (after (send call s).reply).settle.2 := by
          rw [follows, follows, leads]
        rw [Decision.timed_congr stands']
        exact ih _ _ _ _ _ (follows _) done

variable (send send') in
/-- Two runs of a decision in which every call takes the same time and brings the same reply
come to the same verdict. -/
theorem timed_pair {R : Stage → σ → τ → Prop} {Q : σ → τ → Prop}
    (step : ∀ {stage s s' call next}, stage.ask c t = some ⟨call, next⟩ → R stage s s' →
      (send call s).latency = (send' call s').latency ∧
        (send call s).reply = (send' call s').reply ∧
        Q (send call s).sent (send' call s').sent ∧
        R (next (send call s).reply) (send call s).done (send' call s').done)
    (ends : ∀ {v s s'}, R (.ended v) s s' → Q s s') {stage : Stage} {left : Nat} {s : σ} {s' : τ}
    (start : R stage s s') :
    ((stage.rest c t).timed send left s).1 = ((stage.rest c t).timed send' left s').1 ∧
      Q ((stage.rest c t).timed send left s).2 ((stage.rest c t).timed send' left s').2 := by
  refine timed_alike send send' left (fun {stage s s' call next} asks related => ?_) ends start
  obtain ⟨latency, reply, sent, done⟩ := step asks related
  exact ⟨latency, congrArg next reply, fun _ => sent, done⟩

/-- What every call preserves holds of the state that a decision leaves. -/
theorem timed_preserves {I : Stage → σ → Prop} {Q : σ → Prop}
    (step : ∀ {stage s call next}, stage.ask c t = some ⟨call, next⟩ → I stage s →
      Q (send call s).sent ∧ I (next (send call s).reply) (send call s).done)
    (ends : ∀ {v s}, I (.ended v) s → Q s) {stage : Stage} {left : Nat} {s : σ}
    (start : I stage s) : Q ((stage.rest c t).timed send left s).2 := by
  refine (timed_pair send send (R := fun stage s s' => s = s' ∧ I stage s) (Q := fun s _ => Q s)
    (fun {stage s s' call next} asks related => ?_) (fun related => ends related.2)
    ⟨rfl, start⟩).2
  obtain ⟨rfl, holds⟩ := related
  obtain ⟨sent, done⟩ := step asks holds
  exact ⟨rfl, rfl, sent, rfl, done⟩

end

/-! ## What has acted -/

/-- The world after those of the calls that have acted. -/
def World.replay (w : World) (sent : List (Call × Bool)) : World :=
  sent.foldl (fun w e => if e.2 then w.after e.1 else w) w

namespace World

variable (w : World)

@[simp] theorem replay_nil : w.replay [] = w := rfl

theorem replay_append (first second : List (Call × Bool)) :
    w.replay (first ++ second) = (w.replay first).replay second := by
  simp only [replay, List.foldl_append]

@[simp] theorem replay_acted (call : Call) (rest : List (Call × Bool)) :
    w.replay ((call, true) :: rest) = (w.after call).replay rest := rfl

@[simp] theorem replay_failed (call : Call) (rest : List (Call × Bool)) :
    w.replay ((call, false) :: rest) = w.replay rest := rfl

/-- Calls that only read, or have not acted, leave the world as it is. -/
theorem replay_of_quiet {sent : List (Call × Bool)}
    (quiet : ∀ e ∈ sent, e.2 = true → e.1.isPatch = false) : w.replay sent = w := by
  induction sent with
  | nil => rfl
  | cons e sent ih =>
    obtain ⟨call, acted⟩ := e
    have rest := ih fun e he => quiet e (List.mem_cons_of_mem _ he)
    cases acted with
    | false => exact rest
    | true => rw [replay_acted, after_of_read w (quiet _ List.mem_cons_self rfl), rest]

theorem isSome_tracking_replay (sent : List (Call × Bool)) (place : TrackingKey) :
    ((w.replay sent).tracking.get? place).isSome = (w.tracking.get? place).isSome := by
  induction sent generalizing w with
  | nil => rfl
  | cons e sent ih =>
    obtain ⟨call, acted⟩ := e
    cases acted with
    | false => exact ih w
    | true => rw [replay_acted, ih, isSome_tracking_after]

/-- Calls change at most the annotations of a pod. -/
theorem pod_replay {t : Target} {pod : Pod} (found : w.pods.get? t = some pod)
    (sent : List (Call × Bool)) :
    ∃ pod', (w.replay sent).pods.get? t = some pod' ∧ pod.Alike pod' := by
  induction sent generalizing w pod with
  | nil => exact ⟨pod, found, .refl pod⟩
  | cons e sent ih =>
    obtain ⟨call, acted⟩ := e
    cases acted with
    | false => exact ih w found
    | true =>
      obtain ⟨pod', found', alike⟩ := w.pod_after found call
      obtain ⟨last, found_last, alike_last⟩ := ih _ found'
      exact ⟨last, found_last, alike.trans alike_last⟩

end World

end EvictionGate
