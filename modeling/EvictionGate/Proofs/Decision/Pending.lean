import EvictionGate.Proofs.Decision.SharedFlag
import EvictionGate.Proofs.Decision.Transcript
import EvictionGate.Proofs.Review.FailsClosed

/-!
# A pod that is to move is waited for

Once a decision has answered that a pod is to move, every later decision that can read the pod
answers that it waits for it, and makes no other call. This rests on what decisions do to a pod
at most: they set its marker. So nothing that they do, in whatever order, with calls that fail,
are given up or act late, takes the marker back.

Results:
1. `World.Keeps`: what a pod keeps, whatever decisions do.
2. `Staged.next`: what can happen to each of several decisions, and to a pod.
3. `Attests.pending`: a pod that a decision says is to move is marked.
4. `pending_is_stable`: a pod that is to move is waited for.
-/

namespace EvictionGate

variable {c : Settings} {t : Target}

/-! ## What worlds keep of a pod -/

namespace World

/-- `World.rehearse` in a dry run, and else `World.perform`. -/
def respond (dry : Bool) (failure : Option GateError) :
    (call : Call) → World → Reply call × Log × World :=
  if dry then World.rehearse failure else World.perform failure

theorem respond_reply (dry : Bool) (failure : Option GateError) (call : Call) (w : World) :
    (w.respond dry failure call).1 = (w.attempt failure call).1 := by
  cases dry <;> rfl

theorem respond_leaves (dry : Bool) (failure : Option GateError) (call : Call) (w : World) :
    (w.respond dry failure call).2.2 = w ∨ (w.respond dry failure call).2.2 = w.after call := by
  cases dry with
  | true => exact .inl rfl
  | false =>
    cases failure with
    | some e => exact .inl rfl
    | none => exact .inr rfl

end World

/-- `Keeps c t w v`: if `w` has the pod `t`, then `v` has one that is `Pod.Akin` to it, and has
the marker if the first one has it. -/
def World.Keeps (c : Settings) (t : Target) (w v : World) : Prop :=
  ∀ pod, w.pods.get? t = some pod → ∃ pod', v.pods.get? t = some pod' ∧ pod.Akin pod' ∧
    (c.markerIsOn pod = true → c.markerIsOn pod' = true)

/-- A call that patches no annotation of a pod but `c.marker`. -/
def Call.Marks (c : Settings) (call : Call) : Prop :=
  ∀ u key value, call = .patchPod u key value → key = c.marker.key ∧ value = c.marker.value

namespace World.Keeps

variable {w v : World}

theorem of_eq (same : v.pods.get? t = w.pods.get? t) : Keeps c t w v := by
  intro pod found
  exact ⟨pod, same.trans found, ⟨rfl, rfl⟩, id⟩

theorem after (w : World) {call : Call} (marks : call.Marks c) : Keeps c t w (w.after call) := by
  intro pod found
  obtain ⟨pod', found', alike⟩ := w.pod_after found call
  refine ⟨pod', found', alike.toAkin, fun marked => ?_⟩
  refine w.marker_after marks (fun old old_found => ?_) pod' found'
  cases found.symm.trans old_found
  exact marked

theorem respond (w : World) {call : Call} (marks : call.Marks c) (dry : Bool)
    (failure : Option GateError) : Keeps c t w (w.respond dry failure call).2.2 := by
  rcases w.respond_leaves dry failure call with same | acted
  · rw [same]
    exact of_eq rfl
  · rw [acted]
    exact after w marks

end World.Keeps

/-- The pod `t` is there, with `Settings.selects` and `Settings.markerIsOn`. -/
def World.Pending (c : Settings) (t : Target) (w : World) : Prop :=
  ∃ pod, w.pods.get? t = some pod ∧ c.selects pod = true ∧ c.markerIsOn pod = true

section

variable {w v : World}

theorem World.Pending.keeps (pending : w.Pending c t) (keeps : w.Keeps c t v) : v.Pending c t := by
  obtain ⟨pod, found, selected, marked⟩ := pending
  obtain ⟨pod', found', akin, marked'⟩ := keeps pod found
  exact ⟨pod', found', (akin.selects c).trans selected, marked' marked⟩

theorem World.found_of_heard {pod : Pod} {call : Call} (failure : Option GateError)
    (heard : (⟨.getPod t, .ok pod⟩ : Heard) = ⟨call, (w.attempt failure call).1⟩) :
    w.pods.get? t = some pod := by
  obtain ⟨rfl, reply⟩ := Sigma.mk.inj_iff.mp heard
  have reply := eq_of_heq reply
  cases failure with
  | some e => cases reply
  | none =>
    unfold World.attempt at reply
    cases found : w.pods.get? t with
    | none =>
      rw [answer_getPod_absent w found] at reply
      cases reply
    | some other =>
      rw [answer_getPod w found] at reply
      cases reply
      rfl

theorem World.marked_of_heard {call : Call} {failure : Option GateError}
    (heard : (⟨.setMarker c t, .ok ()⟩ : Heard) = ⟨call, (w.attempt failure call).1⟩) :
    ∃ pod, (w.attempt failure call).2.pods.get? t = some pod ∧ c.markerIsOn pod = true := by
  obtain ⟨rfl, reply⟩ := Sigma.mk.inj_iff.mp heard
  have reply := eq_of_heq reply
  cases failure with
  | some e => cases reply
  | none =>
    cases found : w.pods.get? t with
    | none =>
      unfold World.attempt at reply
      rw [answer_patchPod_absent w found] at reply
      cases reply
    | some pod => exact ⟨c.marked pod, w.pod_after_mark found c, c.markerIsOn_marked pod⟩

end

theorem Stage.ofPod_marked {pod : Pod} (selected : c.selects pod = true)
    (marked : c.markerIsOn pod = true) :
    ofPod c pod = .ended (.deny .waitingForReschedule) := by
  rw [ofPod, selected, marked]
  rfl

/-- A decision at its deadline: if it waits for a reply, it ends with the verdict `timedOut`. -/
def Runner.cutOff : Runner → Runner
  | .awake (.waiting _ _) => .awake (.ended (.deny .timedOut))
  | r => r

/-! ## Decisions made at the same time -/

namespace Concurrent

/-- What happens in a run of the decisions `i : ι`. -/
inductive Event (ι : Type)
  /-- `Runner.turn` of a decision, which hears the reply to its call. -/
  | reply (turn : Slot ι)
  /-- `Runner.cutOff` of a decision. -/
  | cutOff (who : ι)
  /-- The call number `n` of `Scene.adrift` acts. -/
  | straggler (n : Nat)
  /-- Someone other than the decisions changes the world. -/
  | change (f : World → World)

/-- An event other than a `change` of the pod `t`. -/
def Event.Spares {ι : Type} (t : Target) : Event ι → Prop
  | .change f => ∀ w, (f w).pods.get? t = w.pods.get? t
  | _ => True

/-- The decisions of a run, the calls that each has heard the reply to, and in `adrift` those that
may still act although no decision waits for them: calls that have failed or have been cut off. -/
structure Scene (ι : Type) where
  runners : ι → Runner
  heard : ι → List Heard
  adrift : List Call
  world : World

namespace Scene

variable {ι : Type}

/-- The start of a run: every decision is `evicting`, and nothing has been heard. -/
def start (c : Settings) (target : ι → Target) (w : World) : Scene ι where
  runners i := evicting c (target i)
  heard _ := []
  adrift := []
  world := w

/-- `adrift` with the call that the decision `who` waits for. In a dry run that call leaves
nothing behind. -/
def leftBy (dry : ι → Bool) (s : Scene ι) (who : ι) : List Call :=
  if dry who then s.adrift else s.adrift ++ (s.runners who).pending?.toList

variable [DecidableEq ι]

/-- What comes of an event. A `reply` comes in the turn in which its call acts: a decision does
nothing while it waits, so the time in between makes no difference to the others. -/
def next (dry : ι → Bool) (s : Scene ι) : Event ι → Scene ι
  | .reply a =>
    let turn := (s.runners a.who).turn (noting (World.respond (dry a.who) a.failure)) 0
      (s.world, s.heard a.who)
    { runners := Function.update s.runners a.who turn.1
      heard := Function.update s.heard a.who turn.2.2.2
      adrift := if a.failure.isSome then s.leftBy dry a.who else s.adrift
      world := turn.2.2.1 }
  | .cutOff who =>
    { s with
      runners := Function.update s.runners who (s.runners who).cutOff
      adrift := s.leftBy dry who }
  | .straggler n =>
    match s.adrift[n]? with
    | none => s
    | some call => { s with adrift := s.adrift.eraseIdx n, world := s.world.after call }
  | .change f => { s with world := f s.world }

/-- What comes of a list of events. -/
def play (dry : ι → Bool) (s : Scene ι) (events : List (Event ι)) : Scene ι :=
  events.foldl (next dry) s

end Scene

/-! ## What can happen to a decision -/

/-- `Advance c t dry w v stage heard stage' heard'`: what one event, from `w` to `v`, does to a
decision about `t`.

* `rests`: nothing.
* `hears`: it hears the reply to the call of `Stage.ask`.
* `cutOff`: it ends with `timedOut`. -/
inductive Advance (c : Settings) (t : Target) (dry : Bool) (w v : World) (stage : Stage)
    (heard : List Heard) : Stage → List Heard → Prop
  | rests : Advance c t dry w v stage heard stage heard
  | hears {call : Call} {next : Reply call → Stage} (failure : Option GateError) :
      stage.ask c t = some ⟨call, next⟩ → v = (w.respond dry failure call).2.2 →
      Advance c t dry w v stage heard (next (w.attempt failure call).1)
        (heard ++ [⟨call, (w.attempt failure call).1⟩])
  | cutOff {request : (call : Call) × (Reply call → Stage)} : stage.ask c t = some request →
      Advance c t dry w v stage heard (.ended (.deny .timedOut)) heard

/-- `Staged c target stages s`: the decision `i` of the run is at `stages i`, by `Stage.standing`;
what it has heard is as `Grounds` tells, and the calls adrift are `Call.Marks`. -/
structure Staged {ι : Type} (c : Settings) (target : ι → Target) (stages : ι → Stage)
    (s : Scene ι) : Prop where
  stands : ∀ i, s.runners i = .awake ((stages i).standing c (target i))
  grounds : ∀ i, Grounds c (target i) (stages i) (s.heard i)
  unheard : ∀ i, s.heard i = [] → stages i = .fetch ∨ stages i = .ended (.deny .timedOut)
  adrift : ∀ call ∈ s.adrift, call.Marks c

namespace Advance

variable {dry : Bool} {w v : World} {stage stage' : Stage} {heard heard' : List Heard}

theorem grounds (advance : Advance c t dry w v stage heard stage' heard')
    (before : Grounds c t stage heard) : Grounds c t stage' heard' := by
  cases advance with
  | rests => exact before
  | hears failure asks => exact before.next asks _
  | cutOff => exact .failed rfl

theorem unheard (advance : Advance c t dry w v stage heard stage' heard')
    (before : heard = [] → stage = .fetch ∨ stage = .ended (.deny .timedOut)) :
    heard' = [] → stage' = .fetch ∨ stage' = .ended (.deny .timedOut) := by
  intro none_heard
  cases advance with
  | rests => exact before none_heard
  | hears => exact absurd none_heard (List.append_ne_nil_of_right_ne_nil _ (List.cons_ne_nil _ _))
  | cutOff => exact .inr rfl

end Advance

section

variable {ι : Type} {target : ι → Target} {dry : ι → Bool} {stages : ι → Stage} {s : Scene ι}

variable (c target) in
theorem Staged.start (w : World) :
    Staged c target (fun _ => .fetch) (Scene.start c target w) where
  stands _ := rfl
  grounds _ := .fetch
  unheard _ _ := .inl rfl
  adrift _ none := (List.not_mem_nil none).elim

/-- `Step c target dry e stages s stages' s'`: the run stays `Staged`, every decision makes an
`Advance`, and `World.Keeps` holds of the pods that `e` spares. -/
structure Step (c : Settings) (target : ι → Target) (dry : ι → Bool) (e : Event ι)
    (stages : ι → Stage) (s : Scene ι) (stages' : ι → Stage) (s' : Scene ι) : Prop where
  staged : Staged c target stages' s'
  advances : ∀ i, Advance c (target i) (dry i) s.world s'.world (stages i) (s.heard i)
    (stages' i) (s'.heard i)
  keeps : ∀ t, e.Spares t → World.Keeps c t s.world s'.world

namespace Staged

variable (staged : Staged c target stages s)
include staged

theorem marks_pending {i : ι} {call : Call} (waits : (s.runners i).pending? = some call) :
    call.Marks c := by
  rw [staged.stands, Stage.pending?_standing, Stage.pending?, Option.map_eq_some_iff] at waits
  obtain ⟨⟨_, next⟩, asks, rfl⟩ := waits
  exact Stage.marks asks

theorem marks_leftBy (dry : ι → Bool) (who : ι) : ∀ call ∈ s.leftBy dry who, call.Marks c := by
  intro call left
  unfold Scene.leftBy at left
  split at left
  · exact staged.adrift call left
  · rcases List.mem_append.mp left with before | given_up
    · exact staged.adrift call before
    · exact staged.marks_pending (Option.mem_toList.mp given_up)

theorem step_of {e : Event ι} {stages' : ι → Stage} {s' : Scene ι}
    (stands : ∀ i, s'.runners i = .awake ((stages' i).standing c (target i)))
    (adrift : ∀ call ∈ s'.adrift, call.Marks c)
    (advances : ∀ i, Advance c (target i) (dry i) s.world s'.world (stages i) (s.heard i)
      (stages' i) (s'.heard i))
    (keeps : ∀ t, e.Spares t → World.Keeps c t s.world s'.world) :
    Step c target dry e stages s stages' s' where
  staged := ⟨stands, fun i => (advances i).grounds (staged.grounds i),
    fun i => (advances i).unheard (staged.unheard i), adrift⟩
  advances := advances
  keeps := keeps

variable [DecidableEq ι]

theorem stands_update {who : ι} {r : Runner} {stage : Stage}
    (stands : r = .awake (stage.standing c (target who))) (i : ι) :
    Function.update s.runners who r i =
      .awake ((Function.update stages who stage i).standing c (target i)) := by
  rw [stands, funext staged.stands, Stage.update_standing c target]

omit staged in
/-- If something happens to one decision, nothing happens to the others. -/
theorem advance_update {who : ι} {v : World} {stage : Stage} {heard : List Heard}
    (own : Advance c (target who) (dry who) s.world v (stages who) (s.heard who) stage heard)
    (i : ι) : Advance c (target i) (dry i) s.world v (stages i) (s.heard i)
      (Function.update stages who stage i) (Function.update s.heard who heard i) := by
  by_cases h : i = who
  · subst h
    rwa [Function.update_self, Function.update_self]
  · rw [Function.update_of_ne h, Function.update_of_ne h]
    exact .rests

theorem next_reply (a : Slot ι) :
    ∃ stages', Step c target dry (.reply a) stages s stages' (s.next dry (.reply a)) := by
  have adrift : ∀ call ∈ (s.next dry (.reply a)).adrift, call.Marks c := by
    intro call left
    simp only [Scene.next] at left
    split at left
    · exact staged.marks_leftBy dry a.who call left
    · exact staged.adrift call left
  cases asks : (stages a.who).ask c (target a.who) with
  | none =>
    -- a decision that has ended hears nothing
    have still : (s.runners a.who).turn (noting (World.respond (dry a.who) a.failure)) 0
        (s.world, s.heard a.who) = (s.runners a.who, [], s.world, s.heard a.who) := by
      obtain ⟨v, ended⟩ := Stage.eq_ended_of_ask asks
      rw [staged.stands, ended]
      rfl
    refine ⟨stages, staged.step_of (fun i => ?_) adrift (fun i => ?_) fun t _ => ?_⟩
    · simp only [Scene.next, still, Function.update_eq_self]
      exact staged.stands i
    · simp only [Scene.next, still, Function.update_eq_self]
      exact .rests
    · simp only [Scene.next, still]
      exact .of_eq rfl
  | some request =>
    obtain ⟨call, next⟩ := request
    obtain ⟨stands, leaves⟩ := Stage.turn_of_ask
      (noting (World.respond (dry a.who) a.failure)) asks 0 (s.world, s.heard a.who)
    rw [← staged.stands a.who] at stands leaves
    simp only [noting, World.respond_reply] at stands leaves
    refine ⟨Function.update stages a.who (next (s.world.attempt a.failure call).1),
      staged.step_of (staged.stands_update stands) adrift ?_ fun t _ => ?_⟩
    · simp only [Scene.next, leaves]
      exact advance_update (.hears a.failure asks rfl)
    · simp only [Scene.next, leaves]
      exact .respond _ (Stage.marks asks) _ _

theorem next_cutOff (who : ι) :
    ∃ stages', Step c target dry (.cutOff who) stages s stages' (s.next dry (.cutOff who)) := by
  have adrift := staged.marks_leftBy dry who
  cases asks : (stages who).ask c (target who) with
  | none =>
    have still : (s.runners who).cutOff = s.runners who := by
      obtain ⟨v, ended⟩ := Stage.eq_ended_of_ask asks
      rw [staged.stands, ended]
      rfl
    refine ⟨stages, staged.step_of (fun i => ?_) adrift (fun _ => .rests) fun t _ => .of_eq rfl⟩
    simp only [Scene.next, still, Function.update_eq_self]
    exact staged.stands i
  | some request =>
    have dropped : (s.runners who).cutOff = .awake (.ended (.deny .timedOut)) := by
      obtain ⟨after, waits, -⟩ := Stage.settle_rest c (target who) asks
      rw [staged.stands, waits]
      rfl
    refine ⟨Function.update stages who (.ended (.deny .timedOut)),
      staged.step_of (staged.stands_update dropped) adrift (fun i => ?_) fun t _ => .of_eq rfl⟩
    have own : Advance c (target who) (dry who) s.world s.world (stages who) (s.heard who)
        (.ended (.deny .timedOut)) (s.heard who) := .cutOff asks
    have advance := advance_update own i
    rwa [Function.update_eq_self] at advance

/-- What can come of something that happens. -/
theorem next (dry : ι → Bool) (e : Event ι) :
    ∃ stages', Step c target dry e stages s stages' (s.next dry e) := by
  cases e with
  | reply a => exact staged.next_reply a
  | cutOff who => exact staged.next_cutOff who
  | straggler n =>
    cases found : s.adrift[n]? with
    | none =>
      have nothing : s.next dry (.straggler n) = s := by simp only [Scene.next, found]
      rw [nothing]
      exact ⟨stages, staged.step_of staged.stands staged.adrift (fun _ => .rests)
        fun t _ => .of_eq rfl⟩
    | some call =>
      have marks := staged.adrift call (List.mem_of_getElem? found)
      have acts : s.next dry (.straggler n) =
          { s with adrift := s.adrift.eraseIdx n, world := s.world.after call } := by
        simp only [Scene.next, found]
      rw [acts]
      exact ⟨stages, staged.step_of staged.stands
        (fun other left => staged.adrift other (List.mem_of_mem_eraseIdx left))
        (fun _ => .rests) fun t _ => .after s.world marks⟩
  | change f =>
    exact ⟨stages, staged.step_of staged.stands staged.adrift (fun _ => .rests)
      fun t spares => .of_eq (spares s.world)⟩

/-- What everything that happens preserves holds in the end. -/
theorem play (dry : ι → Bool) (events : List (Event ι)) {P : (ι → Stage) → Scene ι → Prop}
    (step : ∀ {e stages s stages' s'}, e ∈ events → Staged c target stages s →
      Step c target dry e stages s stages' s' → P stages s → P stages' s')
    (holds : P stages s) :
    ∃ stages', Staged c target stages' (s.play dry events) ∧ P stages' (s.play dry events) := by
  induction events generalizing stages s with
  | nil => exact ⟨stages, staged, holds⟩
  | cons e events ih =>
    obtain ⟨stages', stepped⟩ := staged.next dry e
    exact ih stepped.staged (fun mem => step (List.mem_cons_of_mem e mem))
      (step List.mem_cons_self staged stepped holds)

end Staged

end

/-! ## A decision that says that its pod is to move -/

/-- `Attests c t w heard`: a pod `t` that has been read is still in `w`, as `World.Keeps` tells,
and if `setMarker` has succeeded, the pod in `w` has the marker. -/
structure Attests (c : Settings) (t : Target) (w : World) (heard : List Heard) : Prop where
  read : ∀ pod, ⟨.getPod t, .ok pod⟩ ∈ heard → ∃ pod', w.pods.get? t = some pod' ∧
    pod.Akin pod' ∧ (c.markerIsOn pod = true → c.markerIsOn pod' = true)
  marked : ⟨.setMarker c t, .ok ()⟩ ∈ heard →
    ∃ pod, w.pods.get? t = some pod ∧ c.markerIsOn pod = true

section

variable {w v : World} {heard heard' : List Heard} {stage stage' : Stage}

namespace Attests

theorem nil : Attests c t w [] :=
  ⟨fun _ mem => absurd mem List.not_mem_nil, fun mem => absurd mem List.not_mem_nil⟩

theorem keeps (attests : Attests c t w heard) (keeps : w.Keeps c t v) : Attests c t v heard := by
  constructor
  · intro pod mem
    obtain ⟨pod', found, akin, marked⟩ := attests.read pod mem
    obtain ⟨last, found_last, akin_last, marked_last⟩ := keeps pod' found
    exact ⟨last, found_last, akin.trans akin_last, fun on => marked_last (marked on)⟩
  · intro mem
    obtain ⟨pod, found, marked⟩ := attests.marked mem
    obtain ⟨pod', found', -, marked'⟩ := keeps pod found
    exact ⟨pod', found', marked' marked⟩

theorem advance (attests : Attests c t w heard) (keeps : w.Keeps c t v)
    (advance : Advance c t false w v stage heard stage' heard') : Attests c t v heard' := by
  cases advance with
  | rests | cutOff => exact attests.keeps keeps
  | hears failure asks leaves =>
    have before := attests.keeps keeps
    constructor
    · intro pod mem
      rcases List.mem_append.mp mem with mem | new
      · exact before.read pod mem
      · exact keeps pod (World.found_of_heard failure (List.mem_singleton.mp new))
    · intro mem
      rcases List.mem_append.mp mem with mem | new
      · exact before.marked mem
      · rw [leaves]
        exact World.marked_of_heard (List.mem_singleton.mp new)

/-- A decision that says that its pod is to move is right. -/
theorem pending (attests : Attests c t w heard) {d : Denial}
    (grounds : Grounds c t (.ended (.deny d)) heard) (code : d.code = 429) : w.Pending c t := by
  cases grounds.moving_of_code code with
  | @waiting pod selected marked =>
    obtain ⟨pod', found, akin, marked'⟩ := attests.read pod List.mem_cons_self
    exact ⟨pod', found, (akin.selects c).trans selected, marked' marked⟩
  | @requested pod heard selected =>
    obtain ⟨pod', found, akin, -⟩ := attests.read pod List.mem_cons_self
    obtain ⟨same, found_same, marked⟩ := attests.marked (by simp)
    cases found.symm.trans found_same
    exact ⟨pod', found, (akin.selects c).trans selected, marked⟩

end Attests

/-! ## A decision about a pod that is to move -/

variable (c t) in
/-- `FindsMarked t stage heard`: what a decision about a pod that is `World.Pending` can have
heard. Once it has read the pod, it has ended with `waitingForReschedule`. -/
inductive FindsMarked : Stage → List Heard → Prop
  | unheard {stage : Stage} : stage = .fetch ∨ stage = .ended (.deny .timedOut) →
      FindsMarked stage []
  | refused {e : GateError} {v : Verdict} : FindsMarked (.ended v) [⟨.getPod t, .error e⟩]
  | answered {pod : Pod} :
      FindsMarked (.ended (.deny .waitingForReschedule)) [⟨.getPod t, .ok pod⟩]

theorem FindsMarked.advance {dry : Bool} (waits : FindsMarked t stage heard)
    (pending : w.Pending c t)
    (advance : Advance c t dry w v stage heard stage' heard') : FindsMarked t stage' heard' := by
  cases advance with
  | rests => exact waits
  | cutOff asks =>
    cases waits with
    | unheard => exact .unheard (.inr rfl)
    | refused | answered => cases asks
  | hears failure asks =>
    cases waits with
    | refused | answered => cases asks
    | unheard stands =>
      rcases stands with rfl | rfl
      · cases asks
        cases reply : (w.attempt failure (.getPod t)).1 with
        | ok pod =>
          obtain ⟨same, found, selected, marked⟩ := pending
          have read := World.found_of_heard failure (congrArg (Sigma.mk _) reply.symm)
          cases found.symm.trans read
          change FindsMarked t (Stage.ofPod c pod) [⟨.getPod t, .ok pod⟩]
          rw [Stage.ofPod_marked selected marked]
          exact .answered
        | error e =>
          simp only [Stage.refused]
          split
          · exact .refused
          · exact .refused
      · cases asks

theorem FindsMarked.answers {pod : Pod} (waits : FindsMarked t stage heard)
    (reads : ⟨.getPod t, .ok pod⟩ ∈ heard) :
    stage = .ended (.deny .waitingForReschedule) ∧ heard = [⟨.getPod t, .ok pod⟩] := by
  cases waits with
  | unheard => cases reads
  | refused => cases List.mem_singleton.mp reads
  | answered =>
    cases List.mem_singleton.mp reads
    exact ⟨rfl, rfl⟩

end

end Concurrent

open Concurrent

/-- A pod that is to move is waited for. Suppose that a real decision about a pod has answered
that the pod is to move, and that since it started nobody else has touched the pod. As long as
this remains so, every decision about the pod that starts later and gets to read the pod, in a
dry run or for real, answers that the pod waits to be moved, and makes no other call; whatever
other decisions, about this pod and others, do in the meantime, and however their calls fail,
are cut off or act late. -/
theorem pending_is_stable {ι : Type} [DecidableEq ι] (c : Settings) (target : ι → Target)
    (dry : ι → Bool) (w : World) (early during later : List (Event ι)) {a b : ι} (d : Denial)
    (pod : Pod) (real : dry a = false) (same : target b = target a)
    (spared : ∀ e ∈ during ++ later, e.Spares (target a)) :
    let started := (Scene.start c target w).play dry early
    let answered := started.play dry during
    let last := answered.play dry later
    started.heard a = [] → (answered.runners a).verdict? = some (.deny d) → d.code = 429 →
      answered.heard b = [] → ⟨.getPod (target a), .ok pod⟩ ∈ last.heard b →
      (last.runners b).verdict? = some (.deny .waitingForReschedule) ∧
        last.heard b = [⟨.getPod (target a), .ok pod⟩] := by
  intro started answered last starts answers code starts_later reads
  -- up to the start of the first decision, nothing is known of the pod
  obtain ⟨stages, staged, -⟩ := (Staged.start c target w).play dry early
    (P := fun _ _ => True) (fun _ _ _ _ => trivial) trivial
  -- until that decision has answered, what it has heard of the pod stays true
  obtain ⟨stages', staged', attests⟩ := staged.play dry during
    (P := fun _ s => Attests c (target a) s.world (s.heard a))
    (fun mem _ stepped attests => attests.advance
      (stepped.keeps _ (spared _ (List.mem_append_left _ mem))) (real ▸ stepped.advances a))
    (starts ▸ .nil)
  have ended : stages' a = .ended (.deny d) := by
    rw [staged'.stands, Stage.verdict?_standing] at answers
    exact Stage.verdict?_eq_some.mp answers
  have marked := attests.pending (ended ▸ staged'.grounds a) code
  -- from then on the pod stays marked, and the later decision finds it so
  obtain ⟨stages'', staged'', -, waits⟩ := staged'.play dry later
    (P := fun stages s =>
      s.world.Pending c (target a) ∧ FindsMarked (target a) (stages b) (s.heard b))
    (fun mem _ stepped holds =>
      ⟨holds.1.keeps (stepped.keeps _ (spared _ (List.mem_append_right _ mem))),
        holds.2.advance holds.1 (same ▸ stepped.advances b)⟩)
    ⟨marked, starts_later ▸ .unheard (staged'.unheard b starts_later)⟩
  obtain ⟨waiting, heard⟩ := waits.answers reads
  rw [staged''.stands, Stage.verdict?_standing, waiting]
  exact ⟨rfl, heard⟩

namespace Sample

/-- Of three reviews the last one is a dry run. -/
def dryRuns (i : Fin 3) : Bool := i = 2

/-- The second review reads the pod. -/
def started : Scene (Fin 3) := (Scene.start .default (fun _ => db) world).play dryRuns
  [.reply ⟨1, none⟩]

def during : List (Event (Fin 3)) :=
  [.reply ⟨0, none⟩, .change (·.deletePod ⟨"db-1", "prod"⟩), .reply ⟨0, none⟩, .reply ⟨0, none⟩,
    .reply ⟨0, none⟩]

/-- The first review has marked the pod, while somebody has deleted another one. -/
def answered : Scene (Fin 3) := started.play dryRuns during

def later : List (Event (Fin 3)) :=
  [.reply ⟨1, none⟩, .cutOff 1, .reply ⟨2, none⟩, .straggler 0]

/-- The second review has found the flag of the first one, and has been cut off while it took
it back, which has come about after all. The third one has read the pod. -/
def last : Scene (Fin 3) := answered.play dryRuns later

theorem spares_db : ∀ e ∈ during ++ later, e.Spares db := by
  intro e mem
  cases e with
  | change f =>
    simp only [during, later, List.mem_append, List.mem_cons, List.not_mem_nil, or_false,
      reduceCtorEq, false_or, Event.change.injEq] at mem
    subst mem
    intro w
    exact Table.get?_erase_of_ne w.pods (by decide)
  | reply | cutOff | straggler => trivial

theorem verdict?_answered : (answered.runners 0).verdict? = some (.deny .rescheduleRequested) := by
  decide

end Sample

/-- A dry run waits for a pod that another review has marked, although a third one takes the
pod's flag back at the same time. -/
theorem pending_is_stable_db :
    (Sample.answered.runners 0).verdict? = some (.deny .rescheduleRequested) ∧
      Sample.last.world.podFlagOn .default Sample.db = false ∧
      (Sample.last.runners 2).verdict? = some (.deny .waitingForReschedule) := by
  have reads : ⟨.getPod Sample.db, .ok (Settings.default.marked Sample.fresh)⟩ ∈
      Sample.last.heard 2 := List.Mem.head _
  obtain ⟨waits, -⟩ := pending_is_stable .default (fun _ => Sample.db) Sample.dryRuns
    Sample.world [.reply ⟨1, none⟩] Sample.during Sample.later (a := 0) (b := 2)
    .rescheduleRequested _ (by decide) rfl Sample.spares_db rfl Sample.verdict?_answered rfl rfl
    reads
  exact ⟨Sample.verdict?_answered, by decide, waits⟩

end EvictionGate
