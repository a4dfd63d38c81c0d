import EvictionGate.Serving.Connection

/-!
# Connections that are told to stop

Nothing that a client does, no decision and no lapse of time makes a connection stop, or makes it
forget that it is to; only `Connection.stop` does. It ends a connection on which no request is under
way. Any other does what it would have done with the request, and is over once it has answered it.

Results:
1. `stop_of_isBusy`, `isOver_stop_of_idle`: what being told to stop does.
2. `heeds_receive`: what a connection that is to stop does with bytes that come.
3. `conclude_of_stopping`: how it takes the decision that it waits for.
4. `goesOn_receive`, `goesOn_conclude`, `goesOn_hangUp`: what every event leaves as it is.
-/

namespace EvictionGate.Serving

open EvictionGate.Http EvictionGate.Http1

namespace Connection

variable (c : Connection)

@[simp] theorem connection_after (sent : List UInt8) (log : Log) (t : Turn) :
    (t.after sent log).connection = t.connection := rfl

@[simp] theorem stopping_finish : c.finish.stopping = c.stopping := rfl

@[simp] theorem stopping_fail : c.fail.connection.stopping = c.stopping := rfl

@[simp] theorem stopping_refuse (fault : HeadFault) :
    (c.refuse fault).connection.stopping = c.stopping := by
  unfold refuse
  split <;> rfl

@[simp] theorem stopping_answer (asked : Asked) (response : Response) :
    (c.answer asked response).connection.stopping = c.stopping := by
  unfold answer
  dsimp only
  split <;> rfl

@[simp] theorem stopping_withBody (asked : Asked) (body : Body) :
    (c.withBody asked body).connection.stopping = c.stopping := by
  unfold withBody
  split
  · simp
  · rfl

@[simp] theorem stopping_breakBody (asked : Asked) :
    (c.breakBody asked).connection.stopping = c.stopping := by
  simp [breakBody]

@[simp] theorem stopping_withHead (r : Request) (f : Framing) (version : Version) :
    (c.withHead r f version).connection.stopping = c.stopping := by
  unfold withHead
  dsimp only
  split
  · simp
  · simp
  · simp
  · split <;> rfl

/-- A step, or the lack of one. -/
theorem stopping_step? : (c.step?.elim Turn.connection id).stopping = c.stopping := by
  unfold step?
  split
  · rfl
  · rfl
  · split
    · rfl
    · simp
    · split
      · simp
      · split
        · simp
        · simp
  · split
    · rfl
    · simp
    · simp

theorem stopping_steps (count : Nat) : (steps count c).connection.stopping = c.stopping := by
  induction count generalizing c with
  | zero => rfl
  | succ count ih =>
    have step := c.stopping_step?
    unfold steps
    cases done : c.step? with
    | inr c' => simpa [done] using step
    | inl t => simpa [done, ih] using step

@[simp] theorem stopping_proceed : c.proceed.connection.stopping = c.stopping :=
  c.stopping_steps _

@[simp] theorem stopping_receive (bytes : List UInt8) :
    (c.receive bytes).connection.stopping = c.stopping := by
  unfold receive
  split
  · rfl
  · simp

@[simp] theorem stopping_conclude (v : Option Verdict) :
    (c.conclude v).connection.stopping = c.stopping := by
  unfold conclude
  split
  · simp
  · rfl

@[simp] theorem stopping_concludeUnheard (v : Option Verdict) :
    (c.concludeUnheard v).connection.stopping = c.stopping := by
  unfold concludeUnheard
  split
  · simp
  · rfl

@[simp] theorem stopping_hangUp (abrupt : Bool) :
    (c.hangUp abrupt).connection.stopping = c.stopping := by
  unfold hangUp
  dsimp only
  split
  · rfl
  · rfl
  · simp
  · split <;> rfl

@[simp] theorem stopping_expire : c.expire.connection.stopping = c.stopping := rfl

/-! ## Being told to stop -/

/-- Whether a request is under way: bytes of the first head have come, or the phase is `body` or
`decision`. -/
def isBusy : Bool :=
  match c.phase with
  | .head _ => c.answered = 0 && !c.intake.bytes.isEmpty
  | .body _ _ _ => true
  | .decision _ _ => true
  | .over => false

/-- The connection with `stopping` set and all else as it is. -/
def told : Connection := { c with stopping := true }

theorem stop_of_isBusy {c : Connection} (busy : c.isBusy = true) : c.stop = c.told := by
  unfold isBusy at busy
  unfold stop
  split
  · next phase =>
    simp only [phase, Bool.and_eq_true, decide_eq_true_eq, Bool.not_eq_true'] at busy
    rw [if_neg (by simp [busy.1, busy.2])]
    rfl
  · rfl

theorem isOver_stop_of_idle {c : Connection} (idle : c.isBusy = false) :
    c.stop.isOver = true := by
  unfold isBusy at idle
  unfold stop
  split
  · next phase =>
    simp only [phase, Bool.and_eq_false_iff, decide_eq_false_iff_not, Bool.not_eq_false'] at idle
    rw [if_pos (by simpa using idle)]
    rfl
  · next other =>
    split at idle
    · next phase => exact absurd phase (other _)
    · cases idle
    · cases idle
    · next phase => simp [isOver, phase]

/-- A connection that is told to stop ends at once, or else knows that it is to. -/
theorem over_or_stopping_stop : c.stop.isOver = true ∨ c.stop.stopping = true := by
  cases busy : c.isBusy with
  | true => exact .inr (by rw [stop_of_isBusy busy]; rfl)
  | false => exact .inl (isOver_stop_of_idle busy)

/-- An answer ends a connection that is to stop. -/
theorem isOver_answer_of_stopping {c : Connection} (stopping : c.stopping = true) (asked : Asked)
    (response : Response) : (c.answer asked response).connection.isOver = true := by
  simp [answer, stopping, isOver, finish]

end Connection

/-! ## What follows -/

namespace Turn

/-- The turn ends the connection, and what it sends ends with an answer that does not persist. -/
def Closes (t : Turn) : Prop :=
  t.connection.isOver = true ∧
    ∃ (before : List UInt8) (a : Answer), a.persists = false ∧ t.sent = before ++ a.bytes

/-- The turn `t` with `Connection.told` of its connection. -/
def told (t : Turn) : Turn := { t with connection := t.connection.told }

/-- `Heeds answered t t'`: `t'` is `t` with a connection that is `stopping` and has answered no
more than `answered` requests, or else `t'` is `Closes`. -/
def Heeds (answered : Nat) (t t' : Turn) : Prop :=
  (t' = t.told ∧ t.connection.answered = answered) ∨ t'.Closes

variable {t t' : Turn} {n : Nat}

theorem Closes.after (closes : t.Closes) (sent : List UInt8) (log : Log) :
    (t.after sent log).Closes := by
  obtain ⟨ends, before, a, unkept, said⟩ := closes
  have whole : sent ++ t.sent = (sent ++ before) ++ a.bytes := by rw [said, List.append_assoc]
  exact ⟨ends, sent ++ before, a, unkept, whole⟩

theorem Heeds.after (heeds : Heeds n t t') (sent : List UInt8) (log : Log) :
    Heeds n (t.after sent log) (t'.after sent log) := by
  rcases heeds with ⟨rfl, same⟩ | closes
  · exact .inl ⟨rfl, same⟩
  · exact .inr (closes.after sent log)

end Turn

namespace Connection

open Turn

variable (c : Connection)

theorem closes_answer {c : Connection} (stopping : c.stopping = true) (asked : Asked)
    (response : Response) : (c.answer asked response).Closes := by
  refine ⟨isOver_answer_of_stopping stopping asked response, [],
    ⟨asked.version, asked.method, false, response⟩, rfl, ?_⟩
  simp [answer, stopping]

theorem heeds_refuse (fault : HeadFault) :
    Heeds c.answered (c.refuse fault) (c.told.refuse fault) := by
  refine .inl ⟨?_, ?_⟩
  · unfold refuse
    rw [apply_ite Turn.told]
    rfl
  · unfold refuse
    split <;> rfl

theorem heeds_withBody (asked : Asked) (body : Body) :
    Heeds c.answered (c.withBody asked body) (c.told.withBody asked body) := by
  unfold withBody
  split
  · next log response _ => exact .inr ((closes_answer rfl asked response).after [] log)
  · exact .inl ⟨rfl, rfl⟩

theorem heeds_breakBody (asked : Asked) :
    Heeds c.answered (c.breakBody asked) (c.told.breakBody asked) :=
  heeds_withBody { c with intake := .empty } _ _

theorem heeds_withHead (r : Request) (f : Framing) (version : Version) :
    Heeds c.answered (c.withHead r f version) (c.told.withHead r f version) := by
  unfold withHead
  dsimp only
  split
  · next log response _ _ => exact .inr ((closes_answer rfl _ response).after [] log)
  · next log response _ _ _ => exact .inr ((closes_answer rfl _ response).after [] log)
  · exact heeds_withBody { c with intake := c.intake.refill true } _ _
  · split
    · exact .inl ⟨rfl, rfl⟩
    · exact .inl ⟨rfl, rfl⟩

/-- A step of a connection that has been told to stop. It waits where it would have waited. -/
theorem heeds_step? :
    (∃ c', c.step? = .inr c' ∧ c.told.step? = .inr c'.told ∧ c'.answered = c.answered) ∨
      ∃ t t', c.step? = .inl t ∧ c.told.step? = .inl t' ∧ Heeds c.answered t t' := by
  unfold step?
  dsimp only [told]
  split
  · exact .inl ⟨_, rfl, rfl, rfl⟩
  · exact .inl ⟨_, rfl, rfl, rfl⟩
  · split
    · exact .inl ⟨_, rfl, rfl, rfl⟩
    · next fault intake _ _ => exact .inr ⟨_, _, rfl, rfl, heeds_refuse { c with intake } fault⟩
    · next h rest intake _ _ =>
      split
      · next fault _ => exact .inr ⟨_, _, rfl, rfl, heeds_refuse { c with intake } fault⟩
      · split
        · next fault _ =>
          exact .inr ⟨_, _, rfl, rfl, heeds_refuse { c with intake := intake.leave rest } fault⟩
        · next r f _ =>
          let read := { c with intake := intake.leave rest, version := h.version }
          exact .inr ⟨_, _, rfl, rfl, heeds_withHead read r f h.version⟩
  · split
    · exact .inl ⟨_, rfl, rfl, rfl⟩
    · exact .inr ⟨_, _, rfl, rfl, heeds_breakBody c _⟩
    · next body intake _ =>
      exact .inr ⟨_, _, rfl, rfl, heeds_withBody { c with intake := intake.refill true } _ _⟩

theorem steps_of_isOver {c : Connection} (ends : c.isOver = true) (count : Nat) :
    steps count c = ⟨c, [], []⟩ := by
  cases count with
  | zero => rfl
  | succ count =>
    have phase : c.phase = .over := by
      unfold isOver at ends
      split at ends
      · assumption
      · cases ends
    rw [steps, step?, phase]

/-- By induction on the steps; a connection that has been closed takes no more of them. -/
theorem heeds_steps (count : Nat) : Heeds c.answered (steps count c) (steps count c.told) := by
  induction count generalizing c with
  | zero => exact .inl ⟨rfl, rfl⟩
  | succ count ih =>
    rw [steps, steps]
    rcases c.heeds_step? with ⟨c', untold, told, same⟩ | ⟨t, t', untold, told, heeds⟩
    · rw [untold, told]
      exact .inl ⟨rfl, same⟩
    · rw [untold, told]
      rcases heeds with ⟨rfl, same⟩ | closes
      · exact same ▸ (ih t.connection).after t.sent t.log
      · refine .inr ?_
        dsimp only
        rw [steps_of_isOver closes.1]
        simpa [Turn.after] using closes

theorem heeds_proceed : Heeds c.answered c.proceed c.told.proceed :=
  c.heeds_steps _

theorem heeds_receive (bytes : List UInt8) :
    Heeds c.answered (c.receive bytes) (c.told.receive bytes) := by
  have ends : c.told.isOver = c.isOver := rfl
  unfold receive
  rw [ends]
  split
  · exact .inl ⟨rfl, rfl⟩
  · exact heeds_proceed { c with intake := c.intake.arrive bytes }

/-- The answer to a review ends a connection that is to stop. -/
theorem conclude_of_stopping {c : Connection} (stopping : c.stopping = true) {asked : Asked}
    {review : EvictionReview} (waits : c.phase = .decision asked review) (v : Option Verdict) :
    (c.conclude v).connection.isOver = true ∧ (c.conclude v).sent =
      Answer.bytes ⟨asked.version, asked.method, false, (Webhook.conclude review v).2⟩ := by
  have ends := isOver_answer_of_stopping stopping asked (Webhook.conclude review v).2
  have sent : (c.answer asked (Webhook.conclude review v).2).sent =
      Answer.bytes ⟨asked.version, asked.method, false, (Webhook.conclude review v).2⟩ := by
    simp [answer, stopping]
  unfold conclude proceed
  rw [waits]
  dsimp only
  rw [steps_of_isOver ends]
  exact ⟨ends, (List.append_nil _).trans sent⟩

/-! ## What any event does -/

/-- `GoesOn c c'`: `stopping` is the same, and if it is set, `c'` has answered no more requests
than `c` or is over. -/
structure GoesOn (c c' : Connection) : Prop where
  stopping : c'.stopping = c.stopping
  answered : c.stopping = true → c'.isOver = false → c'.answered = c.answered

theorem told_of_stopping {c : Connection} (stopping : c.stopping = true) : c.told = c := by
  rw [told, ← stopping]

theorem answered_of_heeds {c : Connection} {t t' : Turn} (heeds : Heeds c.answered t t')
    (lasts : t'.connection.isOver = false) : t'.connection.answered = c.answered := by
  rcases heeds with ⟨rfl, same⟩ | ⟨ends, -⟩
  · exact same
  · cases lasts.symm.trans ends

theorem goesOn_receive (bytes : List UInt8) : GoesOn c (c.receive bytes).connection where
  stopping := c.stopping_receive bytes
  answered stopping lasts := by
    have heeds := c.heeds_receive bytes
    rw [told_of_stopping stopping] at heeds
    exact answered_of_heeds heeds lasts

theorem goesOn_conclude (v : Option Verdict) : GoesOn c (c.conclude v).connection where
  stopping := c.stopping_conclude v
  answered stopping lasts := by
    cases phase : c.phase with
    | decision asked review =>
      cases lasts.symm.trans (conclude_of_stopping stopping phase v).1
    | _ => rw [conclude, phase]

theorem goesOn_concludeUnheard (v : Option Verdict) :
    GoesOn c (c.concludeUnheard v).connection where
  stopping := c.stopping_concludeUnheard v
  answered _ _ := by
    unfold concludeUnheard
    split <;> rfl

theorem goesOn_hangUp (abrupt : Bool) : GoesOn c (c.hangUp abrupt).connection where
  stopping := c.stopping_hangUp abrupt
  answered stopping lasts := by
    cases phase : c.phase with
    | body asked got decoder =>
      have heeds := c.heeds_breakBody asked
      rw [told_of_stopping stopping] at heeds
      have breaks : (c.hangUp abrupt).connection = (c.breakBody asked).connection := by
        rw [hangUp, phase]
      rw [breaks] at lasts ⊢
      exact answered_of_heeds heeds lasts
    | decision =>
      rw [hangUp, phase]
      dsimp only
      split <;> rfl
    | head => rw [hangUp, phase]; rfl
    | _ => rw [hangUp, phase]

theorem goesOn_expire : GoesOn c c.expire.connection :=
  ⟨rfl, fun _ _ => rfl⟩

end Connection

end EvictionGate.Serving
