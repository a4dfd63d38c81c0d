import EvictionGate.Proofs.Serving.Service

/-!
# Shutting down

Whatever happens to a service, and in whatever order: once its listener has left off accepting it
takes no more connections. Every task then comes to know that it is to stop, in the first turn that
it has while it is served, be that long after; none knows of it before. A connection with a request
under way goes on with it, answers it and ends; any other ends at once. A task is cut only if it is
still running when its time is up, and when the listener has stopped no task is running.

Results:
1. `Sound.closed`: what is accepted after a signal.
2. `Sound.isTold_run`: that a task does not forget what it has been told.
3. `Sound.answered_run`: that a connection that is to stop answers one request at most.
4. `Sound.of_cut`: which tasks are cut.
5. `shutdown_is_orderly`: all this of every run.
-/

namespace EvictionGate.Serving

open Service

/-- The task does not run, or it serves a connection that is `stopping`. -/
def Task.isTold : Task → Bool
  | handshaking => false
  | serving c => c.stopping
  | ended => true
  | cut => true

/-- The task does not run, or it serves a connection that is `stopping` and has answered so many
requests. -/
def Task.ClosesAfter (answered : Nat) : Task → Prop
  | handshaking => False
  | serving c => c.stopping = true ∧ c.answered = answered
  | ended => True
  | cut => True

theorem Task.isTold_ofConnection_stop (c : Connection) : (ofConnection c.stop).isTold = true := by
  unfold ofConnection
  split
  · rfl
  · next lasts => exact c.over_or_stopping_stop.resolve_left lasts

/-- The task of a connection that is told to stop. -/
theorem Task.ofConnection_stop (c : Connection) (lasts : c.isOver = false) :
    ofConnection c.stop = if c.isBusy then .serving c.told else .ended := by
  cases busy : c.isBusy with
  | true =>
    have lasts' : c.told.isOver = false := lasts
    rw [Connection.stop_of_isBusy busy, ofConnection, lasts']
    rfl
  | false =>
    rw [ofConnection, Connection.isOver_stop_of_idle busy]
    rfl

/-- The task `id` is there and `Task.isTold`. -/
def Service.Told (s : Service) (id : Nat) : Prop :=
  ∃ t, s.tasks[id]? = some t ∧ t.isTold = true

section

variable {s : Service} {id : Nat}

/-- A listener that has left off accepting does not take it up again. -/
theorem Sound.closed (sound : Sound s) (h : Happening) (left : s.listener.status ≠ .accepting) :
    (s.happen h).listener.status ≠ .accepting ∧ (s.happen h).tasks.length = s.tasks.length := by
  have moves := moves sound h
  generalize s.happen h = s' at moves
  cases moves with
  | nothing => exact ⟨left, rfl⟩
  | comes _ accepting => exact absurd accepting left
  | forgets => exact ⟨left, rfl⟩
  | signalled _ accepting => exact absurd accepting left
  | changes => exact ⟨left, List.length_set⟩
  | stops => exact ⟨nofun, rfl⟩
  | cuts => exact ⟨nofun, length_cutAll _ _⟩

theorem Sound.closed_run (sound : Sound s) (hs : List Happening)
    (left : s.listener.status ≠ .accepting) : (s.run hs).tasks.length = s.tasks.length := by
  induction hs generalizing s with
  | nil => rfl
  | cons h hs ih =>
    obtain ⟨still, same⟩ := sound.closed h left
    exact (ih (sound.happen h) still).trans same

/-- A connection knows that it is to stop only if there has been a change. -/
theorem Sound.version_ne_zero {c : Connection} (sound : Sound s)
    (found : s.tasks[id]? = some (.serving c)) (stopping : c.stopping = true) :
    s.listener.stop.version ≠ 0 := by
  obtain ⟨m, -, -, fits⟩ := sound.mem_running found rfl
  cases fits with
  | serving _ _ _ told => exact (told stopping).2

/-- A connection that is over is no longer served. -/
theorem Sound.isOver_serving {c : Connection} (sound : Sound s)
    (found : s.tasks[id]? = some (.serving c)) : c.isOver = false := by
  obtain ⟨m, -, -, fits⟩ := sound.mem_running found rfl
  cases fits with
  | serving _ lasts _ _ => exact lasts

theorem Goes.isTold {h : Happening} {t t' : Task} (goes : Goes s h id t t')
    (told : t.isTold = true) : t'.isTold = true := by
  cases goes with
  | stays => exact told
  | cut => rfl
  | changes changes =>
    cases changes with
    | secured => cases told
    | left => rfl
    | served _ goesOn => exact goesOn.stopping.trans told
    | told => exact Task.isTold_ofConnection_stop _

theorem Goes.closesAfter {h : Happening} {t t' : Task} {n : Nat} (goes : Goes s h id t t')
    (closes : t.ClosesAfter n) : t'.ClosesAfter n := by
  cases goes with
  | stays => exact closes
  | cut => trivial
  | changes changes =>
    cases changes with
    | secured => cases closes
    | left => trivial
    | served lasts goesOn =>
      obtain ⟨stopping, answered⟩ := closes
      exact ⟨goesOn.stopping.trans stopping, (goesOn.answered stopping lasts).trans answered⟩
    | told _ _ untold => cases untold.symm.trans closes.1

/-- What every happening leaves to a task, a run leaves to it. -/
theorem Sound.along {P : Task → Prop} (sound : Sound s)
    (kept : ∀ {s h t t'}, Goes s h id t t' → P t → P t') (hs : List Happening)
    (holds : ∃ t, s.tasks[id]? = some t ∧ P t) : ∃ t, (s.run hs).tasks[id]? = some t ∧ P t := by
  induction hs generalizing s with
  | nil => exact holds
  | cons h hs ih =>
    obtain ⟨t, found, holds⟩ := holds
    obtain ⟨t', found', goes⟩ := sound.goes h found
    exact ih (sound.happen h) ⟨t', found', kept goes holds⟩

theorem Sound.isTold_run (sound : Sound s) (hs : List Happening) (told : s.Told id) :
    (s.run hs).Told id :=
  sound.along Goes.isTold hs told

/-- A connection that is to stop is over once it has answered. -/
theorem Sound.answered_run (sound : Sound s) (hs : List Happening) {c c' : Connection}
    (found : s.tasks[id]? = some (.serving c)) (stopping : c.stopping = true)
    (lasts : (s.run hs).tasks[id]? = some (.serving c')) :
    c'.stopping = true ∧ c'.answered = c.answered := by
  obtain ⟨t, found', closes⟩ := sound.along (P := Task.ClosesAfter c.answered) Goes.closesAfter hs
    ⟨_, found, stopping, rfl⟩
  cases lasts.symm.trans found'
  exact closes

/-- A task that is served is told in its turn. -/
theorem Sound.told (sound : Sound s) (left : s.listener.status ≠ .accepting) {c : Connection}
    (found : s.tasks[id]? = some (.serving c)) (untold : c.stopping = false) :
    (s.happen (.polled id)).tasks[id]? = some (.ofConnection c.stop) := by
  have there : id < s.tasks.length := (List.getElem?_eq_some_iff.mp found).1
  have changed : s.listener.stop.version ≠ 0 := fun none => left (sound.version.mp none)
  rw [Service.happen, sound.tell_untold found untold changed]
  simp [there]

/-- So is one whose handshake has just succeeded. -/
theorem Sound.told_secured (sound : Sound s) (left : s.listener.status ≠ .accepting)
    (peer : String) (found : s.tasks[id]? = some .handshaking) :
    ((s.happen (.secured id peer)).happen (.polled id)).tasks[id]? =
      some (.ofConnection (Connection.ofPeer peer).stop) := by
  have there : id < s.tasks.length := (List.getElem?_eq_some_iff.mp found).1
  have served : (s.happen (.secured id peer)).tasks[id]? = some (.serving (.ofPeer peer)) := by
    rw [Service.happen, found]
    exact List.getElem?_set_self there
  exact (sound.happen _).told (sound.closed _ left).1 served rfl

/-- After a turn in which it is not in its handshake a task has been told. -/
theorem Sound.told_polled (sound : Sound s) (left : s.listener.status ≠ .accepting) {t : Task}
    (found : s.tasks[id]? = some t) (secured : t ≠ .handshaking) :
    (s.happen (.polled id)).Told id := by
  cases told : t.isTold with
  | true => exact sound.isTold_run [.polled id] ⟨t, found, told⟩
  | false =>
    cases t with
    | handshaking => exact absurd rfl secured
    | ended | cut => cases told
    | serving c => exact ⟨_, sound.told left found told, Task.isTold_ofConnection_stop c⟩

theorem getElem?_onServed {c : Connection} (found : s.tasks[id]? = some (.serving c))
    (act : Connection → Connection) :
    (s.onServed id act).tasks[id]? = some (.ofConnection (act c)) := by
  have there : id < s.tasks.length := (List.getElem?_eq_some_iff.mp found).1
  unfold onServed
  rw [found]
  dsimp only
  unfold settle Task.ofConnection
  cases (act c).isOver with
  | true => exact List.getElem?_set_self there
  | false => exact List.getElem?_set_self there

/-- A connection that is to stop does with bytes what it would have done, or answers and ends. -/
theorem getElem?_received {c : Connection} (found : s.tasks[id]? = some (.serving c.told))
    (bytes : List UInt8) :
    (s.happen (.received id bytes)).tasks[id]? =
        some (.ofConnection (c.receive bytes).connection.told) ∨
      (s.happen (.received id bytes)).tasks[id]? = some .ended ∧ (c.told.receive bytes).Closes := by
  have after := getElem?_onServed found fun c => (c.receive bytes).connection
  rcases c.heeds_receive bytes with ⟨same, -⟩ | closes
  · refine .inl (after.trans ?_)
    rw [same]
    rfl
  · refine .inr ⟨after.trans ?_, closes⟩
    rw [Task.ofConnection, closes.1]
    rfl

/-- It ends with the answer to its review. -/
theorem getElem?_decided {c : Connection} (found : s.tasks[id]? = some (.serving c))
    (stopping : c.stopping = true) {asked : Asked} {review : EvictionReview}
    (waits : c.phase = .decision asked review) (v : Option Verdict) :
    (s.happen (.decided id v true)).tasks[id]? = some .ended ∧ (c.conclude v).sent =
      Http1.Answer.bytes ⟨asked.version, asked.method, false, (Webhook.conclude review v).2⟩ := by
  obtain ⟨ends, sent⟩ := Connection.conclude_of_stopping stopping waits v
  refine ⟨(getElem?_onServed found _).trans ?_, sent⟩
  rw [if_pos rfl, Task.ofConnection, ends]
  rfl

theorem Goes.of_cut {h : Happening} {t : Task} (goes : Goes s h id t .cut) :
    t = .cut ∨ h = .graceOver ∧ s.listener.status = .draining ∧ t.isRunning = true := by
  cases goes with
  | stays => exact .inl rfl
  | cut late draining runs => exact .inr ⟨late, draining, runs⟩
  | changes changes =>
    generalize became : Task.cut = t' at changes
    cases changes with
    | secured | left | served => cases became
    | told =>
      unfold Task.ofConnection at became
      split at became <;> cases became

/-- A task is cut only if it is still running when the time is up. -/
theorem Sound.of_cut (sound : Sound s) (h : Happening)
    (cut : (s.happen h).tasks[id]? = some .cut) : s.tasks[id]? = some .cut ∨
      h = .graceOver ∧ s.listener.status = .draining ∧
        ∃ t, s.tasks[id]? = some t ∧ t.isRunning = true := by
  cases found : s.tasks[id]? with
  | none =>
    obtain ⟨-, -, started⟩ := sound.started h cut found
    cases started
  | some t =>
    obtain ⟨t', found', goes⟩ := sound.goes h found
    cases cut.symm.trans found'
    rcases goes.of_cut with rfl | ⟨late, draining, runs⟩
    · exact .inl rfl
    · exact .inr ⟨late, draining, t, rfl, runs⟩

/-- Nothing runs once the listener has stopped. -/
theorem Sound.isRunning_of_stopped (sound : Sound s) (stopped : s.listener.status = .stopped) :
    ∀ t ∈ s.tasks, t.isRunning = false := by
  intro t mem
  obtain ⟨id, found⟩ := List.mem_iff_getElem?.mp mem
  cases runs : t.isRunning with
  | false => rfl
  | true =>
    obtain ⟨m, known, -⟩ := sound.kept id t found runs
    rw [sound.empty stopped] at known
    cases known

/-- When the time is up the listener stops. -/
theorem stopped_graceOver (draining : s.listener.status = .draining) :
    (s.happen .graceOver).listener.status = .stopped := by
  have own : s.happen .graceOver = s.follow (s.listener.drain .graceOver) := by
    rw [Service.happen, Service.tell]
    exact congrArg s.follow (by simp only [Listener.react, Listener.act, draining])
  rw [own, Listener.drain]
  split
  · rfl
  · rw [map_cut, follow_finish]

/-- It stops before if nothing runs any more, and then cuts nothing. -/
theorem Sound.stopped_joined (sound : Sound s) (draining : s.listener.status = .draining)
    (none : ∀ t ∈ s.tasks, t.isRunning = false) :
    (s.happen .joined).listener.status = .stopped ∧ (s.happen .joined).tasks = s.tasks := by
  have empty : s.listener.running = [] := by
    refine List.eq_nil_iff_forall_not_mem.mpr fun m mem => ?_
    obtain ⟨known, stage⟩ := (Listener.mem_running _).mp mem
    obtain ⟨t, found, fits⟩ := sound.fits m known
    cases (none t (List.mem_of_getElem? found)).symm.trans (fits.isRunning_iff.mpr stage)
  have own : s.happen .joined = s.follow (s.listener.drain .joined) := by
    rw [Service.happen, Service.tell]
    exact congrArg s.follow (by simp only [Listener.react, Listener.act, draining])
  rw [own, Listener.drain, empty]
  exact ⟨rfl, rfl⟩

end

/-- How the service `s` shuts down from here on, whatever happens. -/
structure Orderly (s : Service) : Prop where
  /-- No task is started once the listener has left off accepting. -/
  closed : s.listener.status ≠ .accepting → ∀ hs, (s.run hs).tasks.length = s.tasks.length
  /-- No connection is `stopping` before. -/
  early : s.listener.status = .accepting → ∀ (id : Nat) (c : Connection),
    s.tasks[id]? = some (.serving c) → c.stopping = false
  /-- A connection that is not `stopping` gets `Connection.stop` in the next look of its task. -/
  told : s.listener.status ≠ .accepting → ∀ (id : Nat) (c : Connection),
    s.tasks[id]? = some (.serving c) → c.stopping = false →
    (s.happen (.polled id)).tasks[id]? = some (.ofConnection c.stop)
  /-- So does one whose handshake succeeds only then, in the look after that. -/
  toldLate : s.listener.status ≠ .accepting → ∀ (id : Nat) (peer : String),
    s.tasks[id]? = some .handshaking →
    ((s.happen (.secured id peer)).happen (.polled id)).tasks[id]? =
      some (.ofConnection (Connection.ofPeer peer).stop)
  /-- By that a connection that `isBusy` goes on, and the task of any other one ends. -/
  underWay : s.listener.status ≠ .accepting → ∀ (id : Nat) (c : Connection),
    s.tasks[id]? = some (.serving c) → c.stopping = false →
    (s.happen (.polled id)).tasks[id]? = some (if c.isBusy then .serving c.told else .ended)
  /-- One that goes on does with the bytes that come what it would have done without being told,
  or the turn `Closes` it. -/
  goesOn : ∀ (id : Nat) (c : Connection) (bytes : List UInt8),
    s.tasks[id]? = some (.serving c.told) →
    (s.happen (.received id bytes)).tasks[id]? =
        some (.ofConnection (c.receive bytes).connection.told) ∨
      (s.happen (.received id bytes)).tasks[id]? = some .ended ∧ (c.told.receive bytes).Closes
  /-- The verdict on its review is answered, the answer does not persist, and the task ends. -/
  answers : ∀ (id : Nat) (c : Connection) (asked : Asked) (review : EvictionReview)
    (v : Option Verdict), s.tasks[id]? = some (.serving c) → c.stopping = true →
    c.phase = .decision asked review →
    (s.happen (.decided id v true)).tasks[id]? = some .ended ∧ (c.conclude v).sent =
      Http1.Answer.bytes ⟨asked.version, asked.method, false, (Webhook.conclude review v).2⟩
  /-- As long as it is served, whatever happens, it has answered nothing since. -/
  once : ∀ (id : Nat) (c c' : Connection) (hs : List Happening),
    s.tasks[id]? = some (.serving c) → c.stopping = true →
    (s.run hs).tasks[id]? = some (.serving c') → c'.stopping = true ∧ c'.answered = c.answered
  /-- A task that is not in its handshake is `Told` by its look, and stays so whatever happens. -/
  kept : s.listener.status ≠ .accepting → ∀ (id : Nat) (t : Task), s.tasks[id]? = some t →
    t ≠ .handshaking → ∀ hs, ((s.happen (.polled id)).run hs).Told id
  /-- A task is cut only by `graceOver`, and only if it is still running then. -/
  cut : ∀ (h : Happening) (id : Nat), (s.happen h).tasks[id]? = some .cut →
    s.tasks[id]? = some .cut ∨ h = .graceOver ∧ s.listener.status = .draining ∧
      ∃ t : Task, s.tasks[id]? = some t ∧ t.isRunning = true
  /-- No task is running once the listener has stopped. -/
  quiet : s.listener.status = .stopped → ∀ t ∈ s.tasks, t.isRunning = false
  /-- The listener stops at `graceOver`. It stops at `joined` if no task is running, and then cuts
  none. -/
  ends : s.listener.status = .draining → (s.happen .graceOver).listener.status = .stopped ∧
    ((∀ t ∈ s.tasks, t.isRunning = false) →
      (s.happen .joined).listener.status = .stopped ∧ (s.happen .joined).tasks = s.tasks)

/-- Whatever has happened to a service, it shuts down in good order. -/
theorem shutdown_is_orderly (hs : List Happening) : Orderly (Service.start.run hs) := by
  have sound := sound_start.run hs
  generalize Service.start.run hs = s at sound
  constructor
  case closed => exact fun left hs => sound.closed_run hs left
  case early =>
    intro accepting id c found
    cases stopping : c.stopping with
    | false => rfl
    | true =>
      exact absurd (sound.version.mpr accepting) (sound.version_ne_zero found stopping)
  case told => exact fun left id c => sound.told left
  case toldLate => exact fun left id peer => sound.told_secured left peer
  case underWay =>
    intro left id c found untold
    exact (sound.told left found untold).trans
      (congrArg some (Task.ofConnection_stop c (sound.isOver_serving found)))
  case goesOn => exact fun id c bytes found => getElem?_received found bytes
  case answers =>
    exact fun id c asked review v found stopping waits => getElem?_decided found stopping waits v
  case once => exact fun id c c' hs found stopping => sound.answered_run hs found stopping
  case kept =>
    exact fun left id t found secured hs =>
      (sound.happen _).isTold_run hs (sound.told_polled left found secured)
  case cut => exact fun h id => sound.of_cut h
  case quiet => exact sound.isRunning_of_stopped
  case ends =>
    exact fun draining => ⟨stopped_graceOver draining, sound.stopped_joined draining⟩

namespace Sample

/-- Two clients come, one of them is served, and then there is a signal. -/
def signalled : List Happening :=
  [.arrived, .arrived, .secured 0 "first", .polled 0, .signalled "SIGTERM"]

end Sample

/-- A handshake that succeeds only after the signal does not make a task miss it. -/
theorem orderly_of_late_handshake :
    ((Service.start.run Sample.signalled).listener.status ≠ .accepting ∧
      (Service.start.run Sample.signalled).tasks[1]? = some .handshaking) ∧
    (((Service.start.run Sample.signalled).happen (.secured 1 "second")).happen
      (.polled 1)).tasks[1]? = some .ended := by
  have left : (Service.start.run Sample.signalled).listener.status ≠ .accepting := by decide
  have found : (Service.start.run Sample.signalled).tasks[1]? = some .handshaking := by decide
  exact ⟨⟨left, found⟩, (shutdown_is_orderly Sample.signalled).toldLate left 1 "second" found⟩

end EvictionGate.Serving
