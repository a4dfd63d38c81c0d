import EvictionGate.Proofs.Serving.Stopping
import EvictionGate.Serving.Listener

/-!
# A service

The listener with its tasks and their connections, to which things happen in any order: clients
come, handshakes succeed or fail, bytes arrive, decisions are made, time lapses, tasks end, a signal
comes, and tasks and the listener have their turns. What the listener does is carried out by the
tasks.

The listener knows of every task how far it has come, and keeps every task that has not ended; a
task has looked at the change that tells it to stop exactly if its connection knows of it.

Results:
1. `Sound.happen`: what the listener knows of its tasks stays right.
2. `Sound.tell_untold`: no change is lost on a task.
3. `Sound.goes`, `Sound.started`: what a happening may do to a task.
-/

namespace EvictionGate.Serving

/-- What the task of a connection is doing.

* `handshaking`, `serving`: it runs.
* `ended`: it has ended of itself.
* `cut`: it has been aborted by the listener. -/
inductive Task
  | handshaking
  | serving (connection : Connection)
  | ended
  | cut
  deriving DecidableEq

namespace Task

/-- Whether the task is `handshaking` or `serving`. -/
def isRunning : Task → Bool
  | handshaking => true
  | serving _ => true
  | ended => false
  | cut => false

/-- The task that serves a connection: it has ended if the connection `isOver`. -/
def ofConnection (c : Connection) : Task := if c.isOver then ended else serving c

end Task

/-- A listener with all tasks that it has started, in that order. -/
structure Service where
  listener : Listener
  tasks : List Task

/-- What happens to a service, in any order. A task does what `received`, `decided` or `hungUp`
says in one of its turns, and in each of them it looks for the change that tells it to stop; that
look is `polled`, before or after the other. The orders in which it comes later are allowed too,
so that what holds here of every run holds of those in which it does not. -/
inductive Happening
  /-- A client connects. -/
  | arrived
  /-- A client could not be accepted. -/
  | missed (reason : String)
  /-- A handshake has succeeded. -/
  | secured (id : Nat) (peer : String)
  /-- A task ends of itself: its handshake has failed or taken too long, or it breaks down. -/
  | left (id : Nat)
  | received (id : Nat) (bytes : List UInt8)
  /-- A decision has been made, and its client may be gone. -/
  | decided (id : Nat) (v : Option Verdict) (isHeard : Bool)
  | hungUp (id : Nat) (abrupt : Bool)
  /-- No head has come in time. -/
  | expired (id : Nat)
  | signalled (name : String)
  /-- The look of a task for the change, `Listener.look`. -/
  | polled (id : Nat)
  /-- The listener has its turn, in which it forgets tasks that have ended. -/
  | joined
  /-- `graceTime` has passed since the signal. As other happenings take no time here, it may come
  at any point after that. -/
  | graceOver

namespace Service

/-- A service without connections. -/
def start : Service := ⟨.start, []⟩

/-- The service after the task has ended. -/
def leave (s : Service) (id : Nat) : Service :=
  ⟨(s.listener.react (.ended id)).listener, s.tasks.set id .ended⟩

/-- The service after the connection of a task has become `c`; the task ends if `c.isOver`. -/
def settle (s : Service) (id : Nat) (c : Connection) : Service :=
  if c.isOver then s.leave id else { s with tasks := s.tasks.set id (.serving c) }

/-- The service after `act` on the connection of a task; the same if the task serves none. -/
def onServed (s : Service) (id : Nat) (act : Connection → Connection) : Service :=
  match s.tasks[id]? with
  | some (.serving c) => s.settle id (act c)
  | _ => s

/-- The service after an order of the listener has been carried out. -/
def obey (s : Service) : Order → Service
  | .serve _ => { s with tasks := s.tasks ++ [.handshaking] }
  | .stop id => s.onServed id Connection.stop
  | .cut id => { s with tasks := s.tasks.set id .cut }

/-- The service after all orders of a reaction have been carried out. -/
def follow (s : Service) (r : Reaction) : Service :=
  r.orders.foldl obey { s with listener := r.listener }

/-- The service after `Listener.react` to an event. -/
def tell (s : Service) (e : Event) : Service := s.follow (s.listener.react e)

/-- The service after a happening. -/
def happen (s : Service) : Happening → Service
  | .arrived => s.tell (.arrived s.tasks.length)
  | .missed reason => s.tell (.missed reason)
  | .secured id peer =>
    match s.tasks[id]? with
    | some .handshaking =>
      { s with tasks := s.tasks.set id (.serving (.ofPeer peer)) }.tell (.secured id)
    | _ => s
  | .left id =>
    match s.tasks[id]? with
    | some t => if t.isRunning then s.leave id else s
    | none => s
  | .received id bytes => s.onServed id fun c => (c.receive bytes).connection
  | .decided id v isHeard =>
    s.onServed id fun c => (if isHeard then c.conclude v else c.concludeUnheard v).connection
  | .hungUp id abrupt => s.onServed id fun c => (c.hangUp abrupt).connection
  | .expired id => s.onServed id fun c => c.expire.connection
  | .signalled name => s.tell (.signalled name)
  | .polled id => s.tell (.polled id)
  | .joined => s.tell .joined
  | .graceOver => s.tell .graceOver

/-- The service after a list of happenings. -/
def run (s : Service) (hs : List Happening) : Service := hs.foldl happen s

end Service

/-! ## What the listener knows -/

namespace Listener

variable (l : Listener) (id : Nat)

@[simp] theorem mem_update {change : Member → Member} {m : Member} :
    m ∈ (l.update id change).members ↔
      ∃ n ∈ l.members, (if n.id = id then change n else n) = m := List.mem_map

/-- Two changes of a task in a row are one. -/
theorem update_update {first second : Member → Member} (same : ∀ m, (first m).id = m.id) :
    (l.update id first).update id second = l.update id (second ∘ first) := by
  simp only [update, List.map_map, Listener.mk.injEq, true_and]
  refine List.map_congr_left fun m _ => ?_
  by_cases is : m.id = id
  · simp [is, same]
  · simp [is]

theorem update_id : l.update id (fun m => m) = l := by
  simp [update]

@[simp] theorem mem_running {m : Member} :
    m ∈ l.running ↔ m ∈ l.members ∧ m.stage ≠ .ended := by
  simp [running]

end Listener

/-- `Fits version m t`: the `Member.stage` of `m` is that of the task `t`. If `t` serves a
connection that is `stopping`, the watcher of `m` has seen `version`, and else it has seen no
change. -/
inductive Fits (version : Nat) (m : Member) : Task → Prop
  | handshaking : m.stage = .handshaking → m.watcher.seen = 0 → Fits version m .handshaking
  | serving {c : Connection} : m.stage = .serving → c.isOver = false →
      (c.stopping = false → m.watcher.seen = 0) →
      (c.stopping = true → m.watcher.seen = version ∧ version ≠ 0) → Fits version m (.serving c)
  | ended : m.stage = .ended → Fits version m .ended

theorem Fits.isRunning_iff {version : Nat} {m : Member} {t : Task} (fits : Fits version m t) :
    t.isRunning = true ↔ m.stage ≠ .ended := by
  cases fits with
  | handshaking stage _ => simp [Task.isRunning, stage]
  | serving stage _ _ _ => simp [Task.isRunning, stage]
  | ended stage => simp [Task.isRunning, stage]

/-- The members of the listener are as their tasks are, by `Fits`, every task that `isRunning` is
one of them, and there has been a change exactly if the listener has left off accepting. -/
structure Sound (s : Service) : Prop where
  version : s.listener.stop.version = 0 ↔ s.listener.status = .accepting
  copied : s.listener.watcher.seen = 0
  fits : ∀ m ∈ s.listener.members,
    ∃ t, s.tasks[m.id]? = some t ∧ Fits s.listener.stop.version m t
  kept : ∀ id t, s.tasks[id]? = some t → t.isRunning = true → ∃ m ∈ s.listener.members, m.id = id
  empty : s.listener.status = .stopped → s.listener.members = []

theorem sound_start : Sound .start where
  version := ⟨fun _ => rfl, fun _ => rfl⟩
  copied := rfl
  fits := List.forall_mem_nil _
  kept _ _ found := by simp [Service.start] at found
  empty _ := rfl

/-! ## What happens to a task -/

/-- The member after its task has looked, and has called `Connection.stop`. -/
def Member.tell (version : Nat) (c : Connection) (m : Member) : Member :=
  let m := { m with watcher := ⟨version⟩ }
  if c.stop.isOver then m.leave else m

/-- `Changes version h id t change t'`: the happening `h` makes `t'` of the task `t`, and changes
its member by `change`.

* `secured`: its handshake succeeds.
* `left`: it ends.
* `served`: its connection becomes another one by `Connection.GoesOn`.
* `told`: its connection gets `Connection.stop`, in a look after the change. -/
inductive Changes (version : Nat) (h : Happening) (id : Nat) :
    Task → (Member → Member) → Task → Prop
  | secured {peer : String} : h = .secured id peer →
      Changes version h id .handshaking Member.secure (.serving (.ofPeer peer))
  | left {t : Task} : t.isRunning = true → Changes version h id t Member.leave .ended
  | served {c c' : Connection} : c'.isOver = false → c.GoesOn c' →
      Changes version h id (.serving c) (fun m => m) (.serving c')
  | told {c : Connection} : h = .polled id → version ≠ 0 → c.stopping = false →
      Changes version h id (.serving c) (Member.tell version c) (.ofConnection c.stop)

namespace Changes

variable {version id : Nat} {h : Happening} {t t' : Task} {change : Member → Member}

theorem isRunning (changes : Changes version h id t change t') : t.isRunning = true := by
  cases changes with
  | left runs => exact runs
  | secured | served | told => rfl

theorem keeps_id (changes : Changes version h id t change t') (m : Member) :
    (change m).id = m.id := by
  cases changes with
  | secured => unfold Member.secure; split <;> rfl
  | left | served => rfl
  | told => unfold Member.tell; dsimp only; split <;> rfl

theorem fits (changes : Changes version h id t change t') {m : Member} (fits : Fits version m t) :
    Fits version (change m) t' := by
  cases changes with
  | secured =>
    cases fits with
    | handshaking stage unseen =>
      have secured : m.secure = { m with stage := .serving } := if_pos stage
      rw [secured]
      exact .serving rfl rfl (fun _ => unseen) nofun
  | left => exact .ended rfl
  | served lasts goesOn =>
    cases fits with
    | serving stage _ untold told =>
      exact .serving stage lasts (goesOn.stopping ▸ untold) (goesOn.stopping ▸ told)
  | @told c _ changed fresh =>
    cases fits with
    | serving stage _ _ _ =>
      unfold Member.tell Task.ofConnection
      rcases c.over_or_stopping_stop with atOnce | stopping
      · simp only [atOnce, if_true]
        exact .ended rfl
      · split
        · exact .ended rfl
        · next lasts =>
          refine .serving stage (by simpa using lasts) (fun not => ?_) fun _ => ⟨rfl, changed⟩
          cases stopping.symm.trans not

end Changes

/-! ## What happens to a service -/

namespace Service

/-- The tasks with those of `ids` cut. -/
def cutAll (tasks : List Task) (ids : List Nat) : List Task :=
  ids.foldl (fun tasks id => tasks.set id .cut) tasks

theorem getElem?_cutAll (tasks : List Task) (ids : List Nat) (id : Nat) :
    (cutAll tasks ids)[id]? = if id ∈ ids then tasks[id]?.map fun _ => .cut else tasks[id]? := by
  induction ids generalizing tasks with
  | nil => rfl
  | cons first ids ih =>
    rw [cutAll, List.foldl_cons, ← cutAll, ih, List.getElem?_set']
    by_cases is : first = id
    · subst is
      cases tasks[first]? <;> simp
    · simp [is, Ne.symm is]

theorem foldl_cut (s : Service) (ids : List Nat) :
    (ids.map Order.cut).foldl obey s = { s with tasks := cutAll s.tasks ids } := by
  induction ids generalizing s with
  | nil => rfl
  | cons first ids ih => rw [List.map_cons, List.foldl_cons, ih]; rfl

theorem length_cutAll (tasks : List Task) (ids : List Nat) :
    (cutAll tasks ids).length = tasks.length := by
  induction ids generalizing tasks with
  | nil => rfl
  | cons first ids ih => rw [cutAll, List.foldl_cons, ← cutAll, ih, List.length_set]

end Service

open Service

/-- `Moves s h s'`: what the happening `h` makes of the service `s`.

* `comes`: a task is started for a client, and those that have ended are forgotten.
* `forgets`: tasks that have ended are forgotten.
* `signalled`: the listener leaves off accepting, and makes the change.
* `changes`: one task is changed, by `Changes`.
* `stops`: the listener stops, as nothing runs.
* `cuts`: it stops and cuts what runs. -/
inductive Moves (s : Service) (h : Happening) : Service → Prop
  | nothing : Moves s h s
  | comes : h = .arrived → s.listener.status = .accepting →
      Moves s h ⟨{ s.listener with members := s.listener.running ++
        [⟨s.tasks.length, .handshaking, s.listener.watcher⟩] }, s.tasks ++ [.handshaking]⟩
  | forgets : s.listener.status ≠ .stopped →
      Moves s h ⟨{ s.listener with members := s.listener.running }, s.tasks⟩
  | signalled {name : String} : h = .signalled name → s.listener.status = .accepting →
      Moves s h
        ⟨{ s.listener with status := .draining, stop := s.listener.stop.change }, s.tasks⟩
  | changes {id : Nat} {t t' : Task} {change : Member → Member} : s.tasks[id]? = some t →
      Changes s.listener.stop.version h id t change t' →
      Moves s h ⟨s.listener.update id change, s.tasks.set id t'⟩
  | stops : s.listener.status = .draining → s.listener.running = [] →
      Moves s h ⟨{ s.listener with status := .stopped, members := [] }, s.tasks⟩
  | cuts : h = .graceOver → s.listener.status = .draining →
      Moves s h ⟨{ s.listener with status := .stopped, members := [] },
        cutAll s.tasks (s.listener.running.map Member.id)⟩

section

variable {s : Service} {h : Happening} {id : Nat}

/-- A task that is served goes on, or comes to its end. -/
theorem moves_onServed {act : Connection → Connection} (goesOn : ∀ c, Connection.GoesOn c (act c)) :
    Moves s h (s.onServed id act) := by
  unfold onServed
  split
  · next c found =>
    unfold settle
    split
    · exact .changes found (.left rfl)
    · next lasts =>
      have moves := Moves.changes (h := h) found (.served (by simpa using lasts) (goesOn c))
      rwa [Listener.update_id] at moves
  · exact .nothing

/-- A task that is served looks, and its connection is told what it sees. -/
theorem tell_of_look {m : Member} {watcher : Watcher} {c : Connection}
    (finds : (s.listener.members.find? fun m => m.id = id && m.stage = .serving) = some m)
    (looks : m.watcher.look? s.listener.stop = some watcher)
    (found : s.tasks[id]? = some (.serving c)) : s.tell (.polled id) =
      ⟨s.listener.update id (Member.tell s.listener.stop.version c),
        s.tasks.set id (.ofConnection c.stop)⟩ := by
  have turn : s.tell (.polled id) = s.follow (s.listener.look id) := rfl
  obtain ⟨-, seen⟩ := Option.ite_none_left_eq_some.mp looks
  cases seen
  rw [turn, Listener.look, finds]
  simp only [looks, follow, List.foldl_cons, List.foldl_nil, obey, onServed, found, settle]
  unfold Member.tell Task.ofConnection
  cases c.stop.isOver with
  | true =>
    simp only [if_true, leave]
    exact congrArg (Service.mk · _) (s.listener.update_update _ fun _ => rfl)
  | false => rfl

/-- A turn of a task: only one that is served and has not seen the change is told of it. -/
theorem tell_polled (sound : Sound s) (id : Nat) : s.tell (.polled id) = s ∨
    ∃ c, s.tasks[id]? = some (.serving c) ∧ c.stopping = false ∧
      s.listener.stop.version ≠ 0 ∧ s.tell (.polled id) =
        ⟨s.listener.update id (Member.tell s.listener.stop.version c),
          s.tasks.set id (.ofConnection c.stop)⟩ := by
  have turn : s.tell (.polled id) = s.follow (s.listener.look id) := rfl
  cases finds : s.listener.members.find? fun m => m.id = id && m.stage = .serving with
  | none =>
    rw [turn, Listener.look, finds]
    exact .inl rfl
  | some m =>
    cases looks : m.watcher.look? s.listener.stop with
    | none =>
      rw [turn, Listener.look, finds]
      simp only [looks]
      exact .inl rfl
    | some watcher =>
      have is := List.find?_some finds
      rw [Bool.and_eq_true, decide_eq_true_eq, decide_eq_true_eq] at is
      obtain ⟨rfl, stage⟩ := is
      obtain ⟨fresh, -⟩ := Option.ite_none_left_eq_some.mp looks
      obtain ⟨t, task, fits⟩ := sound.fits m (List.mem_of_find?_eq_some finds)
      cases fits with
      | handshaking other _ => cases other.symm.trans stage
      | ended other => cases other.symm.trans stage
      | @serving c _ _ untold told =>
        have not : c.stopping = false := by
          cases stopping : c.stopping with
          | true => exact absurd (told stopping).1 fresh
          | false => rfl
        exact .inr ⟨c, task, not, fun none => fresh (none ▸ untold not),
          tell_of_look finds looks task⟩

/-- What the listener does about an event depends on its status. -/
theorem moves_act {e : Event} (own : s.listener.react e = s.listener.act e)
    (accepts : s.listener.status = .accepting → Moves s h (s.follow (s.listener.accept e)))
    (drains : s.listener.status = .draining → Moves s h (s.follow (s.listener.drain e))) :
    Moves s h (s.tell e) := by
  rw [Service.tell, own, Listener.act]
  split
  · next accepting => exact accepts accepting
  · next draining => exact drains draining
  · exact .nothing

theorem follow_finish (s : Service) (ids : List Nat) (log : Log) :
    s.follow (s.listener.finish (ids.map .cut) log) =
      ⟨{ s.listener with status := .stopped, members := [] }, cutAll s.tasks ids⟩ :=
  foldl_cut _ ids

theorem map_cut (ms : List Member) :
    ms.map (fun m => Order.cut m.id) = (ms.map Member.id).map .cut := by
  rw [List.map_map]
  rfl

theorem moves_joined (draining : s.listener.status = .draining) :
    Moves s h (s.follow (s.listener.drain .joined)) := by
  rw [Listener.drain]
  split
  · next none => exact .stops draining (List.isEmpty_iff.mp none)
  · exact .forgets (by simp [draining])

theorem moves_graceOver (draining : s.listener.status = .draining) :
    Moves s .graceOver (s.follow (s.listener.drain .graceOver)) := by
  rw [Listener.drain]
  split
  · next none => exact .stops draining (List.isEmpty_iff.mp none)
  · rw [map_cut, follow_finish]
    exact .cuts rfl draining

theorem moves (sound : Sound s) (h : Happening) : Moves s h (s.happen h) := by
  cases h with
  | arrived =>
    exact moves_act rfl (fun accepting => .comes rfl accepting) fun _ => .nothing
  | missed reason =>
    exact moves_act rfl (fun accepting => .forgets (by simp [accepting])) fun _ => .nothing
  | secured id peer =>
    rw [happen]
    split
    · next found => exact .changes found (.secured rfl)
    · exact .nothing
  | left id =>
    rw [happen]
    split
    · next t found =>
      split
      · next runs => exact .changes found (.left runs)
      · exact .nothing
    · exact .nothing
  | received id bytes => exact moves_onServed fun c => c.goesOn_receive bytes
  | decided id v isHeard =>
    refine moves_onServed fun c => ?_
    cases isHeard with
    | true => exact c.goesOn_conclude v
    | false => exact c.goesOn_concludeUnheard v
  | hungUp id abrupt => exact moves_onServed fun c => c.goesOn_hangUp abrupt
  | expired id => exact moves_onServed fun c => c.goesOn_expire
  | signalled name =>
    exact moves_act rfl (fun accepting => .signalled rfl accepting) fun _ => .nothing
  | polled id =>
    rw [happen]
    rcases tell_polled sound id with same | ⟨c, found, stopping, changed, told⟩
    · rw [same]
      exact .nothing
    · rw [told]
      exact .changes found (.told rfl changed stopping)
  | joined => exact moves_act rfl (fun _ => .nothing) moves_joined
  | graceOver => exact moves_act rfl (fun _ => .nothing) moves_graceOver

/-! ## What stays right -/

theorem Sound.changes {t t' : Task} {change : Member → Member} (sound : Sound s)
    (found : s.tasks[id]? = some t)
    (changes : Changes s.listener.stop.version h id t change t') :
    Sound ⟨s.listener.update id change, s.tasks.set id t'⟩ where
  version := sound.version
  copied := sound.copied
  fits m mem := by
    obtain ⟨n, known, rfl⟩ := (Listener.mem_update _ _).mp mem
    obtain ⟨u, task, fits⟩ := sound.fits n known
    have there : id < s.tasks.length := (List.getElem?_eq_some_iff.mp found).1
    split
    · next is =>
      subst is
      cases task.symm.trans found
      rw [changes.keeps_id]
      exact ⟨t', by simp [there], changes.fits fits⟩
    · next other => exact ⟨u, by simp [Ne.symm other, task], fits⟩
  kept i u task runs := by
    have known : ∃ n ∈ s.listener.members, n.id = i := by
      by_cases is : id = i
      · subst is
        exact sound.kept id t found changes.isRunning
      · rw [List.getElem?_set_ne is] at task
        exact sound.kept i u task runs
    obtain ⟨n, known, rfl⟩ := known
    refine ⟨_, (Listener.mem_update _ _).mpr ⟨n, known, rfl⟩, ?_⟩
    split
    · exact changes.keeps_id n
    · rfl
  empty stopped := List.map_eq_nil_iff.mpr (sound.empty stopped)

/-- Nothing runs that the listener does not keep among those that have not ended. -/
theorem Sound.mem_running {t : Task} (sound : Sound s) (found : s.tasks[id]? = some t)
    (runs : t.isRunning = true) :
    ∃ m ∈ s.listener.running, m.id = id ∧ Fits s.listener.stop.version m t := by
  obtain ⟨m, known, rfl⟩ := sound.kept id t found runs
  obtain ⟨u, task, fits⟩ := sound.fits m known
  cases task.symm.trans found
  exact ⟨m, (Listener.mem_running _).mpr ⟨known, fits.isRunning_iff.mp runs⟩, rfl, fits⟩

theorem Sound.comes (sound : Sound s) (accepting : s.listener.status = .accepting) :
    Sound ⟨{ s.listener with members := s.listener.running ++
      [⟨s.tasks.length, .handshaking, s.listener.watcher⟩] }, s.tasks ++ [.handshaking]⟩ where
  version := sound.version
  copied := sound.copied
  fits m mem := by
    rcases List.mem_append.mp mem with old | new
    · obtain ⟨t, task, fits⟩ := sound.fits m ((Listener.mem_running _).mp old).1
      have there : m.id < s.tasks.length := (List.getElem?_eq_some_iff.mp task).1
      exact ⟨t, (List.getElem?_append_left there).trans task, fits⟩
    · cases List.mem_singleton.mp new
      exact ⟨.handshaking, by simp, .handshaking rfl sound.copied⟩
  kept i t task runs := by
    dsimp only at task ⊢
    rw [List.getElem?_append] at task
    split at task
    · obtain ⟨m, known, is, -⟩ := sound.mem_running task runs
      exact ⟨m, List.mem_append_left _ known, is⟩
    · next new =>
      have last : i - s.tasks.length = 0 := by
        have := (List.getElem?_eq_some_iff.mp task).1
        simpa using this
      exact ⟨_, List.mem_append_right _ (List.mem_singleton_self _), by dsimp only; omega⟩
  empty stopped := by cases accepting.symm.trans stopped

theorem Sound.forgets (sound : Sound s) (lasts : s.listener.status ≠ .stopped) :
    Sound ⟨{ s.listener with members := s.listener.running }, s.tasks⟩ where
  version := sound.version
  copied := sound.copied
  fits m mem := sound.fits m ((Listener.mem_running _).mp mem).1
  kept i t task runs := by
    obtain ⟨m, known, is, -⟩ := sound.mem_running task runs
    exact ⟨m, known, is⟩
  empty stopped := absurd stopped lasts

theorem Sound.signalled (sound : Sound s) (accepting : s.listener.status = .accepting) :
    Sound ⟨{ s.listener with status := .draining, stop := s.listener.stop.change }, s.tasks⟩ where
  version := ⟨fun none => absurd none (Nat.succ_ne_zero _), nofun⟩
  copied := sound.copied
  fits m mem := by
    obtain ⟨t, task, fits⟩ := sound.fits m mem
    refine ⟨t, task, ?_⟩
    cases fits with
    | handshaking stage unseen => exact .handshaking stage unseen
    | ended stage => exact .ended stage
    | serving stage lasts untold told =>
      exact .serving stage lasts untold fun stopping =>
        absurd (sound.version.mpr accepting) (told stopping).2
  kept := sound.kept
  empty := nofun

/-- A listener that has stopped knows of no tasks, so none may be running. -/
theorem Sound.stopped (sound : Sound s) (draining : s.listener.status = .draining)
    {tasks : List Task} (none : ∀ t ∈ tasks, t.isRunning = false) :
    Sound ⟨{ s.listener with status := .stopped, members := [] }, tasks⟩ where
  version := by
    refine ⟨fun unchanged => ?_, nofun⟩
    cases draining.symm.trans (sound.version.mp unchanged)
  copied := sound.copied
  fits := List.forall_mem_nil _
  kept i t task runs := by
    cases (none t (List.mem_of_getElem? task)).symm.trans runs
  empty _ := rfl

/-- What the listener cuts is all that runs. -/
theorem Sound.isRunning_cutAll (sound : Sound s) :
    ∀ t ∈ cutAll s.tasks (s.listener.running.map Member.id), t.isRunning = false := by
  intro t mem
  obtain ⟨i, task⟩ := List.mem_iff_getElem?.mp mem
  rw [getElem?_cutAll] at task
  split at task
  · obtain ⟨_, -, rfl⟩ := Option.map_eq_some_iff.mp task
    rfl
  · next spared =>
    cases runs : t.isRunning with
    | false => rfl
    | true =>
      obtain ⟨m, known, is, -⟩ := sound.mem_running task runs
      exact absurd (List.mem_map.mpr ⟨m, known, is⟩) spared

theorem Sound.happen (sound : Sound s) (h : Happening) : Sound (s.happen h) := by
  have moves := moves sound h
  generalize s.happen h = s' at moves
  cases moves with
  | nothing => exact sound
  | comes _ accepting => exact sound.comes accepting
  | forgets lasts => exact sound.forgets lasts
  | signalled _ accepting => exact sound.signalled accepting
  | changes found changes => exact sound.changes found changes
  | stops draining none =>
    have spared := sound.isRunning_cutAll
    rw [none] at spared
    exact sound.stopped draining spared
  | cuts _ draining => exact sound.stopped draining sound.isRunning_cutAll

theorem Sound.run (sound : Sound s) (hs : List Happening) : Sound (s.run hs) := by
  induction hs generalizing s with
  | nil => exact sound
  | cons h hs ih => exact ih (sound.happen h)

/-- A task that is served and does not know of the change sees it in its turn, whenever the change
has been and whatever the task was doing then. -/
theorem Sound.tell_untold {c : Connection} (sound : Sound s)
    (found : s.tasks[id]? = some (.serving c)) (untold : c.stopping = false)
    (changed : s.listener.stop.version ≠ 0) :
    (s.tell (.polled id)).tasks = s.tasks.set id (.ofConnection c.stop) := by
  have serves : ∃ m ∈ s.listener.members, m.id = id ∧ m.stage = .serving := by
    obtain ⟨m, known, is, fits⟩ := sound.mem_running found rfl
    cases fits with
    | serving stage _ _ _ => exact ⟨m, ((Listener.mem_running _).mp known).1, is, stage⟩
  obtain ⟨m, finds⟩ : ∃ m, (s.listener.members.find? fun m => m.id = id && m.stage = .serving) =
      some m := by
    obtain ⟨m, known, is, stage⟩ := serves
    exact Option.isSome_iff_exists.mp (List.find?_isSome.mpr ⟨m, known, by simp [is, stage]⟩)
  have seen : m.watcher.seen = 0 := by
    obtain ⟨t, task, fits⟩ := sound.fits m (List.mem_of_find?_eq_some finds)
    have is := List.find?_some finds
    rw [Bool.and_eq_true, decide_eq_true_eq] at is
    rw [is.1] at task
    cases found.symm.trans task
    cases fits with
    | serving _ _ unseen _ => exact unseen untold
  have looks : m.watcher.look? s.listener.stop = some ⟨s.listener.stop.version⟩ :=
    if_neg fun same : m.watcher.seen = _ => changed (same.symm.trans seen)
  rw [tell_of_look finds looks found]

/-! ## What a happening may do to a task -/

/-- `Goes s h id t t'`: what the happening `h` makes of the task `t` of the service `s`.

* `stays`: nothing.
* `changes`: by `Changes`.
* `cut`: it is cut by `graceOver`. -/
inductive Goes (s : Service) (h : Happening) (id : Nat) : Task → Task → Prop
  | stays {t : Task} : Goes s h id t t
  | changes {t t' : Task} {change : Member → Member} :
      Changes s.listener.stop.version h id t change t' → Goes s h id t t'
  | cut {t : Task} : h = .graceOver → s.listener.status = .draining → t.isRunning = true →
      Goes s h id t .cut

/-- No task is ever lost. -/
theorem Sound.goes (sound : Sound s) (h : Happening) {t : Task}
    (found : s.tasks[id]? = some t) :
    ∃ t', (s.happen h).tasks[id]? = some t' ∧ Goes s h id t t' := by
  have moves := moves sound h
  generalize s.happen h = s' at moves
  cases moves with
  | nothing | forgets | signalled | stops => exact ⟨t, found, .stays⟩
  | comes =>
    have there : id < s.tasks.length := (List.getElem?_eq_some_iff.mp found).1
    exact ⟨t, (List.getElem?_append_left there).trans found, .stays⟩
  | @changes i u u' change task changes =>
    by_cases is : i = id
    · subst is
      cases found.symm.trans task
      have there : i < s.tasks.length := (List.getElem?_eq_some_iff.mp found).1
      exact ⟨u', by simp [there], .changes changes⟩
    · exact ⟨t, by simp [is, found], .stays⟩
  | cuts late draining =>
    dsimp only
    rw [getElem?_cutAll, found]
    split
    · next known =>
      obtain ⟨m, mem, rfl⟩ := List.mem_map.mp known
      obtain ⟨known, stage⟩ := (Listener.mem_running _).mp mem
      obtain ⟨u, task, fits⟩ := sound.fits m known
      cases found.symm.trans task
      exact ⟨.cut, rfl, .cut late draining (fits.isRunning_iff.mpr stage)⟩
    · exact ⟨t, rfl, .stays⟩

/-- A task that was not there has just been started. -/
theorem Sound.started (sound : Sound s) (h : Happening) {t : Task}
    (found : (s.happen h).tasks[id]? = some t) (absent : s.tasks[id]? = none) :
    h = .arrived ∧ s.listener.status = .accepting ∧ t = .handshaking := by
  have moves := moves sound h
  generalize s.happen h = s' at moves found
  have beyond := List.getElem?_eq_none_iff.mp absent
  cases moves with
  | nothing | forgets | signalled | stops => cases absent.symm.trans found
  | comes arrived accepting =>
    rw [List.getElem?_append_right beyond, List.getElem?_singleton] at found
    cases (Option.ite_none_right_eq_some.mp found).2
    exact ⟨arrived, accepting, rfl⟩
  | changes =>
    have there := (List.getElem?_eq_some_iff.mp found).1
    rw [List.length_set] at there
    omega
  | cuts =>
    have there := (List.getElem?_eq_some_iff.mp found).1
    rw [length_cutAll] at there
    omega

end

end EvictionGate.Serving
