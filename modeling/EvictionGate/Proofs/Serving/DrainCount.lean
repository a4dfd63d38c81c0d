import EvictionGate.Proofs.Serving.Shutdown
import Mathlib.Data.Finset.Card
import Mathlib.Data.List.DropRight
import Mathlib.Data.List.Induction

/-!
# How many connections are drained

When a signal comes, the listener says how many connections it waits for. It counts the tasks that
it keeps, and those that have ended are only forgotten when the next client comes. So the number is
that of the connections that were open when the last client had come: a connection that has ended
since is counted among those to wait for.

Results:
1. `Service.ids_happen`: only clients make the listener forget tasks, or keep more.
2. `Sound.keeps_taken`: what it keeps when a client has come.
3. `keeps_run`: what it keeps after any happenings.
4. `drain_count_iff`: what it says when a signal comes, and when that is right.
-/

namespace EvictionGate.Serving

/-- `arrived` or `missed`: the listener forgets the tasks that have ended. -/
def Happening.isTaken : Happening → Bool
  | .arrived => true
  | .missed _ => true
  | _ => false

/-- The happenings up to the last one that `isTaken`. -/
def untilTaken (hs : List Happening) : List Happening := hs.rdropWhile fun h => !h.isTaken

/-! ## Which tasks are kept -/

/-- The tasks of `Listener.members`. -/
def Listener.ids (l : Listener) : List Nat := l.members.map Member.id

namespace Listener

variable (l : Listener)

theorem ids_update (id : Nat) {change : Member → Member}
    (same : ∀ m, (change m).id = m.id) : (l.update id change).ids = l.ids := by
  simp only [ids, update, List.map_map]
  refine List.map_congr_left fun m _ => ?_
  by_cases is : m.id = id
  · simp [is, same]
  · simp [is]

theorem ids_look (id : Nat) : (l.look id).listener.ids = l.ids := by
  unfold look
  split
  · rfl
  · split
    · rfl
    · exact l.ids_update id fun _ => rfl

end Listener

namespace Service

variable (s : Service)

theorem ids_leave (id : Nat) : (s.leave id).listener.ids = s.listener.ids :=
  s.listener.ids_update id fun _ => rfl

theorem ids_onServed (id : Nat) (act : Connection → Connection) :
    (s.onServed id act).listener.ids = s.listener.ids := by
  unfold onServed
  split
  · unfold settle
    split
    · exact s.ids_leave id
    · rfl
  · rfl

theorem ids_obey (order : Order) : (s.obey order).listener.ids = s.listener.ids := by
  cases order with
  | serve | cut => rfl
  | stop id => exact s.ids_onServed id _

/-- Whatever tasks do, the listener keeps those that it has kept. -/
theorem ids_follow (r : Reaction) : (s.follow r).listener.ids = r.listener.ids := by
  have carried (orders : List Order) (s : Service) :
      (orders.foldl obey s).listener.ids = s.listener.ids := by
    induction orders generalizing s with
    | nil => rfl
    | cons order orders ih => exact (ih _).trans (s.ids_obey order)
  exact carried r.orders _

theorem ids_tell (e : Event) : (s.tell e).listener.ids = (s.listener.react e).listener.ids :=
  s.ids_follow _

theorem tell_of_accepting {s : Service} (accepting : s.listener.status = .accepting) {e : Event}
    (own : s.listener.react e = s.listener.act e) : s.tell e = s.follow (s.listener.accept e) := by
  rw [tell, own, Listener.act, accepting]

/-- While it accepts, a listener forgets no task and keeps no other unless a client comes. -/
theorem ids_happen {s : Service} (accepting : s.listener.status = .accepting) {h : Happening}
    (other : h.isTaken = false) : (s.happen h).listener.ids = s.listener.ids := by
  have own {e : Event} (acts : s.listener.react e = s.listener.act e)
      (same : (s.listener.accept e).listener.ids = s.listener.ids) :
      (s.tell e).listener.ids = s.listener.ids := by
    rw [tell_of_accepting accepting acts, ids_follow, same]
  cases h with
  | arrived | missed => cases other
  | secured id peer =>
    rw [happen]
    split
    · refine (ids_tell _ _).trans (s.listener.ids_update id fun m => ?_)
      unfold Member.secure
      split <;> rfl
    · rfl
  | left id =>
    rw [happen]
    split
    · split
      · exact s.ids_leave id
      · rfl
    · rfl
  | received id | decided id | hungUp id | expired id => exact s.ids_onServed id _
  | signalled name => exact own rfl rfl
  | polled id => exact (s.ids_tell _).trans (s.listener.ids_look id)
  | joined => exact own rfl rfl
  | graceOver => exact own rfl rfl

end Service

/-! ## Which tasks are open -/

/-- The tasks for which `Task.isRunning` holds. -/
def Service.openIds (s : Service) : Finset Nat :=
  {id ∈ Finset.range s.tasks.length | s.tasks[id]?.any Task.isRunning = true}

/-- `s.Keeps ids`: `Listener.ids` are these, each of them once. -/
structure Service.Keeps (s : Service) (ids : Finset Nat) : Prop where
  nodup : s.listener.ids.Nodup
  mem : ∀ id, id ∈ s.listener.ids ↔ id ∈ ids

namespace Service

variable {s : Service} {id : Nat}

theorem mem_openIds : id ∈ s.openIds ↔ ∃ t, s.tasks[id]? = some t ∧ t.isRunning = true := by
  simp only [openIds, Finset.mem_filter, Finset.mem_range, Option.any_eq_true]
  constructor
  · rintro ⟨-, t, found, runs⟩
    exact ⟨t, found, runs⟩
  · rintro ⟨t, found, runs⟩
    exact ⟨(List.getElem?_eq_some_iff.mp found).1, t, found, runs⟩

theorem Keeps.length {ids : Finset Nat} (keeps : s.Keeps ids) :
    s.listener.members.length = ids.card := by
  have same : s.listener.ids.toFinset = ids := by
    ext id
    rw [List.mem_toFinset, keeps.mem]
  rw [← same, List.toFinset_card_of_nodup keeps.nodup, Listener.ids, List.length_map]

end Service

section

variable {s : Service}

theorem Sound.mem_ids (sound : Sound s) {id : Nat} (isOpen : id ∈ s.openIds) :
    id ∈ s.listener.ids := by
  obtain ⟨t, found, runs⟩ := Service.mem_openIds.mp isOpen
  obtain ⟨m, known, is⟩ := sound.kept id t found runs
  exact List.mem_map.mpr ⟨m, known, is⟩

theorem Sound.lt_of_mem_ids (sound : Sound s) {id : Nat} (kept : id ∈ s.listener.ids) :
    id < s.tasks.length := by
  obtain ⟨m, known, rfl⟩ := List.mem_map.mp kept
  obtain ⟨t, found, -⟩ := sound.fits m known
  exact (List.getElem?_eq_some_iff.mp found).1

/-- A listener that has just forgotten the tasks that had ended keeps the open ones. -/
theorem Sound.keeps (sound : Sound s) (nodup : s.listener.ids.Nodup)
    (fresh : ∀ m ∈ s.listener.members, m.stage ≠ .ended) : s.Keeps s.openIds where
  nodup := nodup
  mem id := by
    refine ⟨fun kept => ?_, sound.mem_ids⟩
    obtain ⟨m, known, rfl⟩ := List.mem_map.mp kept
    obtain ⟨t, found, fits⟩ := sound.fits m known
    exact Service.mem_openIds.mpr ⟨t, found, fits.isRunning_iff.mpr (fresh m known)⟩

/-- So does one to which a client has just come. -/
theorem Sound.keeps_taken (sound : Sound s) (accepting : s.listener.status = .accepting)
    (nodup : s.listener.ids.Nodup) {h : Happening} (taken : h.isTaken = true) :
    (s.happen h).Keeps (s.happen h).openIds := by
  have running : (s.listener.running.map Member.id).Nodup :=
    nodup.sublist (List.filter_sublist.map _)
  have fresh : ∀ m ∈ s.listener.running, m.stage ≠ .ended := fun m mem =>
    ((Listener.mem_running _).mp mem).2
  cases h with
  | arrived =>
    have members : (s.happen .arrived).listener.members =
        s.listener.running ++ [⟨s.tasks.length, .handshaking, s.listener.watcher⟩] := by
      rw [Service.happen, Service.tell_of_accepting accepting rfl]
      rfl
    have unused : s.tasks.length ∉ s.listener.running.map Member.id := fun mem =>
      (sound.lt_of_mem_ids ((List.filter_sublist.map _).subset mem)).false
    refine (sound.happen _).keeps ?_ fun m mem => ?_
    · rw [Listener.ids, members, List.map_append, List.map_singleton, List.nodup_append]
      refine ⟨running, List.nodup_singleton _, fun id mem other last same => unused ?_⟩
      rwa [same, List.mem_singleton.mp last] at mem
    · rw [members] at mem
      rcases List.mem_append.mp mem with old | new
      · exact fresh m old
      · cases List.mem_singleton.mp new
        show Stage.handshaking ≠ .ended
        decide
  | missed reason =>
    have members : (s.happen (.missed reason)).listener.members = s.listener.running := by
      rw [Service.happen, Service.tell_of_accepting accepting rfl]
      rfl
    refine (sound.happen _).keeps ?_ fun m mem => fresh m (members ▸ mem)
    rw [Listener.ids, members]
    exact running
  | _ => cases taken

end

/-! ## Runs -/

theorem run_concat (hs : List Happening) (h : Happening) :
    Service.start.run (hs ++ [h]) = (Service.start.run hs).happen h :=
  List.foldl_concat ..

/-- While it accepts, a listener keeps the tasks that were open when the last client had come. -/
theorem keeps_run (hs : List Happening)
    (accepting : (Service.start.run hs).listener.status = .accepting) :
    (Service.start.run hs).Keeps (Service.start.run (untilTaken hs)).openIds := by
  -- on what has happened last, which is a client or leaves the listener what it has kept
  induction hs using List.reverseRecOn with
  | nil => exact sound_start.keeps List.nodup_nil (List.forall_mem_nil _)
  | append_singleton hs h ih =>
    have sound := sound_start.run hs
    rw [run_concat] at accepting
    have before : (Service.start.run hs).listener.status = .accepting := by
      by_contra left
      exact (sound.closed h left).1 accepting
    have keeps := ih before
    cases taken : h.isTaken with
    | true =>
      have last : untilTaken (hs ++ [h]) = hs ++ [h] :=
        List.rdropWhile_concat_neg _ _ _ (by simp [taken])
      rw [last, run_concat]
      exact sound.keeps_taken before keeps.nodup taken
    | false =>
      have last : untilTaken (hs ++ [h]) = untilTaken hs :=
        List.rdropWhile_concat_pos _ _ _ (by simp [taken])
      have same := Service.ids_happen before taken
      rw [last, run_concat]
      exact ⟨same ▸ keeps.nodup, fun id => same ▸ keeps.mem id⟩

/-! ## What is said -/

theorem Listener.signalLog_inj {name : String} {m n : Nat} :
    signalLog name m = signalLog name n ↔ m = n := by
  refine ⟨fun same => ?_, fun same => same ▸ rfl⟩
  have digits : Nat.toDigits 10 m = Nat.toDigits 10 n := by
    simpa [signalLog, Nat.repr_eq_ofList_toDigits, String.ofList_inj] using same
  rw [← Nat.ofDigitChars_ten_toDigits (n := m), digits, Nat.ofDigitChars_ten_toDigits]

theorem log_signalled {s : Service} (accepting : s.listener.status = .accepting) (name : String) :
    (s.listener.react (.signalled name)).log =
      Listener.signalLog name s.listener.members.length := by
  have own : s.listener.react (.signalled name) = s.listener.act (.signalled name) := rfl
  rw [own, Listener.act, accepting]
  rfl

/-- The number of connections that the listener says it drains is that of the connections that were
open when the last client had come: the open ones, and those that have ended since. So it is the
number of the open ones exactly if none has. -/
theorem drain_count_iff (hs : List Happening) (name : String)
    (accepting : (Service.start.run hs).listener.status = .accepting) :
    let now := Service.start.run hs
    let last := Service.start.run (untilTaken hs)
    let said := (now.listener.react (.signalled name)).log
    now.openIds ⊆ last.openIds ∧
      said = Listener.signalLog name
        (now.openIds.card + (last.openIds \ now.openIds).card) ∧
      (said = Listener.signalLog name now.openIds.card ↔ now.openIds = last.openIds) := by
  intro now last said
  have keeps := keeps_run hs accepting
  have within : now.openIds ⊆ last.openIds := fun id mem =>
    (keeps.mem id).mp ((sound_start.run hs).mem_ids mem)
  have counted : said = Listener.signalLog name last.openIds.card := by
    rw [← keeps.length]
    exact log_signalled accepting name
  refine ⟨within, ?_, ?_⟩
  · rw [counted, Nat.add_comm, Finset.card_sdiff_add_card_eq_card within]
  · rw [counted, Listener.signalLog_inj]
    exact ⟨fun same => Finset.eq_of_subset_of_card_le within same.le, fun same => same ▸ rfl⟩

namespace Sample

/-- A client is served and hangs up. -/
def hungUp : List Happening :=
  [.arrived, .secured 0 "first", .polled 0, .hungUp 0 false]

end Sample

/-- When the next client comes, one that is gone is forgotten. -/
theorem drain_count_of_next_client :
    (Service.start.run (Sample.hungUp ++ [.arrived])).listener.status = .accepting ∧
      ((Service.start.run (Sample.hungUp ++ [.arrived])).listener.react
        (.signalled "SIGTERM")).log = Listener.signalLog "SIGTERM"
          (Service.start.run (Sample.hungUp ++ [.arrived])).openIds.card := by
  have accepting : (Service.start.run (Sample.hungUp ++ [.arrived])).listener.status =
      .accepting := by decide
  obtain ⟨-, -, right⟩ := drain_count_iff _ "SIGTERM" accepting
  exact ⟨accepting, right.mpr (by decide)⟩

/-- A client that is gone is counted among those to wait for, if no other has come since. -/
theorem gone_client_is_counted :
    (Service.start.run Sample.hungUp).listener.status = .accepting ∧
      (Service.start.run Sample.hungUp).openIds = ∅ ∧
      ((Service.start.run Sample.hungUp).listener.react (.signalled "SIGTERM")).log =
        Listener.signalLog "SIGTERM" 1 ∧
      Listener.signalLog "SIGTERM" 1 ≠ Listener.signalLog "SIGTERM"
        (Service.start.run Sample.hungUp).openIds.card := by
  decide

end EvictionGate.Serving
