import EvictionGate.Proofs.Decision.Situation
import EvictionGate.Proofs.Server.Refinement

/-!
# Answers that are lost

A patch may take effect and be answered as if it had not: with an error, or with nothing that
can be read. A decision takes every such answer for a patch without effect. So a flag that is
written with its answer lost stays behind without a marker, and a marker that is set with its
answer lost stays behind without a flag, which is taken back.

Results:
1. `Treatments.left_on`: what a decision leaves, however the server treats its patches.
2. `agree_iff_heard`: flag and marker agree exactly if no answer that counts is lost.
3. `lost_answers_part`: a lost answer parts them, either way.
-/

namespace EvictionGate

open Json

/-! ## Servers that treat patches in their own way -/

/-- How a server treats a patch.

* `handled`: it carries the patch out and answers as it does.
* `rejected`: it does nothing and gives `answer`.
* `lost`: it carries the patch out and gives `answer`. -/
inductive Treatment
  | handled
  | rejected (answer : ApiAnswer)
  | lost (answer : ApiAnswer)

namespace Treatment

/-- Whether the patch is carried out. -/
def acts : Treatment → Bool
  | handled => true
  | rejected _ => false
  | lost _ => true

/-- Whether the patch is carried out and answered as it is. -/
def isHeard : Treatment → Bool
  | handled => true
  | rejected _ => false
  | lost _ => false

/-- Whether the patch is carried out and answered in another way. -/
def isLost (x : Treatment) : Bool := x.acts && !x.isHeard

/-- The answer that takes the place of the proper one, if one does. -/
def answer? : Treatment → Option ApiAnswer
  | handled => none
  | rejected answer => some answer
  | lost answer => some answer

/-- `x.Fails call`: the answer that takes the place of the proper one is read as an error. -/
def Fails (x : Treatment) (call : Call) : Prop :=
  ∀ answer, x.answer? = some answer → ∃ e, call.reply answer = .error e

theorem answer?_of_isHeard {x : Treatment} (heard : x.isHeard = true) : x.answer? = none := by
  cases x with
  | handled => rfl
  | rejected | lost => cases heard

theorem exists_answer_of_not_isHeard {x : Treatment} (unheard : x.isHeard = false) :
    ∃ answer, x.answer? = some answer := by
  cases x with
  | handled => cases unheard
  | rejected answer | lost answer => exact ⟨answer, rfl⟩

theorem acts_of_isHeard {x : Treatment} (heard : x.isHeard = true) : x.acts = true := by
  cases x with
  | handled => rfl
  | rejected | lost => cases heard

end Treatment

/-- The treatments of the three patches of a decision: `setFlag`, `setMarker` and `clearFlag`. -/
structure Treatments where
  flag : Treatment
  marker : Treatment
  clear : Treatment

namespace Treatments

/-- The treatment of a call. Reads are `handled`. -/
def of (x : Treatments) : Call → Treatment
  | .getPod _ => .handled
  | .getTracker _ _ => .handled
  | .patchTracker _ _ _ (some _) => x.flag
  | .patchTracker _ _ _ none => x.clear
  | .patchPod _ _ _ => x.marker

/-- The calls of `Decision.run`, sent to a server that treats patches so. -/
def perform (x : Treatments) (call : Call) (server : ApiServer) : Reply call × Log × ApiServer :=
  match call.request? false with
  | none => (.error (.api .requestNotBuilt), [], server)
  | some r =>
    let sent : ApiServer := { server with received := server.received ++ [r] }
    let (answer, acted) := sent.act r
    let reply := call.reply ((x.of call).answer?.getD answer)
    (reply, call.replyLog reply, if (x.of call).acts then acted else sent)

end Treatments

/-- An answer is an error to the gate if its status says so, or its body cannot be read as the
object asked for. -/
theorem Call.reply_error_iff (call : Call) (status : Nat) (body : List UInt8) :
    (∃ e, call.reply (.response status body) = .error e) ↔
      Text.ofBytes? body = none ∨ isErrorStatus status = true ∨ call.read? body = none := by
  rw [reply]
  cases Text.ofBytes? body with
  | none => simp
  | some text =>
    cases isErrorStatus status with
    | true => simp
    | false => cases call.read? body <;> simp

/-! ## Flags and markers on a server -/

namespace ApiServer

/-- The stored pod, as `Pod.ofBytes?` reads it. -/
def podAt? (server : ApiServer) (t : Target) : Option Pod :=
  (server.objects.get? (Place.pod t).path).bind fun v => Pod.ofBytes? (Text.bytes v.text)

def objectAt? (server : ApiServer) (k : TrackingKey) : Option DynamicObject :=
  (server.objects.get? (Place.tracking k).path).bind fun v =>
    DynamicObject.ofBytes? (Text.bytes v.text)

/-- `World.markerOn` for what the server has stored. -/
def markerOn (server : ApiServer) (c : Settings) (t : Target) : Bool :=
  (server.podAt? t).any c.markerIsOn

/-- `World.podFlagOn` for what the server has stored. -/
def podFlagOn (server : ApiServer) (c : Settings) (t : Target) : Bool :=
  (server.podAt? t).any fun pod =>
    (c.trackerKind.trackerOf? pod).any fun i =>
      (server.objectAt? ⟨c.trackerKind, i⟩).any fun o =>
        o.annotationAt? t.flagKey == some flagValue

end ApiServer

theorem Stores.bind_eq {α : Type} {read : List UInt8 → Option α} {stored : Option Value}
    {entry : Option α} (stores : Stores read stored entry) :
    (stored.bind fun v => read (Text.bytes v.text)) = entry := by
  cases stored with
  | none => exact stores.eq_none.symm
  | some v =>
    obtain ⟨x, rfl, -, reads⟩ := stores.exists_entry
    exact reads

namespace ApiServer.Represents

variable {server : ApiServer} {w : World} {c : Settings} {t : Target}

theorem podAt?_eq (represents : server.Represents w) (target : (Place.pod t).Addressable) :
    server.podAt? t = w.pods.get? t :=
  Stores.bind_eq (represents _ target)

theorem objectAt?_eq (represents : server.Represents w) {k : TrackingKey}
    (addressable : (Place.tracking k).Addressable) :
    server.objectAt? k = w.tracking.get? k :=
  Stores.bind_eq (represents _ addressable)

theorem markerOn_eq (represents : server.Represents w) (target : (Place.pod t).Addressable) :
    server.markerOn c t = w.markerOn c t := by
  rw [markerOn, represents.podAt?_eq target, World.markerOn]

theorem podFlagOn_eq (represents : server.Represents w) (target : (Place.pod t).Addressable)
    (named : w.Named c t) : server.podFlagOn c t = w.podFlagOn c t := by
  rw [podFlagOn, represents.podAt?_eq target, World.podFlagOn]
  cases found : w.pods.get? t with
  | none => rfl
  | some pod =>
    rw [Option.any_some, Option.any_some]
    cases tracked : c.trackerKind.trackerOf? pod with
    | none => rfl
    | some i =>
      rw [Option.any_some, Option.any_some, represents.objectAt?_eq (named pod i found tracked),
        World.flagOn]

end ApiServer.Represents

/-! ## Calls -/

namespace Treatments

variable {c : Settings} {t : Target} {server : ApiServer} {w : World} {call : Call}
  {next : Reply call → Stage}

/-- The server goes on representing the world in which the call has acted, or has not. -/
theorem perform_represents (x : Treatments) (call : Call) (represents : server.Represents w)
    (addressable : call.place.Addressable) (finds : call.FindsAnnotations w) :
    (x.perform call server).2.2.Represents (if (x.of call).acts then w.after call else w) := by
  obtain ⟨r, becomes⟩ := Call.exists_request addressable
  have sent : ApiServer.Represents { server with received := server.received ++ [r] } w :=
    represents
  simp only [perform, becomes.request]
  cases (x.of call).acts with
  | false => exact sent
  | true => exact (sent.act addressable becomes finds).2

/-- A call whose answer is heard leads a decision on as in the world. -/
theorem exists_of_heard (x : Treatments) (stage : Stage) (represents : server.Represents w)
    (asks : stage.ask c t = some ⟨call, next⟩) (addressable : call.place.Addressable)
    (finds : call.FindsAnnotations w) (heard : (x.of call).isHeard = true) :
    ∃ server' : ApiServer, server'.Represents (stage.turn c t none w).2 ∧
      (stage.rest c t).result x.perform server =
        ((stage.turn c t none w).1.rest c t).result x.perform server' := by
  obtain ⟨r, becomes⟩ := Call.exists_request addressable
  have sent : ApiServer.Represents { server with received := server.received ++ [r] } w :=
    represents
  have after := x.perform_represents call represents addressable finds
  have alike : (x.perform call server).1.Alike (w.answer call).1 := by
    simp only [perform, becomes.request, Treatment.answer?_of_isHeard heard, Option.getD_none]
    exact (sent.act addressable becomes finds).1
  rw [Treatment.acts_of_isHeard heard, if_pos rfl] at after
  simp only [Stage.turn, asks, World.attempt]
  refine ⟨_, after, ?_⟩
  rw [Stage.result_rest asks, Stage.next_eq_of_alike asks alike]

/-- A call whose answer is not heard leads a decision on as if it had failed, whether it has
acted or not. -/
theorem exists_of_unheard (x : Treatments) (stage : Stage) (represents : server.Represents w)
    (asks : stage.ask c t = some ⟨call, next⟩) (addressable : call.place.Addressable)
    (finds : call.FindsAnnotations w) (fails : (x.of call).Fails call)
    (unheard : (x.of call).isHeard = false) :
    ∃ (server' : ApiServer) (e : GateError),
      server'.Represents (if (x.of call).acts then w.after call else w) ∧
        (stage.rest c t).result x.perform server =
          ((stage.refused e).rest c t).result x.perform server' := by
  obtain ⟨r, becomes⟩ := Call.exists_request addressable
  obtain ⟨answer, substituted⟩ := Treatment.exists_answer_of_not_isHeard unheard
  obtain ⟨e, refused⟩ := fails answer substituted
  have reply : (x.perform call server).1 = .error e := by
    simp only [perform, becomes.request, substituted, Option.getD_some, refused]
  refine ⟨_, e, x.perform_represents call represents addressable finds, ?_⟩
  rw [Stage.result_rest asks, reply, Stage.next_error asks]

end Treatments

/-! ## Whole decisions -/

/-- The server after the decision about `t`. -/
def Treatments.left (x : Treatments) (c : Settings) (t : Target) (server : ApiServer) :
    ApiServer :=
  ((decideEviction c t).run x.perform server).state

namespace Candidate

variable {c : Settings} {t : Target} {w : World} (s : Candidate c t w)

/-- The names of a candidate's pod lead to its tracking object, however far things have got. -/
theorem named_state (addressable : (Place.tracking s.place).Addressable)
    (marked flagged : Bool) : (s.state marked flagged).Named c t := by
  intro pod i found tracked
  have alike : s.pod.Alike (if marked then c.marked s.pod else s.pod) := by
    cases marked with
    | false => exact .refl s.pod
    | true => exact .annotate s.pod _ _
  cases (s.pod_state marked flagged).symm.trans found
  rw [alike.trackerOf?, s.tracked] at tracked
  cases tracked
  exact addressable

end Candidate

section

variable {c : Settings} {t : Target} {w : World} (s : Candidate c t w) {server : ApiServer}
  (x : Treatments) (target : (Place.pod t).Addressable)
  (addressable : (Place.tracking s.place).Addressable)
include target addressable

/-- Flag and marker of a candidate that has no flag of its own, on a server. -/
theorem ApiServer.Represents.on_state {marked flagged : Bool} (unflagged : s.flagged = false)
    (represents : server.Represents (s.state marked flagged)) :
    server.markerOn c t = marked ∧ server.podFlagOn c t = flagged := by
  rw [represents.markerOn_eq target,
    represents.podFlagOn_eq target (s.named_state addressable marked flagged), s.markerOn_state,
    s.podFlagOn_state, unflagged, Bool.or_false]
  exact ⟨rfl, rfl⟩

/-- A flag is taken back, whatever is answered, and the pod is left marked if it was. -/
theorem Treatments.left_of_rollBack (clears : x.clear.acts = true) {marked : Bool}
    (represents : server.Represents (s.state marked true)) :
    let left := (((Stage.rollBack s.tracker).rest c t).result x.perform server).2
    left.markerOn c t = marked ∧ left.podFlagOn c t = false := by
  have finds : (Call.clearFlag c t s.tracker).FindsAnnotations (s.state marked true) := by
    intro o present
    cases (s.object_state marked true).symm.trans present
    rfl
  have after := x.perform_represents (.clearFlag c t s.tracker) represents addressable finds
  have acts : (x.of (.clearFlag c t s.tracker)).acts = true := clears
  rw [acts, if_pos rfl] at after
  have named := (s.named_state addressable marked true).after (.clearFlag c t s.tracker)
  -- the decision ends here with the same verdict, also if the clear is answered with an error
  have ends : ((Stage.rollBack s.tracker).rest c t).result x.perform server =
      (.deny .failedToAddMarker, (x.perform (.clearFlag c t s.tracker) server).2.2) := by
    have asks : (Stage.rollBack s.tracker).ask c t = some ⟨.clearFlag c t s.tracker, _⟩ := rfl
    rw [Stage.result_rest asks]
    generalize x.perform (.clearFlag c t s.tracker) server = o
    obtain ⟨reply, log, server'⟩ := o
    cases reply <;> rfl
  rw [ends]
  dsimp only
  rw [after.markerOn_eq target, after.podFlagOn_eq target named, s.podFlagOn_after_clearFlag]
  have still : ((s.state marked true).after (.clearFlag c t s.tracker)).markerOn c t =
      (s.state marked true).markerOn c t := by
    rw [World.markerOn, World.pods_after_patchTracker, World.markerOn]
  rw [still, s.markerOn_state]
  exact ⟨rfl, rfl⟩

/-- A pod that has been flagged is marked, and stays flagged if the gate hears of it. -/
theorem Treatments.left_of_mark (unflagged : s.flagged = false)
    (fails : x.marker.Fails (.setMarker c t)) (clears : x.clear.acts = true)
    (represents : server.Represents (s.state false true)) :
    let left := (((Stage.mark (some s.tracker)).rest c t).result x.perform server).2
    left.markerOn c t = x.marker.acts ∧ left.podFlagOn c t = x.marker.isHeard := by
  cases heard : x.marker.isHeard with
  | true =>
    obtain ⟨server', after, leads⟩ := x.exists_of_heard (.mark (some s.tracker))
      represents rfl target trivial heard
    rw [s.turn_mark] at after leads
    rw [leads, Treatment.acts_of_isHeard heard]
    exact after.on_state s target addressable unflagged
  | false =>
    obtain ⟨server', e, after, leads⟩ := x.exists_of_unheard (.mark (some s.tracker))
      represents rfl target trivial fails heard
    -- the marker may be there, and the flag is taken back all the same
    have marked : (if (x.of (.setMarker c t)).acts then (s.state false true).after (.setMarker c t)
        else s.state false true) = s.state x.marker.acts true := by
      show (if x.marker.acts then _ else _) = _
      cases x.marker.acts with
      | false => rfl
      | true => exact s.after_setMarker_state false true
    rw [marked] at after
    rw [leads]
    exact left_of_rollBack s x target addressable clears after

/-- A pod is flagged, and marked if the gate hears of that. -/
theorem Treatments.left_of_flag (unflagged : s.flagged = false)
    (flag_fails : x.flag.Fails (.setFlag c t s.tracker))
    (marker_fails : x.marker.Fails (.setMarker c t)) (clears : x.clear.acts = true)
    (represents : server.Represents (s.state false false)) :
    let left := (((Stage.flag s.tracker).rest c t).result x.perform server).2
    left.markerOn c t = (x.flag.isHeard && x.marker.acts) ∧
      left.podFlagOn c t = (if x.flag.isHeard then x.marker.isHeard else x.flag.acts) := by
  cases heard : x.flag.isHeard with
  | true =>
    obtain ⟨server', after, leads⟩ := x.exists_of_heard (.flag s.tracker)
      represents rfl addressable trivial heard
    rw [s.turn_flag] at after leads
    rw [leads]
    exact left_of_mark s x target addressable unflagged marker_fails clears after
  | false =>
    obtain ⟨server', e, after, leads⟩ := x.exists_of_unheard (.flag s.tracker)
      represents rfl addressable trivial flag_fails heard
    -- the flag may be there, and nobody takes it back
    have flagged : (if (x.of (.setFlag c t s.tracker)).acts then
        (s.state false false).after (.setFlag c t s.tracker) else s.state false false) =
        s.state false x.flag.acts := by
      show (if x.flag.acts then _ else _) = _
      cases x.flag.acts with
      | false => rfl
      | true => exact s.after_setFlag_state false false
    rw [flagged] at after
    rw [leads]
    exact after.on_state s target addressable unflagged

/-- What a decision leaves of a pod that is to be flagged and marked, however the server treats
its patches, if a flag that is taken back is gone. -/
theorem Treatments.left_on (due : s.Due) (flag_fails : x.flag.Fails (.setFlag c t s.tracker))
    (marker_fails : x.marker.Fails (.setMarker c t)) (clears : x.clear.acts = true)
    (represents : server.Represents w) :
    (x.left c t server).markerOn c t = (x.flag.isHeard && x.marker.acts) ∧
      (x.left c t server).podFlagOn c t =
        (if x.flag.isHeard then x.marker.isHeard else x.flag.acts) := by
  -- the pod and its tracking object are read
  rw [← s.state_start] at represents
  obtain ⟨server', found, fetched⟩ := x.exists_of_heard .fetch represents
    rfl target trivial rfl
  rw [s.turn_fetch due.tracks, if_neg Bool.false_ne_true] at found fetched
  obtain ⟨server'', present, looked⟩ := x.exists_of_heard (.look s.tracker)
    found rfl addressable trivial rfl
  rw [s.turn_look due.unflagged, due.eligible, if_pos rfl] at present looked
  have leads : x.left c t server =
      (((Stage.flag s.tracker).rest c t).result x.perform server'').2 :=
    congrArg Prod.snd (fetched.trans looked)
  rw [leads]
  exact left_of_flag s x target addressable due.unflagged flag_fails marker_fails clears present

end

/-- A pod that is neither marked nor flagged, on an object for which a flag is due: flag and
marker agree after a decision exactly if the flag is not lost and, once it has been heard of,
neither is the marker. -/
theorem agree_iff_heard (c : Settings) (t : Target) (tracks : c.tracks = true) (x : Treatments)
    (server : ApiServer) (w : World) (represents : server.Represents w)
    (target : (Place.pod t).Addressable) (named : w.Named c t) (pod : Pod)
    (found : w.pods.get? t = some pod) (selected : c.selects pod = true)
    (unmarked : c.markerIsOn pod = false) (unflagged : w.podFlagOn c t = false)
    (eligible : w.eligible c t = true) (flag_fails : ∀ i, x.flag.Fails (.setFlag c t i))
    (marker_fails : x.marker.Fails (.setMarker c t)) (clears : x.clear.acts = true) :
    (x.left c t server).markerOn c t = (x.left c t server).podFlagOn c t ↔
      x.flag.isLost = false ∧ (x.flag.isHeard = true → x.marker.isLost = false) := by
  have tracked := eligible
  rw [World.eligible, found, Option.any_some] at tracked
  obtain ⟨s⟩ := Candidate.exists_of_tracked found selected unmarked tracked
  have due : s.Due :=
    ⟨tracks, s.podFlagOn_eq.symm.trans unflagged, s.eligible_eq.symm.trans eligible⟩
  obtain ⟨marker, flag⟩ := x.left_on s target (named s.pod s.tracker s.found s.tracked) due
    (flag_fails s.tracker) marker_fails clears represents
  rw [marker, flag]
  cases x.flag with
  | handled => cases x.marker <;> simp [Treatment.isHeard, Treatment.acts, Treatment.isLost]
  | rejected | lost => simp [Treatment.isHeard, Treatment.acts, Treatment.isLost]

namespace Sample

/-- The answer 500. -/
def failure : ApiAnswer := .response 500 []

theorem failure_fails {x : Treatment} (substitutes : x.answer?.all (· == failure) = true)
    (call : Call) : x.Fails call := by
  intro answer given
  rw [given, Option.all_some, beq_iff_eq] at substitutes
  rw [substitutes]
  exact (Call.reply_error_iff call 500 []).mpr (.inr (.inl rfl))

/-- The pod, with its database cluster. -/
def candidate : Candidate .default db world where
  pod := fresh
  tracker := main.tracker
  object := cluster
  found := rfl
  selected := by decide
  unmarked := by decide
  tracked := trackerOf_fresh
  present := rfl

theorem candidate_due : candidate.Due := ⟨rfl, by decide, by decide⟩

/-- `setMarker` is rejected, and `clearFlag` is carried out but its answer lost. -/
def undone : Treatments := ⟨.handled, .rejected failure, .lost failure⟩

/-- The answer to `setFlag` is lost. -/
def flagLost : Treatments := ⟨.lost failure, .handled, .handled⟩

/-- The answer to `setMarker` is lost. -/
def markerLost : Treatments := ⟨.handled, .lost failure, .handled⟩

end Sample

/-- A marker that is rejected leaves no flag, also if the answer to the clear is lost. -/
theorem agree_of_rejected_marker :
    (Sample.undone.left .default Sample.db Sample.keeper).markerOn .default Sample.db =
      (Sample.undone.left .default Sample.db Sample.keeper).podFlagOn .default Sample.db :=
  (agree_iff_heard .default Sample.db rfl Sample.undone Sample.keeper Sample.world
    Sample.keeper_represents Sample.addressable_db Sample.named_world Sample.fresh rfl
    (by decide) (by decide) (by decide) (by decide)
    (fun _ => Sample.failure_fails rfl _) (Sample.failure_fails (by decide) _) rfl).mpr
    ⟨rfl, fun _ => rfl⟩

/-- A lost answer parts flag and marker: a lost flag stays without a marker, and a lost marker
without a flag. -/
theorem lost_answers_part :
    (Sample.keeper.Represents Sample.world ∧ Settings.default.selects Sample.fresh = true ∧
      Sample.world.markerOn .default Sample.db = false ∧
      Sample.world.podFlagOn .default Sample.db = false ∧
      Sample.world.eligible .default Sample.db = true) ∧
    ((Sample.flagLost.left .default Sample.db Sample.keeper).markerOn .default Sample.db = false ∧
      (Sample.flagLost.left .default Sample.db Sample.keeper).podFlagOn .default Sample.db = true) ∧
    ((Sample.markerLost.left .default Sample.db Sample.keeper).markerOn .default Sample.db = true ∧
      (Sample.markerLost.left .default Sample.db Sample.keeper).podFlagOn .default Sample.db =
        false) := by
  have left (x : Treatments) (flag : x.flag.answer?.all (· == Sample.failure) = true)
      (marker : x.marker.answer?.all (· == Sample.failure) = true) (clears : x.clear.acts = true) :=
    x.left_on Sample.candidate Sample.addressable_db Sample.addressable_main Sample.candidate_due
      (Sample.failure_fails flag _) (Sample.failure_fails marker _) clears Sample.keeper_represents
  exact ⟨⟨Sample.keeper_represents, by decide, by decide, by decide, by decide⟩,
    left Sample.flagLost (by decide) rfl rfl, left Sample.markerLost rfl (by decide) rfl⟩

end EvictionGate
