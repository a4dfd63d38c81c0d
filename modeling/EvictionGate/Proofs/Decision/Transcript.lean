import EvictionGate.Proofs.Decision.Dialogue

/-!
# Transcripts of decisions

What a decision comes to depends on the replies it hears and on nothing else. A list of calls
with their replies leads a decision to a verdict along one path of its tree (`Leads`), and a
cluster gives replies as its state has it (`Answers`). A run goes along the one path for which
both hold.

Results:
1. `exists_transcript`: every run has a transcript, which leads to its verdict.
2. `result_of_leads`: replies that the cluster gives and that lead to a verdict are the run.
-/

namespace EvictionGate

variable {σ : Type}

/-- A cluster that appends every call with its reply to a list. -/
def noting (perform : (call : Call) → σ → Reply call × Log × σ) (call : Call)
    (s : σ × List Heard) : Reply call × Log × (σ × List Heard) :=
  ((perform call s.1).1, (perform call s.1).2.1,
    ((perform call s.1).2.2, s.2 ++ [⟨call, (perform call s.1).1⟩]))

/-- `Answers perform s heard s'`: `heard` are calls made one after another from the state `s` on,
with the replies of `perform`, and `s'` is the state after them. -/
inductive Answers (perform : (call : Call) → σ → Reply call × Log × σ) :
    σ → List Heard → σ → Prop
  | nil {s : σ} : Answers perform s [] s
  | cons {s s' : σ} {call : Call} {heard : List Heard} :
      Answers perform (perform call s).2.2 heard s' →
      Answers perform s (⟨call, (perform call s).1⟩ :: heard) s'

namespace Decision

/-- `d.Leads heard v`: the calls that `d` makes upon the replies `heard` are those of `heard`, and
its verdict is `v`. -/
def Leads : Decision → List Heard → Verdict → Prop
  | .verdict u, heard, v => heard = [] ∧ v = u
  | .log _ next, heard, v => next.Leads heard v
  | .call asked next, heard, v =>
    ∃ reply rest, heard = ⟨asked, reply⟩ :: rest ∧ (next reply).Leads rest v

variable {perform : (call : Call) → σ → Reply call × Log × σ}

variable (perform) in
theorem exists_transcript (d : Decision) (s : σ) (before : List Heard) :
    ∃ heard s', (d.result (noting perform) (s, before)).2 = (s', before ++ heard) ∧
      d.Leads heard (d.result (noting perform) (s, before)).1 ∧ Answers perform s heard s' := by
  induction d generalizing s before with
  | verdict v => exact ⟨[], s, by rw [List.append_nil]; rfl, ⟨rfl, rfl⟩, .nil⟩
  | log line next ih => exact ih s before
  | call asked next ih =>
    rw [result_of_waiting rfl]
    obtain ⟨heard, s', ends, leads, answers⟩ := ih (perform asked s).1 (perform asked s).2.2
      (before ++ [⟨asked, (perform asked s).1⟩])
    refine ⟨⟨asked, (perform asked s).1⟩ :: heard, s', ?_, ⟨_, heard, rfl, leads⟩, .cons answers⟩
    rw [List.append_cons]
    exact ends

theorem result_of_leads {d : Decision} {heard : List Heard} {v : Verdict} {s s' : σ}
    (leads : d.Leads heard v) (answers : Answers perform s heard s') (before : List Heard) :
    d.result (noting perform) (s, before) = (v, (s', before ++ heard)) := by
  induction d generalizing s before heard with
  | verdict u =>
    obtain ⟨rfl, rfl⟩ := leads
    cases answers
    rw [List.append_nil]
    rfl
  | log line next ih => exact ih leads answers before
  | call asked next ih =>
    obtain ⟨reply, rest, rfl, leads⟩ := leads
    cases answers with
    | cons answers =>
      rw [result_of_waiting rfl, List.append_cons]
      exact ih _ leads answers _

variable (perform) in
/-- A run is the one transcript that the cluster gives and that leads to a verdict. -/
theorem result_noting_iff (d : Decision) (s s' : σ) (heard : List Heard) (v : Verdict) :
    d.result (noting perform) (s, []) = (v, (s', heard)) ↔
      d.Leads heard v ∧ Answers perform s heard s' := by
  constructor
  · intro ends
    obtain ⟨heard', s'', leaves, leads, answers⟩ := exists_transcript perform d s []
    rw [ends] at leaves leads
    cases leaves
    exact ⟨leads, answers⟩
  · rintro ⟨leads, answers⟩
    exact result_of_leads leads answers []

end Decision

end EvictionGate
