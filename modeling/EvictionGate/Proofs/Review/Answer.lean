import EvictionGate.Proofs.Review.Accepted
import EvictionGate.Proofs.Review.FailsClosed

/-!
# The answer to a question

A review that is accepted is answered with one JSON text. It bears the `uid` of the request,
whatever text that is and however it has been written, and says what the verdict is. So an
answer can be told from every other one by its bytes.

Results:
1. `IsAnswer.unique`: what an answer is about, and what it says.
2. `Verdict.isAnswerText_responseText`: the text of an answer is the answer.
3. `Webhook.answer_to_question`: the answer to an accepted review.
-/

namespace EvictionGate

open Json

theorem Denial.message_injective : Function.Injective Denial.message := by
  intro d d' same
  cases d <;> cases d' <;> first | rfl | exact absurd same (by decide)

/-- `IsAnswer uid v w`: the value `w` is an admission review whose response has the `uid`, is
allowed exactly if `v` is `allow`, and has a status exactly if `v` is a denial, with its code,
message and reason. -/
structure IsAnswer (uid : String) (v : Verdict) (w : Value) : Prop where
  apiVersion : w.at? ["apiVersion"] = some (.string "admission.k8s.io/v1")
  kind : w.at? ["kind"] = some (.string "AdmissionReview")
  uid : w.at? ["response", "uid"] = some (.string uid)
  allowed : w.at? ["response", "allowed"] = some (.bool (v = .allow))
  status : w.at? ["response", "status"] = match v with
    | .allow => none
    | .deny d => some (.object [("code", .ofNat d.code), ("message", .string d.message),
        ("reason", .string d.reason.name), ("status", .string "Failure")])

/-- The bytes are a JSON text whose value `IsAnswer`. -/
def IsAnswerText (bs : List UInt8) (uid : String) (v : Verdict) : Prop :=
  ∃ r w, IsText r bs ∧ Means r w ∧ IsAnswer uid v w

theorem IsAnswer.unique {uid uid' : String} {v v' : Verdict} {w : Value}
    (first : IsAnswer uid v w) (second : IsAnswer uid' v' w) : uid = uid' ∧ v = v' := by
  constructor
  · have same := first.uid.symm.trans second.uid
    exact Value.string.inj (Option.some.inj same)
  · have same := first.status.symm.trans second.status
    cases v with
    | allow =>
      cases v' with
      | allow => rfl
      | deny => cases same
    | deny d =>
      cases v' with
      | allow => cases same
      | deny d' =>
        simp only [Option.some.injEq, Value.object.injEq, List.cons.injEq, Prod.mk.injEq,
          Value.string.injEq, true_and] at same
        rw [Denial.message_injective same.2.1]

theorem IsAnswerText.unique {bs : List UInt8} {uid uid' : String} {v v' : Verdict}
    (first : IsAnswerText bs uid v) (second : IsAnswerText bs uid' v') : uid = uid' ∧ v = v' := by
  obtain ⟨r, w, text, means, answer⟩ := first
  obtain ⟨r', w', text', means', answer'⟩ := second
  have same := (read?_eq_some_iff.mpr text).symm.trans (read?_eq_some_iff.mpr text')
  cases same
  exact answer.unique (means.unique means' ▸ answer')

theorem Verdict.isAnswer_of_decoded {uid : String} {v : Verdict} {w : Value}
    (decoded : Value.ofBytes? (Text.bytes (v.responseText uid)) = some w) : IsAnswer uid v w := by
  rw [ofBytes?_responseText] at decoded
  obtain rfl := Option.some.inj decoded
  cases v <;> constructor <;>
    simp [Value.at?, Value.get?, Value.members, Dict.get?, isAllowed, denial?]

theorem Verdict.isAnswerText_responseText (uid : String) (v : Verdict) :
    IsAnswerText (Text.bytes (v.responseText uid)) uid v := by
  obtain ⟨w, decoded⟩ : ∃ w, Value.ofBytes? (Text.bytes (v.responseText uid)) = some w :=
    ⟨_, ofBytes?_responseText uid v⟩
  have answer := isAnswer_of_decoded decoded
  rw [Value.ofBytes?, Schema.ofBytes?, Option.bind_eq_some_iff] at decoded
  obtain ⟨r, read, kept⟩ := decoded
  exact ⟨r, w, read?_eq_some_iff.mp read, (Raw.keep?_eq_some_iff.mp kept).1, answer⟩

/-- The bytes are a JSON text whose request has the `uid`. -/
def AsksUnder (body : List UInt8) (uid : String) : Prop :=
  ∃ r q u, IsText r body ∧ r.given ["request"] "request" = some q ∧
    q.given AdmissionRequest.fieldNames "uid" = some u ∧ MeansText u uid

/-- A review that is accepted asks under its `uid`, and under no other one. -/
theorem asksUnder_iff {body : List UInt8} {review : EvictionReview}
    (accepted : EvictionReview.read body = .ok review) {uid : String} :
    AsksUnder body uid ↔ uid = review.uid := by
  have found := EvictionReview.accepted_or_fails body
  rw [accepted] at found
  cases found with
  | intro written =>
    obtain ⟨r, text, -, asked⟩ := written
    obtain ⟨q, given, -, written⟩ := asked.exists_of_some
    obtain ⟨u, givenUid, means⟩ := written.uid
    constructor
    · rintro ⟨r', q', u', text', given', givenUid', means'⟩
      cases (read?_eq_some_iff.mpr text).symm.trans (read?_eq_some_iff.mpr text')
      cases given.symm.trans given'
      cases givenUid.symm.trans givenUid'
      exact Value.string.inj (means'.unique means)
    · rintro rfl
      exact ⟨r, q, u, text, given, givenUid, means⟩

namespace Webhook

/-- The verdict of the decision that a review asks for; `timedOut` if it comes to none. -/
def verdictOf {σ : Type} (send : Sender σ) (c : Settings) (timeout : Nat) (review : EvictionReview)
    (s : σ) : Verdict :=
  ((decideEviction c review.target).runWithin (send review.dryRun) timeout s).verdict.getD
    (.deny .timedOut)

/-- An accepted review is answered by a JSON text that bears its `uid`, however that has been
written, and the verdict. No two answers have the same bytes. -/
theorem answer_to_question {σ : Type} (send : Sender σ) (c : Settings) (timeout : Nat)
    (r : Http.Request) (s : σ) {body : List UInt8} {review : EvictionReview}
    (routed : route r = .readBody) (accepted : EvictionReview.read body = .ok review) :
    (∀ uid, AsksUnder body uid ↔ uid = review.uid) ∧
      (∃ text, (handle send c timeout r (.ok body) s).response = .json text ∧
        IsAnswerText (Text.bytes text) review.uid (verdictOf send c timeout review s)) ∧
      (∀ v, ∃ text, (conclude review (some v)).2 = .json text ∧
        IsAnswerText (Text.bytes text) review.uid v) ∧
      ∀ uid uid' v v', Text.bytes (Verdict.responseText uid v) =
        Text.bytes (Verdict.responseText uid' v') → uid = uid' ∧ v = v' := by
  have decides : step r (.ok body) = .decide review := by
    simp only [step, routed, withBody, accepted]
  refine ⟨fun _ => asksUnder_iff accepted, ?_, fun v => ⟨_, rfl, v.isAnswerText_responseText _⟩, ?_⟩
  · refine ⟨_, ?_, Verdict.isAnswerText_responseText _ _⟩
    simp only [handle, decides, verdictOf]
    cases ((decideEviction c review.target).runWithin (send review.dryRun) timeout s).verdict <;>
      rfl
  · intro uid uid' v v' same
    have second := v'.isAnswerText_responseText uid'
    rw [← same] at second
    exact (v.isAnswerText_responseText uid).unique second

end Webhook

namespace Sample

/-- A review with a surrogate pair, a control and a quote in its `uid`. -/
def escaped : List UInt8 :=
  Text.bytes "[[\"\\ud83d\\ude00\\n\\\"\", \"db-0\", \"prod\", null, \x7b\x7d]]"

theorem read_escaped : EvictionReview.read escaped = .ok ⟨"😀\n\"", db, false⟩ := by
  decide +kernel

end Sample

/-- A `uid` that is written in escapes comes back as the text that it is. -/
theorem answer_to_escaped :
    (Webhook.route Sample.reviewRequest = .readBody ∧
      EvictionReview.read Sample.escaped = .ok ⟨"😀\n\"", Sample.db, false⟩) ∧
    ∃ text, (Webhook.handle (Sample.answering Sample.nobody).send .default 1000
        Sample.reviewRequest (.ok Sample.escaped) ((), [])).response = .json text ∧
      ∃ v, IsAnswerText (Text.bytes text) "😀\n\"" v := by
  have routed : Webhook.route Sample.reviewRequest = .readBody := by decide
  have accepted := Sample.read_escaped
  obtain ⟨-, ⟨text, answered, answers⟩, -⟩ := Webhook.answer_to_question
    (Sample.answering Sample.nobody).send .default 1000 Sample.reviewRequest ((), []) routed
    accepted
  exact ⟨⟨routed, accepted⟩, text, answered, _, answers⟩

end EvictionGate
