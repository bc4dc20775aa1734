import BlobInscription.Proofs.Dialogue.Trail
import BlobInscription.Submission
import Mathlib.Tactic.Common

/-!
Submissions step by step. Each question of a submission is asked at a step, and a failing answer
ends it at once. So whatever is asked and answered is a part of a run in which every call succeeds,
up to at most one failing call at its end.
-/

namespace BlobInscription.Submission

open Dialogue (Exchange Trail)

variable {α β : Type}

/-- A collaborator's call that succeeds, and what a failure would be reported with. -/
structure Call where
  step : SubmissionStep
  commitId? : Option String := none
  question : Question
  value : Value question

namespace Call

def exchange (c : Call) : Exchange Answer :=
  ⟨c.question, .ok c.value⟩

/-- How the submission ends when the call fails instead. -/
def failure (c : Call) (cause : SubmissionCause) : SubmissionFailure :=
  .ofCause c.step c.commitId? cause

end Call

/-- Every question belongs to a step, which a failing answer is reported at. -/
inductive Disciplined : Dialogue Answer (Except SubmissionFailure α) → Prop
  | done (r : Except SubmissionFailure α) : Disciplined (.done r)
  | ask (step : SubmissionStep) (commitId? : Option String) {question : Question}
      {next : Answer question → Dialogue Answer (Except SubmissionFailure α)}
      (hfail : ∀ cause, next (.error cause) = .done (.error (.ofCause step commitId? cause)))
      (hnext : ∀ value, Disciplined (next (.ok value))) : Disciplined (.ask question next)

/-- The calls of a run in which every call succeeds, and its result. -/
inductive Follows : Dialogue Answer (Except SubmissionFailure α) → List Call →
    Except SubmissionFailure α → Prop
  | done (r : Except SubmissionFailure α) : Follows (.done r) [] r
  | ask {step : SubmissionStep} {commitId? : Option String} {question : Question}
      {next : Answer question → Dialogue Answer (Except SubmissionFailure α)}
      {value : Value question} {calls : List Call} {r : Except SubmissionFailure α}
      (hfail : ∀ cause, next (.error cause) = .done (.error (.ofCause step commitId? cause)))
      (hnext : Follows (next (.ok value)) calls r) :
      Follows (.ask question next) (⟨step, commitId?, question, value⟩ :: calls) r

theorem nonempty_value (question : Question) : Nonempty (Value question) := by
  cases question with
  | compress => exact ⟨[]⟩
  | selectPoint => exact ⟨⟨"", 0, 0⟩⟩
  | resolveDestination => exact ⟨⟨"", .base58Main, []⟩⟩
  | signBlob => exact ⟨⟨[], []⟩⟩
  | build => exact ⟨⟨⟨0, [], [], 0⟩, ⟨0, [], [], 0⟩⟩⟩
  | saveReveal => exact ⟨()⟩
  | node call =>
      cases call with
      | blockCount => exact ⟨0⟩
      | blockHash | sign | broadcast => exact ⟨Datum.null⟩
      | block => exact ⟨(default : Block)⟩
      | changeAddresses => exact ⟨(Datum.null, Datum.null)⟩
      | unspentOutputs => exact ⟨[]⟩
      | feeRate => exact ⟨(default : Binary64)⟩

variable {d rest : Dialogue Answer (Except SubmissionFailure α)} {history : List (Exchange Answer)}

theorem Disciplined.exists_follows (h : Disciplined d) : ∃ calls r, Follows d calls r := by
  induction h with
  | done r => exact ⟨[], r, .done r⟩
  | @ask step commitId? question next hfail _ ih =>
      obtain ⟨value⟩ := nonempty_value question
      obtain ⟨calls, r, hcalls⟩ := ih value
      exact ⟨_, r, .ask hfail hcalls⟩

theorem Follows.pending_prefix {calls : List Call} {r : Except SubmissionFailure α}
    (h : Follows d calls r) : d.pending <+: calls.map Call.question := by
  cases h with
  | done => exact List.prefix_refl _
  | ask => exact ⟨_, rfl⟩

/-- What has been asked and answered are the calls of a run in which every call succeeds, up to
where the submission stands, or up to a call that failed. -/
theorem Disciplined.exists_calls_of_trail (hd : Disciplined d) (h : Trail d history rest) :
    ∃ made todo r, Follows d (made ++ todo) r ∧
      ((history = made.map Call.exchange ∧ Follows rest todo r) ∨
        ∃ call later cause, todo = call :: later ∧
          history = made.map Call.exchange ++ [⟨call.question, .error cause⟩] ∧
          rest = .done (.error (call.failure cause))) := by
  induction h with
  | nil d =>
      obtain ⟨calls, r, hcalls⟩ := hd.exists_follows
      exact ⟨[], calls, r, hcalls, .inl ⟨rfl, hcalls⟩⟩
  | @cons question next answer history rest htrail ih =>
      cases hd with
      | ask step commitId? hfail hnext =>
          cases answer with
          | error cause =>
              -- nothing follows; any value stands in for the answer that did not come
              rw [hfail, Dialogue.trail_done] at htrail
              obtain ⟨rfl, rfl⟩ := htrail
              obtain ⟨value⟩ := nonempty_value question
              obtain ⟨calls, r, hcalls⟩ := (hnext value).exists_follows
              exact ⟨[], _, r, .ask hfail hcalls,
                .inr ⟨⟨step, commitId?, question, value⟩, calls, cause, rfl, rfl, rfl⟩⟩
          | ok value =>
              obtain ⟨made, todo, r, hcalls, hstands⟩ := ih (hnext value)
              refine ⟨⟨step, commitId?, question, value⟩ :: made, todo, r, .ask hfail hcalls, ?_⟩
              rcases hstands with ⟨rfl, hrest⟩ | ⟨call, later, cause, htodo, rfl, hrest⟩
              · exact .inl ⟨rfl, hrest⟩
              · exact .inr ⟨call, later, cause, htodo, rfl, hrest⟩

theorem Follows.trail {made todo : List Call} {r : Except SubmissionFailure α}
    (h : Follows d (made ++ todo) r) :
    ∃ rest, Trail d (made.map Call.exchange) rest ∧ Follows rest todo r := by
  induction made generalizing d with
  | nil => exact ⟨d, .nil d, h⟩
  | cons call made ih =>
      cases h with
      | ask hfail hnext =>
          obtain ⟨rest, htrail, hrest⟩ := ih hnext
          exact ⟨rest, .cons htrail, hrest⟩

theorem Follows.trail_done {calls : List Call} {r : Except SubmissionFailure α}
    (h : Follows d calls r) : Trail d (calls.map Call.exchange) (.done r) := by
  have hall : Follows d (calls ++ []) r := by rwa [List.append_nil]
  obtain ⟨rest, htrail, hrest⟩ := hall.trail
  cases hrest with
  | done => exact htrail

/-- Every call of a run in which all succeed can also fail. -/
theorem Follows.trail_failing {made later : List Call} {call : Call}
    {r : Except SubmissionFailure α} (h : Follows d (made ++ call :: later) r)
    (cause : SubmissionCause) :
    Trail d (made.map Call.exchange ++ [⟨call.question, .error cause⟩])
      (.done (.error (call.failure cause))) := by
  obtain ⟨rest, htrail, hrest⟩ := h.trail
  cases hrest with
  | ask hfail hnext =>
      refine htrail.append (.cons ?_)
      rw [hfail]
      exact .nil _

section Rules

variable {calls : List Call} {r : Except SubmissionFailure β}

theorem run_atStep_bind (step : SubmissionStep) (question : Question) (commitId? : Option String)
    (f : Value question → Submission β) :
    (atStep step question commitId? >>= f).run = .ask question fun answer =>
      match answer with
      | .ok value => (f value).run
      | .error cause => .done (.error (.ofCause step commitId? cause)) := by
  refine congrArg (Dialogue.ask question) (funext fun answer => ?_)
  cases answer with
  | error cause => rfl
  | ok value => rfl

theorem ofCause_inj {step step' : SubmissionStep} {id? id?' : Option String}
    (h : ∀ cause, SubmissionFailure.ofCause step id? cause = .ofCause step' id?' cause) :
    step = step' ∧ id? = id?' := by
  have hnothing := h .nothingToSpend
  simp only [SubmissionFailure.ofCause, SubmissionCause.isMismatch, Bool.false_eq_true, if_false,
    SubmissionFailure.atStep.injEq, true_and] at hnothing
  exact hnothing

theorem follows_atStep_bind {step : SubmissionStep} {question : Question}
    {commitId? : Option String} {f : Value question → Submission β} :
    Follows (atStep step question commitId? >>= f).run calls r ↔
      ∃ value later, calls = ⟨step, commitId?, question, value⟩ :: later ∧
        Follows (f value).run later r := by
  rw [run_atStep_bind]
  constructor
  · intro h
    cases h with
    | @ask step' commitId?' _ _ value later _ hfail hnext =>
        obtain ⟨rfl, rfl⟩ := ofCause_inj fun cause => by simpa using hfail cause
        exact ⟨value, later, rfl, hnext⟩
  · rintro ⟨value, later, rfl, hlater⟩
    exact .ask (fun _ => rfl) hlater

theorem run_encoded_bind (result : Except Wire.WidthError α) (f : α → Submission β) :
    (encoded result >>= f).run =
      match result with
      | .ok a => (f a).run
      | .error e => .done (.error (.width e)) := by
  cases result with
  | error e => rfl
  | ok a => rfl

theorem run_encodedAt_bind (step : SubmissionStep) (result : Except Wire.WidthError α)
    (f : α → Submission β) :
    (encodedAt step result >>= f).run =
      match result with
      | .ok a => (f a).run
      | .error e => .done (.error (.ofCause step none (.width e))) := by
  cases result with
  | error e => rfl
  | ok a => rfl

theorem follows_done {r' : Except SubmissionFailure β} :
    Follows (.done r') calls r ↔ calls = [] ∧ r = r' := by
  constructor
  · intro h
    cases h
    exact ⟨rfl, rfl⟩
  · rintro ⟨rfl, rfl⟩
    exact .done _

theorem follows_encoded_bind {result : Except Wire.WidthError α} {f : α → Submission β} :
    Follows (encoded result >>= f).run calls r ↔
      (∃ a, result = .ok a ∧ Follows (f a).run calls r) ∨
        ∃ e, result = .error e ∧ calls = [] ∧ r = .error (.width e) := by
  rw [run_encoded_bind]
  cases result with
  | error e => simp [follows_done]
  | ok a => simp

theorem follows_encodedAt_bind {step : SubmissionStep} {result : Except Wire.WidthError α}
    {f : α → Submission β} :
    Follows (encodedAt step result >>= f).run calls r ↔
      (∃ a, result = .ok a ∧ Follows (f a).run calls r) ∨
        ∃ e, result = .error e ∧ calls = [] ∧ r = .error (.ofCause step none (.width e)) := by
  rw [run_encodedAt_bind]
  cases result with
  | error e => simp [follows_done]
  | ok a => simp

theorem disciplined_atStep_bind {step : SubmissionStep} {question : Question}
    {commitId? : Option String} {f : Value question → Submission β}
    (h : ∀ value, Disciplined (f value).run) :
    Disciplined (atStep step question commitId? >>= f).run := by
  rw [run_atStep_bind]
  exact .ask step commitId? (fun _ => rfl) h

theorem disciplined_encoded_bind {result : Except Wire.WidthError α} {f : α → Submission β}
    (h : ∀ a, Disciplined (f a).run) : Disciplined (encoded result >>= f).run := by
  rw [run_encoded_bind]
  cases result with
  | error e => exact .done _
  | ok a => exact h a

theorem disciplined_encodedAt_bind {step : SubmissionStep} {result : Except Wire.WidthError α}
    {f : α → Submission β} (h : ∀ a, Disciplined (f a).run) :
    Disciplined (encodedAt step result >>= f).run := by
  rw [run_encodedAt_bind]
  cases result with
  | error e => exact .done _
  | ok a => exact h a

end Rules

end BlobInscription.Submission
