import BlobInscription.Proofs.Checkpoint.Extension
import BlobInscription.Proofs.Dialogue.Trail
import BlobInscription.Submission

namespace BlobInscription.Submission

open Dialogue (Exchange)

def Question.broadcasts : Question → Bool
  | .node (.broadcast _) => true
  | _ => false

def Question.saves : Question → Bool
  | .saveReveal .. => true
  | _ => false

/-- Whether a transaction was broadcast. -/
def sent : Exchange Answer → Bool
  | ⟨.node (.broadcast _), .ok _⟩ => true
  | _ => false

/-- What a submission is answered without asking outside is what the compressor, the reader of
addresses and the signer answer. -/
def Computed (compressor : Compressor) (signer : Authentication.Signer) : Exchange Answer → Prop
  | ⟨.compress blob, answer⟩ => answer = (compressor.compress blob).mapError .compression
  | ⟨.resolveDestination text network, answer⟩ =>
      answer = (Address.forNetwork text network).mapError .address
  | ⟨.signBlob body privateKey, answer⟩ =>
      answer = (Authentication.sign signer body privateKey).mapError .privateKey
  | _ => True

/-- What a call does to the store of checkpoints, by its answer. A save that fails leaves the store
as it was, or leaves something, such as a part of the bytes, where nothing was. -/
inductive StoreStep : Exchange Answer → CheckpointStore → CheckpointStore → Prop
  | other {x : Exchange Answer} {s : CheckpointStore} (hother : x.question.saves = false) :
      StoreStep x s s
  | saved {id : String} {raw : Bytes} {now : Int} {s s' : CheckpointStore}
      (hsave : s.save now id raw = .ok s') : StoreStep ⟨.saveReveal id raw, .ok ()⟩ s s'
  | failed {id : String} {raw : Bytes} {cause : SubmissionCause} {s : CheckpointStore} :
      StoreStep ⟨.saveReveal id raw, .error cause⟩ s s
  | torn {id : String} {raw left : Bytes} {cause : SubmissionCause} {now : Int}
      {s s' : CheckpointStore} (hsave : s.save now id left = .ok s') :
      StoreStep ⟨.saveReveal id raw, .error cause⟩ s s'

/-- What calls in a row do to the store. -/
inductive StoreRun : List (Exchange Answer) → CheckpointStore → CheckpointStore → Prop
  | nil (s : CheckpointStore) : StoreRun [] s s
  | cons {x : Exchange Answer} {history : List (Exchange Answer)} {s s' s'' : CheckpointStore}
      (hstep : StoreStep x s s') (hrest : StoreRun history s' s'') :
      StoreRun (x :: history) s s''

variable {x : Exchange Answer} {history : List (Exchange Answer)} {s s' : CheckpointStore}

theorem sent_error (q : Question) (cause : SubmissionCause) : sent ⟨q, .error cause⟩ = false := by
  cases q with
  | node call =>
      cases call with
      | broadcast => rfl
      | _ => rfl
  | _ => rfl

theorem StoreStep.extends (h : StoreStep x s s') : s.Extends s' := by
  cases h with
  | other => exact .refl s
  | saved hsave => exact CheckpointStore.extends_of_save hsave
  | failed => exact .refl s
  | torn hsave => exact CheckpointStore.extends_of_save hsave

theorem StoreStep.load_of_saved {id : String} {raw : Bytes}
    (h : StoreStep ⟨.saveReveal id raw, .ok ()⟩ s s') : s'.load id = .ok (some raw) := by
  cases h with
  | other hother => simp [Question.saves] at hother
  | saved hsave => exact CheckpointStore.load_of_save hsave

theorem StoreRun.append {later : List (Exchange Answer)} {s'' : CheckpointStore}
    (h : StoreRun history s s') (hlater : StoreRun later s' s'') :
    StoreRun (history ++ later) s s'' := by
  induction h with
  | nil => exact hlater
  | cons hstep _ ih => exact .cons hstep (ih hlater)

theorem StoreRun.of_not_saves (hquiet : ∀ x ∈ history, x.question.saves = false) :
    StoreRun history s s := by
  induction history with
  | nil => exact .nil s
  | cons x history ih =>
      obtain ⟨hx, hhistory⟩ := List.forall_mem_cons.mp hquiet
      exact .cons (.other hx) (ih hhistory)

theorem StoreRun.eq_of_not_saves (h : StoreRun history s s')
    (hquiet : ∀ x ∈ history, x.question.saves = false) : s' = s := by
  induction h with
  | nil => rfl
  | cons hstep _ ih =>
      obtain ⟨hx, hhistory⟩ := List.forall_mem_cons.mp hquiet
      rw [ih hhistory]
      cases hstep with
      | other => rfl
      | saved => simp [Question.saves] at hx
      | failed => rfl
      | torn => simp [Question.saves] at hx

end BlobInscription.Submission
