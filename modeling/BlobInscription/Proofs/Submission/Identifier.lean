import BlobInscription.Proofs.Submission.Ending
import BlobInscription.Proofs.Transaction.Signing

namespace BlobInscription

open Dialogue (Exchange Trail)
open Traversal (Succeeds)

namespace Submission

/-- The identifiers that a submission gives to its commit, at its end and where the reveal is
saved. -/
inductive Recorded (history : List (Exchange Answer)) :
    Dialogue Answer (Except SubmissionFailure Receipt) → String → Prop
  | told {outcome : Except SubmissionFailure Receipt} {id : String} (h : Tracks id outcome) :
      Recorded history (.done outcome) id
  | key {rest : Dialogue Answer (Except SubmissionFailure Receipt)} {id : String} {raw : Bytes}
      {answer : Answer (.saveReveal id raw)} (h : ⟨.saveReveal id raw, answer⟩ ∈ history) :
      Recorded history rest id

end Submission

open Submission

namespace Submitter

variable {s : Submitter} {blob : Bytes} {history : List (Exchange Answer)}
  {rest : Dialogue Answer (Except SubmissionFailure Receipt)} {order : BuildOrder}
  {pair : TransactionPair} {id : String}

theorem txidText_of_tracks {outcome : Except SubmissionFailure Receipt}
    (htrail : Trail (s.submit blob).run history (.done outcome))
    (hbuilt : ⟨.build order, .ok pair⟩ ∈ history) (h : Tracks id outcome) :
    pair.commit.txidText = .ok id := by
  obtain ⟨c, calls, r, hends, hstands⟩ := exists_ends_of_trail htrail
  have hagenda := hends.prefix_agenda
  rcases hstands with ⟨rfl, rfl⟩ | ⟨made, call, later, cause, rfl, rfl, rfl⟩
  · rw [(pair_of_mem_made hagenda hbuilt).1]
    cases hends with
    | unnamedCommit | unwrittenReveal => exact h.elim
    | unwrittenCommit =>
        rw [tracks_ofCause_iff] at h
        cases h.2
    | receipt hcommitId =>
        cases h
        exact hcommitId
  · have hcall := snoc_prefix hagenda
    obtain ⟨rfl, hlength⟩ := pair_of_mem_made ((List.prefix_append _ _).trans hagenda)
      (mem_made_of_mem_failing hbuilt)
    rw [Call.failure, tracks_ofCause_iff, commitId?_of_getElem? (getElem?_length_agenda hcall)] at h
    split at h
    · cases h.2
      exact hends.txidText_commit (by simp; omega)
    · cases h.2

/-- Whatever is recorded of a commit is the identifier of the unsigned transaction. -/
theorem txidText_of_recorded (htrail : Trail (s.submit blob).run history rest)
    (hbuilt : ⟨.build order, .ok pair⟩ ∈ history) (h : Recorded history rest id) :
    pair.commit.txidText = .ok id := by
  cases h with
  | told h => exact txidText_of_tracks htrail hbuilt h
  | key h =>
      obtain ⟨c, -, hgenuine, hanswered⟩ := exists_contributions_of_trail htrail
      rw [pair_of_mem_agenda (hanswered _ _ hbuilt)]
      exact (hgenuine _ h).1

/-- A submission records the identifier of the unsigned commit, also when what it broadcasts is the
commit with the scripts and witnesses that the wallet has filled in. This is the identifier of what
it broadcasts exactly when the wallet leaves the scripts as they are, unless the two encodings
collide. -/
theorem recorded_iff_of_signed (s : Submitter) (blob : Bytes)
    (htrail : Trail (s.submit blob).run history rest)
    (hbuilt : ⟨.build order, .ok pair⟩ ∈ history) {unsigned text : String} {signed : Transaction}
    (hsigned : ⟨.node (.sign unsigned), .ok (.text text)⟩ ∈ history)
    (htext : signed.toHex = .ok text) (hblank : signed.blank = pair.commit.blank) :
    ∃ commitId signedId raw signedRaw,
      pair.commit.txidText = .ok commitId ∧ signed.txidText = .ok signedId ∧
      pair.commit.serializeStripped = .ok raw ∧ signed.serializeStripped = .ok signedRaw ∧
      (∀ x, history.find? (·.question.broadcasts) = some x →
        x.question = .node (.broadcast (.text text))) ∧
      (∀ id, Recorded history rest id → id = commitId) ∧
      (signed.scriptSigs = pair.commit.scriptSigs → commitId = signedId) ∧
      (commitId = signedId →
        signed.scriptSigs = pair.commit.scriptSigs ∨ Sha256.Collides [raw, signedRaw]) := by
  obtain ⟨c, hasked, hgenuine, hanswered⟩ := exists_contributions_of_trail htrail
  obtain rfl : pair = c.pair := pair_of_mem_agenda (hanswered _ _ hbuilt)
  have hcommit : .text text = c.signedCommit := signedCommit_of_mem_agenda (hanswered _ _ hsigned)
  have hunsigned : c.pair.commit.toHex = .ok unsigned := hgenuine _ hsigned
  obtain ⟨full, hfull, -⟩ := Traversal.map_eq_ok.mp hunsigned
  obtain ⟨signedFull, hsignedFull, -⟩ := Traversal.map_eq_ok.mp htext
  obtain ⟨commitId, hcommitId⟩ := Transaction.succeeds_txidText_of_serialize ⟨full, hfull⟩
  obtain ⟨signedId, hsignedId⟩ :=
    Transaction.succeeds_txidText_of_serialize ⟨signedFull, hsignedFull⟩
  obtain ⟨raw, hraw, -⟩ := Transaction.txidText_eq_ok_iff.mp hcommitId
  obtain ⟨signedRaw, hsignedRaw, -⟩ := Transaction.txidText_eq_ok_iff.mp hsignedId
  refine ⟨commitId, signedId, raw, signedRaw, hcommitId, hsignedId, hraw, hsignedRaw, ?_, ?_, ?_,
    ?_⟩
  · intro x hx
    rw [hcommit]
    exact question_of_find?_broadcasts hasked hx
  · intro id hid
    exact Except.ok.inj ((txidText_of_recorded htrail hbuilt hid).symm.trans hcommitId)
  · intro hscripts
    have htexts := Transaction.txidText_congr hblank hscripts
    exact Except.ok.inj (hcommitId.symm.trans (htexts.symm.trans hsignedId))
  · rintro rfl
    by_cases hcollides : Sha256.Collides [raw, signedRaw]
    · exact .inr hcollides
    · exact .inl (Transaction.scriptSigs_eq_of_txidText hblank hraw hsignedRaw hcollides hcommitId
        hsignedId)

end Submitter

namespace Specimen

/-- A commit with one input, which a wallet has signed in this way. -/
def spending (scriptSig : Bytes) (witness : List Bytes) : Transaction where
  version := 2
  inputs := [{ prevout := ⟨List.replicate 32 0xab, 1⟩, scriptSig, witness }]
  outputs := [⟨99990000, [0x51]⟩]

def unsignedText : String :=
  "0200000001abababababababababababababababababababababababababababababababab0100000000ffffffff" ++
    "01f0b9f50500000000015100000000"

def commitId : String :=
  "567a097826d97623d6b2a6c28960749ee04d748f56d2ab94742cce194e74db28"

/-- The commit that a wallet has signed as `text`, with the node's answer to it. -/
def signing (text reply : String) : Contributions :=
  { inscription ⟨spending [] [], hollow 0⟩ with
    commitId
    unsigned := unsignedText
    signedCommit := .text text
    commitReply := .text reply
    raw := contributions.raw
    revealReply := .text contributions.commitId }

theorem txidText_spending : (spending [] []).txidText = .ok commitId := by
  rw [Transaction.txidText, Transaction.txid, Sha256.double_eq]
  decide +kernel

theorem follows_signing (text reply : String) :
    Follows (inscriber.submit [1]).run (inscriber.agenda [1] (signing text reply))
      (.ok ⟨commitId, .text contributions.commitId⟩) := by
  have hunsigned : (spending [] []).toHex = .ok unsignedText := by decide +kernel
  exact Submitter.follows_submit_iff.mpr ⟨signing text reply,
    .receipt txidText_spending hunsigned serialize_contributions⟩

theorem mem_signing (text reply : String) {k : Nat} {call : Call}
    (h : (inscriber.agenda [1] (signing text reply))[k]? = some call) :
    call.exchange ∈ (inscriber.agenda [1] (signing text reply)).map Call.exchange :=
  List.mem_map_of_mem (List.mem_of_getElem? h)

end Specimen

namespace Submitter

open Specimen (inscriber spending signing)

theorem recorded_iff_of_signed_witness :
    let text := "02000000000101abababababababababababababababababababababababababababababababab01" ++
      "00000000ffffffff01f0b9f50500000000015101010700000000"
    let history := (inscriber.agenda [1] (signing text Specimen.commitId)).map Call.exchange
    let receipt : Receipt := ⟨Specimen.commitId, .text Specimen.contributions.commitId⟩
    Trail (inscriber.submit [1]).run history (.done (.ok receipt)) ∧
      (spending [] [[7]]).toHex = .ok text ∧ (spending [] [[7]]).blank = (spending [] []).blank ∧
      (∃ order, ⟨.build order, .ok ⟨spending [] [], Specimen.hollow 0⟩⟩ ∈ history) ∧
      (∃ unsigned, ⟨.node (.sign unsigned), .ok (.text text)⟩ ∈ history) ∧
      (spending [] [[7]]).txidText = .ok receipt.commitId := by
  intro text history receipt
  have htrail : Trail (inscriber.submit [1]).run history (.done (.ok receipt)) :=
    (Specimen.follows_signing text Specimen.commitId).trail_done
  have hbuilt := Specimen.mem_signing text Specimen.commitId (k := 7) rfl
  have hsigned := Specimen.mem_signing text Specimen.commitId (k := 8) rfl
  have htext : (spending [] [[7]]).toHex = .ok text := by decide +kernel
  refine ⟨htrail, htext, rfl, ⟨_, hbuilt⟩, ⟨_, hsigned⟩, ?_⟩
  obtain ⟨commitId, signedId, -, -, -, hsignedId, -, -, -, hrecorded, hkept, -⟩ :=
    recorded_iff_of_signed inscriber [1] htrail hbuilt hsigned htext rfl
  obtain rfl : receipt.commitId = commitId := hrecorded _ (.told rfl)
  rw [hsignedId, hkept rfl]

/-- With a wallet that fills in a script, a submission tells of a transaction that is not the one it
has broadcast. -/
theorem submit_names_unsigned :
    ∃ (history : List (Exchange Answer)) (receipt : Receipt) (order : BuildOrder)
      (reveal : Transaction) (unsigned text : String) (signed : Transaction) (signedId : String)
      (raw : Bytes),
      Trail (inscriber.submit [1]).run history (.done (.ok receipt)) ∧
      (∀ x ∈ history, Computed Specimen.plain Ecdsa.sign x) ∧
      ⟨.build order, .ok ⟨spending [] [], reveal⟩⟩ ∈ history ∧
      ⟨.node (.sign unsigned), .ok (.text text)⟩ ∈ history ∧
      signed.toHex = .ok text ∧ signed.blank = (spending [] []).blank ∧
      signed.txidText = .ok signedId ∧
      ⟨.node (.broadcast (.text text)), .ok (.text signedId)⟩ ∈ history ∧
      ⟨.saveReveal receipt.commitId raw, .ok ()⟩ ∈ history ∧ receipt.commitId ≠ signedId := by
  let text := "0200000001abababababababababababababababababababababababababababababababab01000000" ++
    "020107ffffffff01f0b9f50500000000015100000000"
  let signedId := "f3c7f866a173be5751e29f392bfbecbbd3ea60495ebd460e1e170c3e869c9a4e"
  have htext : (spending [1, 7] []).toHex = .ok text := by decide +kernel
  have hsignedId : (spending [1, 7] []).txidText = .ok signedId := by
    rw [Transaction.txidText, Transaction.txid, Sha256.double_eq]
    decide +kernel
  refine ⟨_, _, _, _, _, text, spending [1, 7] [], signedId, _,
    (Specimen.follows_signing text signedId).trail_done, ?_, Specimen.mem_signing _ _ (k := 7) rfl,
    Specimen.mem_signing _ _ (k := 8) rfl, htext, rfl, hsignedId, Specimen.mem_signing _ _ (k := 9) rfl,
    Specimen.mem_signing _ _ (k := 10) rfl, by decide⟩
  intro x hx
  obtain ⟨call, hcall, rfl⟩ := List.mem_map.mp hx
  exact Specimen.computed_inscription ⟨rfl, rfl, rfl⟩ hcall

end Submitter

end BlobInscription
