import BlobInscription.Proofs.Hash.Sha256
import BlobInscription.Proofs.Submission.Discipline
import BlobInscription.Proofs.Submission.Effects
import BlobInscription.Proofs.Transaction.Encoding
import Mathlib.Tactic.IntervalCases

namespace BlobInscription

open Dialogue (Exchange Trail)

namespace Submission

/-- What the collaborators contribute to a submission, and the encodings of its transactions. -/
structure Contributions where
  body : Bytes
  changeAddresses : Datum × Datum
  outputs : List UnspentOutput
  point : SatPoint
  destination : Address
  signed : Authentication.Signed
  rate : Binary64
  pair : TransactionPair
  commitId : String := ""
  unsigned : String := ""
  signedCommit : Datum := .null
  commitReply : Datum := .null
  raw : Bytes := []
  revealReply : Datum := .null

/-- What a question tells of a transaction is the encoding of that transaction. -/
def Contributions.Genuine (c : Contributions) : Question → Prop
  | .node (.sign unsigned) => c.pair.commit.toHex = .ok unsigned
  | .saveReveal commitId raw =>
      c.pair.commit.txidText = .ok commitId ∧ c.pair.reveal.serialize = .ok raw
  | _ => True

end Submission

open Submission

namespace Submitter

/-- The calls of a submission, in order. -/
def agenda (s : Submitter) (blob : Bytes) (c : Contributions) : List Call := [
  { step := .compress, question := .compress blob, value := c.body },
  { step := .fetchChangeAddresses, question := .node .changeAddresses, value := c.changeAddresses },
  { step := .fetchOutputs, question := .node .unspentOutputs, value := c.outputs },
  { step := .selectPoint, question := .selectPoint c.outputs, value := c.point },
  { step := .resolveDestination
    question := .resolveDestination s.destination s.network
    value := c.destination },
  { step := .signBlob, question := .signBlob c.body s.privateKey, value := c.signed },
  { step := .estimateFee, question := .node .feeRate, value := c.rate },
  { step := .buildTransactions
    question := .build {
      rollup := s.rollup
      body := c.body
      signature := c.signed.signature
      publicKey := c.signed.publicKey
      point := c.point
      outputs := c.outputs
      changeAddresses := c.changeAddresses
      destination := c.destination.text
      commitRate := c.rate
      revealRate := c.rate
      network := s.network }
    value := c.pair },
  { step := .signCommit, question := .node (.sign c.unsigned), value := c.signedCommit },
  { step := .broadcastCommit
    question := .node (.broadcast c.signedCommit)
    value := c.commitReply },
  { step := .checkpointReveal
    commitId? := some c.commitId
    question := .saveReveal c.commitId c.raw
    value := () },
  { step := .broadcastReveal
    commitId? := some c.commitId
    question := .node (.broadcast (.text (Bytes.hex c.raw)))
    value := c.revealReply }]

theorem disciplined_submit (s : Submitter) (blob : Bytes) : Disciplined (s.submit blob).run := by
  simp only [submit, prepare, commit, reveal, bind_assoc]
  refine disciplined_atStep_bind fun body => ?_
  refine disciplined_atStep_bind fun changeAddresses => ?_
  refine disciplined_atStep_bind fun outputs => ?_
  refine disciplined_atStep_bind fun point => ?_
  refine disciplined_atStep_bind fun destination => ?_
  refine disciplined_atStep_bind fun signed => ?_
  refine disciplined_atStep_bind fun rate => ?_
  refine disciplined_atStep_bind fun pair => ?_
  refine disciplined_encoded_bind fun commitId => ?_
  refine disciplined_encodedAt_bind fun unsigned => ?_
  refine disciplined_atStep_bind fun signedCommit => ?_
  refine disciplined_atStep_bind fun commitReply => ?_
  refine disciplined_encoded_bind fun raw => ?_
  refine disciplined_atStep_bind fun _ => ?_
  refine disciplined_encoded_bind fun _ => ?_
  refine disciplined_atStep_bind fun revealReply => ?_
  exact .done _

section Parts

variable {α : Type} {calls : List Call} {r : Except SubmissionFailure α}

theorem follows_prepare_bind {s : Submitter} {blob : Bytes} {f : TransactionPair → Submission α} :
    Follows (s.prepare blob >>= f).run calls r ↔
      ∃ (c : Contributions) (later : List Call), calls = (s.agenda blob c).take 8 ++ later ∧
        Follows (f c.pair).run later r := by
  simp only [prepare, bind_assoc]
  constructor
  · intro h
    obtain ⟨body, _, rfl, h1⟩ := follows_atStep_bind.mp h
    obtain ⟨changeAddresses, _, rfl, h2⟩ := follows_atStep_bind.mp h1
    obtain ⟨outputs, _, rfl, h3⟩ := follows_atStep_bind.mp h2
    obtain ⟨point, _, rfl, h4⟩ := follows_atStep_bind.mp h3
    obtain ⟨destination, _, rfl, h5⟩ := follows_atStep_bind.mp h4
    obtain ⟨signed, _, rfl, h6⟩ := follows_atStep_bind.mp h5
    obtain ⟨rate, _, rfl, h7⟩ := follows_atStep_bind.mp h6
    obtain ⟨pair, later, rfl, h8⟩ := follows_atStep_bind.mp h7
    exact ⟨{ body, changeAddresses, outputs, point, destination, signed, rate, pair }, later, rfl,
      h8⟩
  · rintro ⟨c, later, rfl, h⟩
    refine follows_atStep_bind.mpr ⟨c.body, _, rfl, ?_⟩
    refine follows_atStep_bind.mpr ⟨c.changeAddresses, _, rfl, ?_⟩
    refine follows_atStep_bind.mpr ⟨c.outputs, _, rfl, ?_⟩
    refine follows_atStep_bind.mpr ⟨c.point, _, rfl, ?_⟩
    refine follows_atStep_bind.mpr ⟨c.destination, _, rfl, ?_⟩
    refine follows_atStep_bind.mpr ⟨c.signed, _, rfl, ?_⟩
    refine follows_atStep_bind.mpr ⟨c.rate, _, rfl, ?_⟩
    exact follows_atStep_bind.mpr ⟨c.pair, later, rfl, h⟩

theorem follows_commit_bind {tx : Transaction} {f : String → Submission α} :
    Follows (commit tx >>= f).run calls r ↔
      (∃ e, tx.txidText = .error e ∧ calls = [] ∧ r = .error (.width e)) ∨
      (∃ e, Traversal.Succeeds tx.txidText ∧ tx.toHex = .error e ∧ calls = [] ∧
        r = .error (.ofCause .signCommit none (.width e))) ∨
      ∃ commitId unsigned signed reply later, tx.txidText = .ok commitId ∧
        tx.toHex = .ok unsigned ∧
        calls = ⟨.signCommit, none, .node (.sign unsigned), signed⟩ ::
          ⟨.broadcastCommit, none, .node (.broadcast signed), reply⟩ :: later ∧
        Follows (f commitId).run later r := by
  simp only [commit, bind_assoc, pure_bind]
  constructor
  · intro h
    rcases follows_encoded_bind.mp h with ⟨commitId, hcommitId, hwrite⟩ | ⟨e, he, rfl, rfl⟩
    · rcases follows_encodedAt_bind.mp hwrite with ⟨unsigned, hunsigned, hsign⟩ | ⟨e, he, rfl, rfl⟩
      · obtain ⟨signed, _, rfl, hbroadcast⟩ := follows_atStep_bind.mp hsign
        obtain ⟨reply, later, rfl, hlater⟩ := follows_atStep_bind.mp hbroadcast
        exact .inr (.inr
          ⟨commitId, unsigned, signed, reply, later, hcommitId, hunsigned, rfl, hlater⟩)
      · exact .inr (.inl ⟨e, ⟨commitId, hcommitId⟩, he, rfl, rfl⟩)
    · exact .inl ⟨e, he, rfl, rfl⟩
  · rintro (⟨e, he, rfl, rfl⟩ | ⟨e, ⟨commitId, hcommitId⟩, he, rfl, rfl⟩ |
      ⟨commitId, unsigned, signed, reply, later, hcommitId, hunsigned, rfl, h⟩)
    · exact follows_encoded_bind.mpr (.inr ⟨e, he, rfl, rfl⟩)
    · refine follows_encoded_bind.mpr (.inl ⟨commitId, hcommitId, ?_⟩)
      exact follows_encodedAt_bind.mpr (.inr ⟨e, he, rfl, rfl⟩)
    · refine follows_encoded_bind.mpr (.inl ⟨commitId, hcommitId, ?_⟩)
      refine follows_encodedAt_bind.mpr (.inl ⟨unsigned, hunsigned, ?_⟩)
      refine follows_atStep_bind.mpr ⟨signed, _, rfl, ?_⟩
      exact follows_atStep_bind.mpr ⟨reply, later, rfl, h⟩

theorem follows_reveal_bind {commitId : String} {tx : Transaction} {f : Datum → Submission α} :
    Follows (reveal commitId tx >>= f).run calls r ↔
      (∃ e, tx.serialize = .error e ∧ calls = [] ∧ r = .error (.width e)) ∨
      ∃ raw reply later, tx.serialize = .ok raw ∧
        calls = ⟨.checkpointReveal, some commitId, .saveReveal commitId raw, ()⟩ ::
          ⟨.broadcastReveal, some commitId, .node (.broadcast (.text (Bytes.hex raw))), reply⟩ ::
            later ∧
        Follows (f reply).run later r := by
  simp only [reveal, bind_assoc]
  constructor
  · intro h
    rcases follows_encoded_bind.mp h with ⟨raw, hraw, hsave⟩ | ⟨e, he, rfl, rfl⟩
    · obtain ⟨_, _, rfl, hname⟩ := follows_atStep_bind.mp hsave
      obtain ⟨revealId, hrevealId⟩ := Transaction.succeeds_txidText_of_serialize ⟨raw, hraw⟩
      rcases follows_encoded_bind.mp hname with ⟨_, -, hbroadcast⟩ | ⟨e, he, -⟩
      · obtain ⟨reply, later, rfl, hlater⟩ := follows_atStep_bind.mp hbroadcast
        exact .inr ⟨raw, reply, later, hraw, rfl, hlater⟩
      · rw [hrevealId] at he
        cases he
    · exact .inl ⟨e, he, rfl, rfl⟩
  · rintro (⟨e, he, rfl, rfl⟩ | ⟨raw, reply, later, hraw, rfl, h⟩)
    · exact follows_encoded_bind.mpr (.inr ⟨e, he, rfl, rfl⟩)
    · obtain ⟨revealId, hrevealId⟩ := Transaction.succeeds_txidText_of_serialize ⟨raw, hraw⟩
      refine follows_encoded_bind.mpr (.inl ⟨raw, hraw, ?_⟩)
      refine follows_atStep_bind.mpr ⟨(), _, rfl, ?_⟩
      refine follows_encoded_bind.mpr (.inl ⟨revealId, hrevealId, ?_⟩)
      exact follows_atStep_bind.mpr ⟨reply, later, rfl, h⟩

end Parts

/-- How a run in which every call succeeds ends: with a receipt, or before, where a transaction has
no encoding. -/
inductive Ends (s : Submitter) (blob : Bytes) (c : Contributions) :
    List Call → Except SubmissionFailure Receipt → Prop
  | unnamedCommit {e : Wire.WidthError} (hcommitId : c.pair.commit.txidText = .error e) :
      Ends s blob c ((s.agenda blob c).take 8) (.error (.width e))
  | unwrittenCommit {e : Wire.WidthError}
      (hcommitId : Traversal.Succeeds c.pair.commit.txidText)
      (hunsigned : c.pair.commit.toHex = .error e) :
      Ends s blob c ((s.agenda blob c).take 8) (.error (.ofCause .signCommit none (.width e)))
  | unwrittenReveal {e : Wire.WidthError} (hcommitId : c.pair.commit.txidText = .ok c.commitId)
      (hunsigned : c.pair.commit.toHex = .ok c.unsigned)
      (hraw : c.pair.reveal.serialize = .error e) :
      Ends s blob c ((s.agenda blob c).take 10) (.error (.width e))
  | receipt (hcommitId : c.pair.commit.txidText = .ok c.commitId)
      (hunsigned : c.pair.commit.toHex = .ok c.unsigned)
      (hraw : c.pair.reveal.serialize = .ok c.raw) :
      Ends s blob c (s.agenda blob c) (.ok ⟨c.commitId, c.revealReply⟩)

theorem follows_submit_iff {s : Submitter} {blob : Bytes} {calls : List Call}
    {r : Except SubmissionFailure Receipt} :
    Follows (s.submit blob).run calls r ↔ ∃ c : Contributions, Ends s blob c calls r := by
  rw [submit, follows_prepare_bind]
  constructor
  · rintro ⟨c, _, rfl, h⟩
    rcases follows_commit_bind.mp h with ⟨e, he, rfl, rfl⟩ | ⟨e, hcommitId, he, rfl, rfl⟩ |
      ⟨commitId, unsigned, signedCommit, commitReply, _, hcommitId, hunsigned, rfl, hreveal⟩
    · exact ⟨c, .unnamedCommit he⟩
    · exact ⟨c, .unwrittenCommit hcommitId he⟩
    · rcases follows_reveal_bind.mp hreveal with ⟨e, he, rfl, rfl⟩ |
        ⟨raw, revealReply, _, hraw, rfl, hdone⟩
      · exact ⟨{ c with commitId, unsigned, signedCommit, commitReply },
          .unwrittenReveal hcommitId hunsigned he⟩
      · obtain ⟨rfl, rfl⟩ := follows_done.mp hdone
        exact ⟨{ c with commitId, unsigned, signedCommit, commitReply, raw, revealReply },
          .receipt hcommitId hunsigned hraw⟩
  · rintro ⟨c, h⟩
    cases h with
    | unnamedCommit hcommitId =>
        exact ⟨c, [], rfl, follows_commit_bind.mpr (.inl ⟨_, hcommitId, rfl, rfl⟩)⟩
    | unwrittenCommit hcommitId hunsigned =>
        exact ⟨c, [], rfl, follows_commit_bind.mpr (.inr (.inl ⟨_, hcommitId, hunsigned, rfl, rfl⟩))⟩
    | unwrittenReveal hcommitId hunsigned hraw =>
        refine ⟨c, _, rfl, follows_commit_bind.mpr (.inr (.inr
          ⟨c.commitId, c.unsigned, c.signedCommit, c.commitReply, [], hcommitId, hunsigned, rfl,
            ?_⟩))⟩
        exact follows_reveal_bind.mpr (.inl ⟨_, hraw, rfl, rfl⟩)
    | receipt hcommitId hunsigned hraw =>
        refine ⟨c, _, rfl, follows_commit_bind.mpr (.inr (.inr
          ⟨c.commitId, c.unsigned, c.signedCommit, c.commitReply, _, hcommitId, hunsigned, rfl,
            ?_⟩))⟩
        refine follows_reveal_bind.mpr (.inr ⟨c.raw, c.revealReply, [], hraw, rfl, ?_⟩)
        exact follows_done.mpr ⟨rfl, rfl⟩

/-- A run in which every call succeeds keeps to the agenda, and gives a receipt only at its end. It
comes to an end before when a transaction has no encoding. -/
theorem calls_of_follows_submit {s : Submitter} {blob : Bytes} {calls : List Call}
    {r : Except SubmissionFailure Receipt} (h : Follows (s.submit blob).run calls r) :
    ∃ c : Contributions, calls <+: s.agenda blob c ∧ (∀ call ∈ calls, c.Genuine call.question) ∧
      ∀ receipt, r = .ok receipt →
        calls = s.agenda blob c ∧ receipt = ⟨c.commitId, c.revealReply⟩ := by
  obtain ⟨c, hends⟩ := follows_submit_iff.mp h
  refine ⟨c, ?_⟩
  cases hends with
  | unnamedCommit | unwrittenCommit =>
      exact ⟨List.take_prefix 8 _, by simp [agenda, Contributions.Genuine], by simp⟩
  | unwrittenReveal hcommitId hunsigned hraw =>
      exact ⟨List.take_prefix 10 _, by simp [agenda, Contributions.Genuine, hunsigned], by simp⟩
  | receipt hcommitId hunsigned hraw =>
      refine ⟨List.prefix_refl _, ?_, ?_⟩
      · simp [agenda, Contributions.Genuine, hcommitId, hunsigned, hraw]
      · rintro _ ⟨⟩
        exact ⟨rfl, rfl⟩

variable {s : Submitter} {blob : Bytes} {c : Contributions} {call : Call} {k : Nat}

theorem commitId?_of_getElem? (h : (s.agenda blob c)[k]? = some call) :
    call.commitId? = if 10 ≤ k then some c.commitId else none := by
  have hk : k < 12 := (List.getElem?_eq_some_iff.mp h).1
  interval_cases k <;> cases h <;> rfl

theorem computed_of_mem_agenda {compressor : Compressor} {signer : Authentication.Signer}
    (hbody : compressor.compress blob = .ok c.body)
    (hdestination : Address.forNetwork s.destination s.network = .ok c.destination)
    (hsigned : Authentication.sign signer c.body s.privateKey = .ok c.signed)
    (h : call ∈ s.agenda blob c) : Computed compressor signer call.exchange := by
  obtain ⟨k, hk, rfl⟩ := List.getElem_of_mem h
  have hlt : k < 12 := hk
  interval_cases k
  · exact (congrArg (Except.mapError SubmissionCause.compression) hbody).symm
  · trivial
  · trivial
  · trivial
  · exact (congrArg (Except.mapError SubmissionCause.address) hdestination).symm
  · exact (congrArg (Except.mapError SubmissionCause.privateKey) hsigned).symm
  all_goals trivial

theorem sent_take_agenda (hk : k < 12) :
    (((s.agenda blob c).take k).map Call.exchange).any sent = decide (10 ≤ k) := by
  interval_cases k <;> rfl

section Made

variable {made : List Call}

theorem mem_made (hmade : made <+: s.agenda blob c) (hk : k < made.length)
    (hcall : (s.agenda blob c)[k]? = some call) : call ∈ made := by
  obtain ⟨_, rfl⟩ := List.getElem?_eq_some_iff.mp hcall
  rw [← hmade.getElem hk]
  exact List.getElem_mem hk

theorem getElem?_length_agenda (h : made ++ [call] <+: s.agenda blob c) :
    (s.agenda blob c)[made.length]? = some call := by
  obtain ⟨later, hlater⟩ := h
  rw [← hlater]
  simp

theorem snoc_prefix {later calls : List Call} (h : made ++ call :: later <+: calls) :
    made ++ [call] <+: calls := by
  refine .trans ⟨later, ?_⟩ h
  rw [List.append_assoc, List.singleton_append]

theorem sent_failing (h : made ++ [call] <+: s.agenda blob c) (cause : SubmissionCause) :
    (made.map Call.exchange ++ [(⟨call.question, .error cause⟩ : Exchange Answer)]).any sent =
      decide (10 ≤ made.length) := by
  have hlength : made.length < 12 := (List.getElem?_eq_some_iff.mp (getElem?_length_agenda h)).1
  have hmade : made = (s.agenda blob c).take made.length :=
    List.prefix_iff_eq_take.mp ((List.prefix_append _ _).trans h)
  have hsent : (((s.agenda blob c).take made.length).map Call.exchange).any sent =
      decide (10 ≤ made.length) := sent_take_agenda hlength
  rw [← hmade] at hsent
  rw [List.any_append, hsent, List.any_cons, sent_error]
  simp

theorem failure_of_failing (h : made ++ [call] <+: s.agenda blob c) (cause : SubmissionCause) :
    call.failure cause = if cause.isMismatch then .mismatch cause
      else .atStep call.step cause
        (if (made.map Call.exchange ++ [(⟨call.question, .error cause⟩ : Exchange Answer)]).any sent
          then some c.commitId else none) := by
  rw [Call.failure, SubmissionFailure.ofCause, commitId?_of_getElem? (getElem?_length_agenda h),
    sent_failing h]
  simp only [decide_eq_true_eq]

theorem txidText_of_failing (h : made ++ [call] <+: s.agenda blob c)
    (hgenuine : ∀ x ∈ made ++ [call], c.Genuine x.question) (hsent : 10 ≤ made.length) :
    c.pair.commit.txidText = .ok c.commitId := by
  have hlt : 10 < (made ++ [call]).length := by
    rw [List.length_append, List.length_singleton]
    omega
  exact (hgenuine _ (mem_made h hlt rfl)).1

theorem length_le_of_invalid {history : List (Exchange Answer)} {e : AddressError}
    (hmade : made <+: s.agenda blob c) (hhistory : made.map Call.exchange <+: history)
    (hlength : history.length ≤ made.length + 1)
    (hinvalid : Address.forNetwork s.destination s.network = .error e)
    (hresolved : ∀ answer, ⟨.resolveDestination s.destination s.network, answer⟩ ∈ history →
      answer = (Address.forNetwork s.destination s.network).mapError .address) :
    history.length ≤ 5 := by
  by_contra hlong
  have hcall : ⟨.resolveDestination s.destination s.network, .ok c.destination⟩ ∈
      made.map Call.exchange :=
    List.mem_map_of_mem (mem_made (k := 4) hmade (by omega) rfl)
  have hanswer := hresolved _ (hhistory.subset hcall)
  rw [hinvalid] at hanswer
  cases hanswer

end Made

theorem exists_calls_of_trail {history : List (Exchange Answer)}
    {rest : Dialogue Answer (Except SubmissionFailure Receipt)}
    (h : Trail (s.submit blob).run history rest) :
    ∃ (c : Contributions) (made todo : List Call), made ++ todo <+: s.agenda blob c ∧
      (∀ call ∈ made ++ todo, c.Genuine call.question) ∧
      ((history = made.map Call.exchange ∧ rest.pending <+: todo.map Call.question ∧
          ∀ receipt, rest = .done (.ok receipt) →
            made = s.agenda blob c ∧ receipt = ⟨c.commitId, c.revealReply⟩) ∨
        ∃ call later cause, todo = call :: later ∧
          history = made.map Call.exchange ++ [⟨call.question, .error cause⟩] ∧
          rest = .done (.error (call.failure cause))) := by
  obtain ⟨made, todo, r, hcalls, hstands⟩ := (disciplined_submit s blob).exists_calls_of_trail h
  obtain ⟨c, hagenda, hgenuine, hreceipt⟩ := calls_of_follows_submit hcalls
  refine ⟨c, made, todo, hagenda, hgenuine, ?_⟩
  rcases hstands with ⟨hhistory, hrest⟩ | hfailed
  · refine .inl ⟨hhistory, hrest.pending_prefix, ?_⟩
    rintro receipt rfl
    obtain ⟨rfl, rfl⟩ := follows_done.mp hrest
    simpa using hreceipt receipt rfl
  · exact .inr hfailed

/-- What was answered in a submission is what the collaborators contribute, and what was asked is on
the agenda. -/
theorem exists_contributions_of_trail {history : List (Exchange Answer)}
    {rest : Dialogue Answer (Except SubmissionFailure Receipt)}
    (h : Trail (s.submit blob).run history rest) :
    ∃ c : Contributions,
      history.map Exchange.question <+: (s.agenda blob c).map Call.question ∧
      (∀ x ∈ history, c.Genuine x.question) ∧
      ∀ q v, ⟨q, .ok v⟩ ∈ history → ⟨q, .ok v⟩ ∈ (s.agenda blob c).map Call.exchange := by
  obtain ⟨c, made, todo, hagenda, hgenuine, hstands⟩ := exists_calls_of_trail h
  have hmade : made.map Call.exchange <+: (s.agenda blob c).map Call.exchange :=
    ((List.prefix_append _ _).trans hagenda).map Call.exchange
  refine ⟨c, ?_⟩
  rcases hstands with ⟨rfl, -, -⟩ | ⟨call, later, cause, rfl, rfl, -⟩
  · refine ⟨?_, ?_, fun q v hx => hmade.subset hx⟩
    · rw [List.map_map]
      exact ((List.prefix_append _ _).trans hagenda).map Call.question
    · intro x hx
      obtain ⟨call, hcall, rfl⟩ := List.mem_map.mp hx
      exact hgenuine call (List.mem_append_left _ hcall)
  · refine ⟨?_, ?_, ?_⟩
    · have hmade := snoc_prefix hagenda
      have hcall := hmade.map Call.question
      rw [List.map_append] at hcall
      rw [List.map_append, List.map_map]
      exact hcall
    · intro x hx
      rcases List.mem_append.mp hx with hx | hx
      · obtain ⟨call, hcall, rfl⟩ := List.mem_map.mp hx
        exact hgenuine call (List.mem_append_left _ hcall)
      · rw [List.mem_singleton.mp hx]
        exact hgenuine call (by simp)
    · intro q v hx
      rcases List.mem_append.mp hx with hx | hx
      · exact hmade.subset hx
      · cases List.mem_singleton.mp hx

section Contributed

variable {order : BuildOrder} {pair : TransactionPair} {unsigned : String} {data : Datum}

theorem pair_of_mem_agenda (h : ⟨.build order, .ok pair⟩ ∈ (s.agenda blob c).map Call.exchange) :
    pair = c.pair := by
  simp [agenda, Call.exchange] at h
  exact h.2

theorem signedCommit_of_mem_agenda
    (h : ⟨.node (.sign unsigned), .ok data⟩ ∈ (s.agenda blob c).map Call.exchange) :
    data = c.signedCommit := by
  simp [agenda, Call.exchange] at h
  exact h.2

theorem question_of_find?_broadcasts {history : List (Exchange Answer)} {x : Exchange Answer}
    (hasked : history.map Exchange.question <+: (s.agenda blob c).map Call.question)
    (h : history.find? (·.question.broadcasts) = some x) :
    x.question = .node (.broadcast c.signedCommit) := by
  have hfound : (history.map Exchange.question).find? Question.broadcasts = some x.question := by
    rw [List.find?_map]
    exact congrArg (Option.map Exchange.question) h
  exact (Option.some.inj (hasked.find?_eq_some hfound)).symm

end Contributed

theorem broadcast_of_getElem? {data : Datum} (h : (s.agenda blob c)[k]? = some call)
    (hcall : call.question = .node (.broadcast data)) :
    (k = 9 ∧ data = c.signedCommit) ∨ (k = 11 ∧ data = .text (Bytes.hex c.raw)) := by
  have hk : k < 12 := (List.getElem?_eq_some_iff.mp h).1
  interval_cases k <;> cases h <;> cases hcall
  · exact .inl ⟨rfl, rfl⟩
  · exact .inr ⟨rfl, rfl⟩

section Asked

variable {history : List (Exchange Answer)}

theorem forall_question_of_length_le {p : Question → Bool} {n : Nat}
    (hasked : history.map Exchange.question <+: (s.agenda blob c).map Call.question)
    (hp : (((s.agenda blob c).map Call.question).take n).any p = false)
    (hlength : history.length ≤ n) : ∀ x ∈ history, p x.question = false := by
  intro x hx
  have htake : history.map Exchange.question <+: ((s.agenda blob c).map Call.question).take n :=
    List.prefix_take_iff.mpr ⟨hasked, by simpa using hlength⟩
  have hmem := htake.subset (List.mem_map_of_mem hx)
  simpa using List.any_eq_false.mp hp _ hmem

theorem not_broadcasts_of_length_lt
    (hasked : history.map Exchange.question <+: (s.agenda blob c).map Call.question)
    (hlength : history.length < 10) : ∀ x ∈ history, x.question.broadcasts = false :=
  forall_question_of_length_le hasked rfl (Nat.le_of_lt_succ hlength)

theorem eq_of_storeRun_of_length_le
    (hasked : history.map Exchange.question <+: (s.agenda blob c).map Call.question)
    (hlength : history.length ≤ 10) {store store' : CheckpointStore}
    (h : StoreRun history store store') : store' = store :=
  h.eq_of_not_saves (forall_question_of_length_le hasked rfl hlength)

theorem storeRun_take_agenda (s : Submitter) (blob : Bytes) (c : Contributions)
    (store : CheckpointStore) :
    StoreRun (((s.agenda blob c).take 10).map Call.exchange) store store := by
  have hasked : (((s.agenda blob c).take 10).map Call.exchange).map Exchange.question <+:
      (s.agenda blob c).map Call.question := by
    rw [List.map_map]
    exact (List.take_prefix 10 _).map Call.question
  exact .of_not_saves (forall_question_of_length_le (n := 10) hasked rfl (by simp))

end Asked

/-- A submission that is about to make a call has made the calls before it on the agenda. -/
theorem exists_calls_of_trail_ask {history : List (Exchange Answer)} {question : Question}
    {next : Answer question → Dialogue Answer (Except SubmissionFailure Receipt)}
    (h : Trail (s.submit blob).run history (.ask question next)) :
    ∃ (c : Contributions) (made : List Call) (call : Call), made ++ [call] <+: s.agenda blob c ∧
      (∀ x ∈ made, c.Genuine x.question) ∧ history = made.map Call.exchange ∧
      call.question = question := by
  obtain ⟨c, made, todo, hagenda, hgenuine, hstands⟩ := exists_calls_of_trail h
  rcases hstands with ⟨hhistory, hpending, -⟩ | ⟨_, _, _, -, -, hdone⟩
  · cases todo with
    | nil => simp [Dialogue.pending] at hpending
    | cons call later =>
        have hmade : ∀ x ∈ made, c.Genuine x.question :=
          fun x hx => hgenuine x (List.mem_append_left _ hx)
        refine ⟨c, made, call, snoc_prefix hagenda, hmade, hhistory, ?_⟩
        simpa [Dialogue.pending, eq_comm] using hpending
  · cases hdone

theorem broadcast_of_trail {history : List (Exchange Answer)} {data : Datum}
    {next : Answer (.node (.broadcast data)) → Dialogue Answer (Except SubmissionFailure Receipt)}
    (h : Trail (s.submit blob).run history (.ask (.node (.broadcast data)) next)) :
    ∃ (order : BuildOrder) (pair : TransactionPair) (unsigned : String) (signed : Datum),
      ⟨.build order, .ok pair⟩ ∈ history ∧ pair.commit.toHex = .ok unsigned ∧
      ⟨.node (.sign unsigned), .ok signed⟩ ∈ history ∧
      ((data = signed ∧ ∀ x ∈ history, x.question.broadcasts = false) ∨
        ∃ (commitId : String) (raw : Bytes) (reply : Datum),
          pair.commit.txidText = .ok commitId ∧ pair.reveal.serialize = .ok raw ∧
          data = .text (Bytes.hex raw) ∧ ⟨.node (.broadcast signed), .ok reply⟩ ∈ history ∧
          ⟨.saveReveal commitId raw, .ok ()⟩ ∈ history) := by
  obtain ⟨c, made, call, hagenda, hgenuine, rfl, hcall⟩ := exists_calls_of_trail_ask h
  have hmade : made <+: s.agenda blob c := (List.prefix_append _ _).trans hagenda
  have hanswered : ∀ k call, k < made.length → (s.agenda blob c)[k]? = some call →
      call.exchange ∈ made.map Call.exchange :=
    fun k call hk hk' => List.mem_map_of_mem (mem_made hmade hk hk')
  have htold : ∀ k call, k < made.length → (s.agenda blob c)[k]? = some call →
      c.Genuine call.question :=
    fun k call hk hk' => hgenuine call (mem_made hmade hk hk')
  rcases broadcast_of_getElem? (getElem?_length_agenda hagenda) hcall with ⟨hk, rfl⟩ | ⟨hk, rfl⟩
  · have hasked : (made.map Call.exchange).map Exchange.question <+:
        (s.agenda blob c).map Call.question := by
      rw [List.map_map]
      exact hmade.map Call.question
    exact ⟨_, c.pair, c.unsigned, c.signedCommit, hanswered 7 _ (by omega) rfl,
      htold 8 _ (by omega) rfl, hanswered 8 _ (by omega) rfl,
      .inl ⟨rfl, not_broadcasts_of_length_lt hasked (by simp [hk])⟩⟩
  · obtain ⟨hcommitId, hraw⟩ := htold 10 _ (by omega) rfl
    exact ⟨_, c.pair, c.unsigned, c.signedCommit, hanswered 7 _ (by omega) rfl,
      htold 8 _ (by omega) rfl, hanswered 8 _ (by omega) rfl,
      .inr ⟨c.commitId, c.raw, c.commitReply, hcommitId, hraw, rfl, hanswered 9 _ (by omega) rfl,
        hanswered 10 _ (by omega) rfl⟩⟩

/-- The calls of a submission follow the agenda. A call that fails is the last one, and its step is
reported, with the commit's identifier if the commit has been broadcast. The commit is broadcast by
the tenth call: up to then the store stays as it is, and before it nothing is broadcast, as when the
destination is no address of the network. -/
theorem submit_follows_agenda (s : Submitter) (blob : Bytes) {history : List (Exchange Answer)}
    {rest : Dialogue Answer (Except SubmissionFailure Receipt)}
    (htrail : Trail (s.submit blob).run history rest) :
    ∃ (c : Contributions) (made : List Call), made <+: s.agenda blob c ∧
      history.map Exchange.question ++ rest.pending <+: (s.agenda blob c).map Call.question ∧
      (∀ q ∈ history.map Exchange.question ++ rest.pending, c.Genuine q) ∧
      ((history = made.map Call.exchange ∧
          ∀ receipt, rest = .done (.ok receipt) →
            made = s.agenda blob c ∧ receipt = ⟨c.commitId, c.revealReply⟩) ∨
        ∃ call cause, made ++ [call] <+: s.agenda blob c ∧
          history = made.map Call.exchange ++ [⟨call.question, .error cause⟩] ∧
          rest = .done (.error (if cause.isMismatch then .mismatch cause
            else .atStep call.step cause (if history.any sent then some c.commitId else none))) ∧
          (history.any sent → c.pair.commit.txidText = .ok c.commitId)) ∧
      (history.length ≤ 10 → ∀ store store', StoreRun history store store' → store' = store) ∧
      (history.length < 10 → ∀ x ∈ history, x.question.broadcasts = false) ∧
      ∀ e, Address.forNetwork s.destination s.network = .error e →
        (∀ answer, ⟨.resolveDestination s.destination s.network, answer⟩ ∈ history →
          answer = (Address.forNetwork s.destination s.network).mapError .address) →
        (∀ x ∈ history, x.question.broadcasts = false) ∧
          ∀ store store', StoreRun history store store' → store' = store := by
  obtain ⟨c, made, todo, hagenda, hgenuine, hstands⟩ := exists_calls_of_trail htrail
  have hasked : history.map Exchange.question ++ rest.pending <+:
      (made ++ todo).map Call.question := by
    rw [List.map_append]
    rcases hstands with ⟨rfl, hpending, -⟩ | ⟨call, later, cause, rfl, rfl, rfl⟩
    · rw [List.map_map]
      exact (List.prefix_append_right_inj _).mpr hpending
    · rw [List.map_append, List.map_map, List.append_assoc]
      exact (List.prefix_append_right_inj _).mpr ⟨later.map Call.question, rfl⟩
  have hquestions := hasked.trans (hagenda.map Call.question)
  have hanswered := (List.prefix_append _ _).trans hquestions
  have hmade : made <+: s.agenda blob c := (List.prefix_append _ _).trans hagenda
  refine ⟨c, made, hmade, hquestions, ?_, ?_, ?_, not_broadcasts_of_length_lt hanswered, ?_⟩
  · intro q hq
    obtain ⟨call, hcall, rfl⟩ := List.mem_map.mp (hasked.subset hq)
    exact hgenuine call hcall
  · rcases hstands with ⟨hhistory, -, hreceipt⟩ | ⟨call, later, cause, rfl, hhistory, hrest⟩
    · exact .inl ⟨hhistory, hreceipt⟩
    · have hcall := snoc_prefix hagenda
      refine .inr ⟨call, cause, hcall, hhistory, ?_, ?_⟩
      · rw [hrest, failure_of_failing hcall, hhistory]
      · intro hsent
        rw [hhistory, sent_failing hcall, decide_eq_true_eq] at hsent
        refine txidText_of_failing hcall (fun x hx => hgenuine x ?_) hsent
        rw [List.append_cons]
        exact List.mem_append_left later hx
  · intro hlength store store' hrun
    exact eq_of_storeRun_of_length_le hanswered hlength hrun
  · intro e hinvalid hresolved
    have hhistory : made.map Call.exchange <+: history ∧ history.length ≤ made.length + 1 := by
      rcases hstands with ⟨rfl, -⟩ | ⟨call, later, cause, -, rfl, -⟩
      · simp
      · simp
    have hlength := length_le_of_invalid hmade hhistory.1 hhistory.2 hinvalid hresolved
    refine ⟨not_broadcasts_of_length_lt hanswered (by omega), ?_⟩
    intro store store' hrun
    exact eq_of_storeRun_of_length_le hanswered (by omega) hrun

end Submitter

namespace Specimen

def submitter : Submitter where
  rollup := "r"
  network := .regtest
  destination := ""
  privateKey := ""

/-- A commit and a reveal that are the same empty transaction. -/
def contributions : Contributions where
  body := [1]
  changeAddresses := (.null, .null)
  outputs := []
  point := { txid := "", vout := 0 }
  destination := ⟨"", .base58Test, []⟩
  signed := ⟨[], []⟩
  rate := .ofRatio false 1 1
  pair :=
    ⟨{ version := 2, inputs := [], outputs := [] }, { version := 2, inputs := [], outputs := [] }⟩
  commitId := "4ebd325a4b394cff8c57e8317ccf5a8d0e2bdf1b8526f8aad6c8e43d8240621a"
  unsigned := "02000000000000000000"
  signedCommit := .text "02000000000000000000"
  raw := [2, 0, 0, 0, 0, 0, 0, 0, 0, 0]

theorem txidText_contributions :
    contributions.pair.commit.txidText = .ok contributions.commitId := by
  rw [Transaction.txidText, Transaction.txid, Sha256.double_eq]
  decide +kernel

theorem toHex_contributions :
    contributions.pair.commit.toHex = .ok contributions.unsigned := by
  decide

theorem serialize_contributions :
    contributions.pair.reveal.serialize = .ok contributions.raw := by
  decide

theorem follows_contributions :
    Follows (submitter.submit [1]).run (submitter.agenda [1] contributions)
      (.ok ⟨contributions.commitId, contributions.revealReply⟩) :=
  Submitter.follows_submit_iff.mpr ⟨contributions,
    .receipt txidText_contributions toHex_contributions serialize_contributions⟩

end Specimen

namespace Submitter

theorem submit_follows_agenda_refused :
    let s := Specimen.submitter
    let calls := s.agenda [1] Specimen.contributions
    let reveal : Question := .node (.broadcast (.text (Bytes.hex Specimen.contributions.raw)))
    let refused := (calls.take 11).map Call.exchange ++ [⟨reveal, .error (.reported "refused")⟩]
    let astray := (calls.take 4).map Call.exchange ++
      [⟨.resolveDestination s.destination s.network, .error (.address .empty)⟩]
    (Trail (s.submit [1]).run refused (.done (.error (.atStep .broadcastReveal
        (.reported "refused") (some Specimen.contributions.commitId)))) ∧
      ∃ c : Contributions,
        refused.map Exchange.question <+: (s.agenda [1] c).map Call.question ∧
        ∀ q ∈ refused.map Exchange.question, c.Genuine q) ∧
    Trail (s.submit [1]).run astray
      (.done (.error (.atStep .resolveDestination (.address .empty) none))) ∧
    (∀ x ∈ astray, x.question.broadcasts = false) ∧
    ∀ store store', StoreRun astray store store' → store' = store := by
  intro s calls reveal refused astray
  have hrefused : Trail (s.submit [1]).run refused (.done (.error (.atStep .broadcastReveal
      (.reported "refused") (some Specimen.contributions.commitId)))) := by
    have hfollows : Follows (s.submit [1]).run (calls.take 11 ++ calls[11] :: [])
        (.ok ⟨Specimen.contributions.commitId, .null⟩) := Specimen.follows_contributions
    exact hfollows.trail_failing _
  have hastray : Trail (s.submit [1]).run astray
      (.done (.error (.atStep .resolveDestination (.address .empty) none))) := by
    have hfollows : Follows (s.submit [1]).run (calls.take 4 ++ calls[4] :: calls.drop 5)
        (.ok ⟨Specimen.contributions.commitId, .null⟩) := Specimen.follows_contributions
    exact hfollows.trail_failing _
  obtain ⟨c, -, -, hquestions, hgenuine, -⟩ := submit_follows_agenda s [1] hrefused
  obtain ⟨-, -, -, -, -, -, -, -, hinvalid⟩ := submit_follows_agenda s [1] hastray
  have hempty : Address.forNetwork s.destination s.network = .error .empty := by decide +kernel
  refine ⟨⟨hrefused, c, ?_, ?_⟩, hastray, hinvalid .empty hempty ?_⟩
  · simpa [Dialogue.pending] using hquestions
  · simpa [Dialogue.pending] using hgenuine
  · intro answer hanswer
    have hlast : answer = .error (.address .empty) := by
      simpa [astray, calls, agenda, Call.exchange] using hanswer
    rw [hlast, hempty]
    rfl

end Submitter

end BlobInscription
