import BlobInscription.Proofs.Submission.Agenda

namespace BlobInscription

open Dialogue (Exchange Trail)
open Traversal (Succeeds)

namespace Submission

/-- What a submission ends with tells of the commit of this identifier. -/
def Tracks (commitId : String) : Except SubmissionFailure Receipt → Prop
  | .ok receipt => receipt.commitId = commitId
  | .error (.atStep _ _ commitId?) => commitId? = some commitId
  | .error (.mismatch _) | .error (.width _) => False

/-- The submission fails at a step or for an address of another network, and tells of no commit. -/
def Aborts : Except SubmissionFailure Receipt → Prop
  | .error (.atStep _ _ commitId?) => commitId? = none
  | .error (.mismatch _) => True
  | .error (.width _) | .ok _ => False

/-- The call succeeded. -/
def answered : Exchange Answer → Bool
  | ⟨_, .ok _⟩ => true
  | ⟨_, .error _⟩ => false

/-- The answer reports an address of another network. -/
def mismatched : Exchange Answer → Bool
  | ⟨_, .error cause⟩ => cause.isMismatch
  | ⟨_, .ok _⟩ => false

theorem tracks_ofCause_iff {commitId : String} {commitId? : Option String} {step : SubmissionStep}
    {cause : SubmissionCause} : Tracks commitId (.error (.ofCause step commitId? cause)) ↔
      cause.isMismatch = false ∧ commitId? = some commitId := by
  cases hmismatch : cause.isMismatch with
  | true => simp [SubmissionFailure.ofCause, hmismatch, Tracks]
  | false => simp [SubmissionFailure.ofCause, hmismatch, Tracks]

theorem aborts_ofCause (step : SubmissionStep) (cause : SubmissionCause) :
    Aborts (.error (.ofCause step none cause)) := by
  cases hmismatch : cause.isMismatch with
  | true => simp [SubmissionFailure.ofCause, hmismatch, Aborts]
  | false => simp [SubmissionFailure.ofCause, hmismatch, Aborts]

theorem ofCause_ne_width (step : SubmissionStep) (commitId? : Option String)
    (cause : SubmissionCause) (e : Wire.WidthError) :
    SubmissionFailure.ofCause step commitId? cause ≠ .width e := by
  cases hmismatch : cause.isMismatch with
  | true => simp [SubmissionFailure.ofCause, hmismatch]
  | false => simp [SubmissionFailure.ofCause, hmismatch]

theorem mismatched_of_mem_made {made : List Call} {x : Exchange Answer}
    (h : x ∈ made.map Call.exchange) : mismatched x = false := by
  obtain ⟨call, -, rfl⟩ := List.mem_map.mp h
  rfl

end Submission

open Submission

namespace Submitter

variable {s : Submitter} {blob : Bytes} {c : Contributions} {history : List (Exchange Answer)}
  {outcome : Except SubmissionFailure Receipt}

theorem Ends.prefix_agenda {calls : List Call} (h : Ends s blob c calls outcome) :
    calls <+: s.agenda blob c := by
  cases h with
  | unnamedCommit | unwrittenCommit => exact List.take_prefix 8 _
  | unwrittenReveal => exact List.take_prefix 10 _
  | receipt => exact List.prefix_refl _

theorem exists_ends_of_trail (h : Trail (s.submit blob).run history (.done outcome)) :
    ∃ c calls r, Ends s blob c calls r ∧
      ((history = calls.map Call.exchange ∧ outcome = r) ∨
        ∃ made call later cause, calls = made ++ call :: later ∧
          history = made.map Call.exchange ++ [⟨call.question, .error cause⟩] ∧
          outcome = .error (call.failure cause)) := by
  obtain ⟨made, todo, r, hcalls, hstands⟩ := (disciplined_submit s blob).exists_calls_of_trail h
  obtain ⟨c, hends⟩ := follows_submit_iff.mp hcalls
  refine ⟨c, made ++ todo, r, hends, ?_⟩
  rcases hstands with ⟨hhistory, hdone⟩ | ⟨call, later, cause, rfl, hhistory, hdone⟩
  · obtain ⟨rfl, rfl⟩ := follows_done.mp hdone
    exact .inl ⟨by rw [hhistory, List.append_nil], rfl⟩
  · cases hdone
    exact .inr ⟨made, call, later, cause, rfl, hhistory, rfl⟩

theorem Ends.txidText_commit {calls : List Call} (h : Ends s blob c calls outcome)
    (hlength : 8 < calls.length) : c.pair.commit.txidText = .ok c.commitId := by
  cases h with
  | unnamedCommit | unwrittenCommit => simp [agenda] at hlength
  | unwrittenReveal hcommitId | receipt hcommitId => exact hcommitId

theorem Ends.serialize_reveal {calls : List Call} (h : Ends s blob c calls outcome)
    (hlength : 10 < calls.length) : c.pair.reveal.serialize = .ok c.raw := by
  cases h with
  | unnamedCommit | unwrittenCommit | unwrittenReveal => simp [agenda] at hlength
  | receipt _ _ hraw => exact hraw

section Built

variable {made : List Call} {order : BuildOrder} {pair : TransactionPair}

theorem pair_of_mem_made (hmade : made <+: s.agenda blob c)
    (h : ⟨.build order, .ok pair⟩ ∈ made.map Call.exchange) :
    pair = c.pair ∧ 8 ≤ made.length := by
  refine ⟨pair_of_mem_agenda ((hmade.map Call.exchange).subset h), ?_⟩
  by_contra hshort
  have htake : made <+: (s.agenda blob c).take 7 :=
    List.prefix_take_iff.mpr ⟨hmade, by omega⟩
  have hearly := (htake.map Call.exchange).subset h
  simp [agenda, Call.exchange] at hearly

theorem exists_built_of_length (hmade : made <+: s.agenda blob c) (hlength : 8 ≤ made.length) :
    ∃ order, ⟨.build order, .ok c.pair⟩ ∈ made.map Call.exchange :=
  ⟨_, List.mem_map_of_mem (mem_made (k := 7) hmade (by omega) rfl)⟩

theorem mem_made_of_mem_failing {call : Call} {cause : SubmissionCause}
    (h : ⟨.build order, .ok pair⟩ ∈
      made.map Call.exchange ++ [(⟨call.question, .error cause⟩ : Exchange Answer)]) :
    ⟨.build order, .ok pair⟩ ∈ made.map Call.exchange := by
  rcases List.mem_append.mp h with hmade | hlast
  · exact hmade
  · have hfailed := congrArg answered (List.mem_singleton.mp hlast)
    simp [answered] at hfailed

end Built

theorem tracks_iff_of_ends {calls : List Call} (hends : Ends s blob c calls outcome)
    (hsent : (calls.map Call.exchange).any sent = true) :
    c.pair.commit.txidText = .ok c.commitId ∧ 8 ≤ calls.length ∧
      (Tracks c.commitId outcome ↔ Succeeds c.pair.reveal.serialize) ∧
      ∀ e, outcome = .error (.width e) ↔ c.pair.reveal.serialize = .error e := by
  cases hends with
  | unnamedCommit | unwrittenCommit =>
      rw [sent_take_agenda (by decide)] at hsent
      cases hsent
  | unwrittenReveal hcommitId hunsigned hraw =>
      refine ⟨hcommitId, by simp [agenda], ?_, ?_⟩
      · simp [Tracks, hraw]
      · intro e
        simp [hraw]
  | receipt hcommitId hunsigned hraw =>
      refine ⟨hcommitId, by simp [agenda], ?_, ?_⟩
      · simp [Tracks, hraw]
      · intro e
        simp [hraw]

theorem aborts_iff_of_ends {calls : List Call} (hends : Ends s blob c calls outcome)
    (hsent : (calls.map Call.exchange).any sent = false) :
    8 ≤ calls.length ∧ (Aborts outcome ↔ Succeeds c.pair.commit.txidText) ∧
      ∀ e, outcome = .error (.width e) ↔ c.pair.commit.txidText = .error e := by
  cases hends with
  | unnamedCommit hcommitId =>
      refine ⟨by simp [agenda], ?_, ?_⟩
      · simp [Aborts, hcommitId]
      · intro e
        simp [hcommitId]
  | unwrittenCommit hcommitId hunsigned =>
      refine ⟨by simp [agenda], ?_, ?_⟩
      · exact iff_of_true (aborts_ofCause _ _) hcommitId
      · intro e
        obtain ⟨commitId, hcommitId⟩ := hcommitId
        simp [hcommitId, ofCause_ne_width]
  | unwrittenReveal =>
      rw [sent_take_agenda (by decide)] at hsent
      cases hsent
  | receipt => cases hsent

/-- What a submission that has broadcast its commit ends with tells of the commit exactly when the
numbers of the reveal fit their fields, and no call fails for an address of another network. -/
theorem tracks_iff_of_sent (h : Trail (s.submit blob).run history (.done outcome))
    (hsent : history.any sent = true) :
    ∃ order pair commitId, ⟨.build order, .ok pair⟩ ∈ history ∧
      pair.commit.txidText = .ok commitId ∧
      (Tracks commitId outcome ↔
        Succeeds pair.reveal.serialize ∧ ∀ x ∈ history, mismatched x = false) ∧
      ∀ e, outcome = .error (.width e) ↔ pair.reveal.serialize = .error e := by
  obtain ⟨c, calls, r, hends, hstands⟩ := exists_ends_of_trail h
  have hagenda := hends.prefix_agenda
  -- All calls have succeeded, or the last of those made has failed.
  rcases hstands with ⟨rfl, rfl⟩ | ⟨made, call, later, cause, rfl, rfl, rfl⟩
  · have hmatched : ∀ x ∈ calls.map Call.exchange, mismatched x = false :=
      fun x => mismatched_of_mem_made
    obtain ⟨hcommitId, hlength, htracks, hwidth⟩ := tracks_iff_of_ends hends hsent
    obtain ⟨order, hbuilt⟩ := exists_built_of_length hagenda hlength
    refine ⟨order, c.pair, c.commitId, hbuilt, hcommitId, ?_, hwidth⟩
    rw [htracks]
    exact (and_iff_left hmatched).symm
  · have hcall := snoc_prefix hagenda
    rw [sent_failing hcall, decide_eq_true_eq] at hsent
    rw [Call.failure, commitId?_of_getElem? (getElem?_length_agenda hcall), if_pos hsent]
    obtain ⟨order, hbuilt⟩ :=
      exists_built_of_length ((List.prefix_append _ _).trans hagenda) (by omega)
    have hlong : 10 < (made ++ call :: later).length := by simp; omega
    have hraw := hends.serialize_reveal hlong
    refine ⟨order, c.pair, c.commitId, List.mem_append_left _ hbuilt,
      hends.txidText_commit (by omega), ?_, ?_⟩
    · rw [tracks_ofCause_iff, and_iff_left rfl]
      constructor
      · intro hmismatch
        refine ⟨⟨c.raw, hraw⟩, ?_⟩
        intro x hx
        rcases List.mem_append.mp hx with hx | hx
        · exact mismatched_of_mem_made hx
        · rw [List.mem_singleton.mp hx]
          exact hmismatch
      · rintro ⟨-, hmatched⟩
        exact hmatched _ (List.mem_append_right _ (List.mem_singleton_self _))
    · intro e
      simp [hraw, ofCause_ne_width]

/-- A submission that has not broadcast its commit fails at a step, or for an address of another
network, unless the commit has come and has no identifier. -/
theorem aborts_iff_of_not_sent (h : Trail (s.submit blob).run history (.done outcome))
    (hsent : history.any sent = false) :
    (Aborts outcome ↔
      ∀ order pair, ⟨.build order, .ok pair⟩ ∈ history → Succeeds pair.commit.txidText) ∧
    ∀ e, outcome = .error (.width e) ↔
      ∃ order pair, ⟨.build order, .ok pair⟩ ∈ history ∧ pair.commit.txidText = .error e := by
  obtain ⟨c, calls, r, hends, hstands⟩ := exists_ends_of_trail h
  have hagenda := hends.prefix_agenda
  rcases hstands with ⟨rfl, rfl⟩ | ⟨made, call, later, cause, rfl, rfl, rfl⟩
  · obtain ⟨hlength, haborts, hwidth⟩ := aborts_iff_of_ends hends hsent
    obtain ⟨order, hbuilt⟩ := exists_built_of_length hagenda hlength
    constructor
    · rw [haborts]
      constructor
      · intro hcommitId order pair hpair
        rwa [(pair_of_mem_made hagenda hpair).1]
      · intro hcommitId
        exact hcommitId order c.pair hbuilt
    · intro e
      rw [hwidth]
      constructor
      · intro he
        exact ⟨order, c.pair, hbuilt, he⟩
      · rintro ⟨order, pair, hpair, he⟩
        rwa [(pair_of_mem_made hagenda hpair).1] at he
  · have hcall := snoc_prefix hagenda
    rw [sent_failing hcall, decide_eq_false_iff_not] at hsent
    rw [Call.failure, commitId?_of_getElem? (getElem?_length_agenda hcall), if_neg hsent]
    have hcommitId : ∀ order pair, ⟨.build order, .ok pair⟩ ∈ made.map Call.exchange ++
        [(⟨call.question, .error cause⟩ : Exchange Answer)] →
          pair.commit.txidText = .ok c.commitId := by
      intro order pair hpair
      obtain ⟨rfl, hbuilt⟩ := pair_of_mem_made ((List.prefix_append _ _).trans hagenda)
        (mem_made_of_mem_failing hpair)
      exact hends.txidText_commit (by simp; omega)
    constructor
    · refine iff_of_true (aborts_ofCause _ _) ?_
      intro order pair hpair
      exact ⟨_, hcommitId order pair hpair⟩
    · intro e
      constructor
      · intro he
        exact absurd (Except.error.inj he) (ofCause_ne_width _ _ _ _)
      · rintro ⟨order, pair, hpair, he⟩
        rw [hcommitId order pair hpair] at he
        cases he

/-- A submission that has broadcast its commit tells of it in its receipt or its failure exactly
when the numbers of the reveal fit their fields and no collaborator reports an address of another
network. A submission that has not fails at a step, or for such an address, exactly when the numbers
of the commit fit, if it has come to one. -/
theorem tracks_iff_of_trail (s : Submitter) (blob : Bytes)
    (htrail : Trail (s.submit blob).run history (.done outcome)) :
    (history.any sent = true →
      ∃ order pair commitId, ⟨.build order, .ok pair⟩ ∈ history ∧
        pair.commit.txidText = .ok commitId ∧
        (Tracks commitId outcome ↔
          (pair.reveal.Fits ∧ ∀ i ∈ pair.reveal.inputs, i.WitnessFits) ∧
            ∀ x ∈ history, mismatched x = false) ∧
        ∀ e, outcome = .error (.width e) ↔ pair.reveal.serialize = .error e) ∧
    (history.any sent = false →
      (Aborts outcome ↔ ∀ order pair, ⟨.build order, .ok pair⟩ ∈ history → pair.commit.Fits) ∧
      ∀ e, outcome = .error (.width e) ↔
        ∃ order pair, ⟨.build order, .ok pair⟩ ∈ history ∧ pair.commit.txidText = .error e) := by
  constructor
  · intro hsent
    obtain ⟨order, pair, commitId, hbuilt, hcommitId, htracks, hwidth⟩ :=
      tracks_iff_of_sent htrail hsent
    rw [Transaction.succeeds_serialize_iff] at htracks
    exact ⟨order, pair, commitId, hbuilt, hcommitId, htracks, hwidth⟩
  · intro hsent
    simpa only [Transaction.succeeds_txidText_iff] using aborts_iff_of_not_sent htrail hsent

end Submitter

namespace Specimen

def inscriber : Submitter where
  rollup := "r"
  network := .regtest
  destination := "bcrt1qw508d6qejxtdg4y5r3zarvary0c5xw7kygt080"
  privateKey := "1f1f1f1f1f1f1f1f1f1f1f1f1f1f1f1f1f1f1f1f1f1f1f1f1f1f1f1f1f1f1f1f"

/-- Bodies are the blobs themselves. -/
def plain : Compressor where
  compress := .ok
  decompress := .ok

def destination : Address where
  text := inscriber.destination
  kind := .segwit "bcrt"
  scriptPubkey := [0x00, 0x14, 0x75, 0x1e, 0x76, 0xe8, 0x19, 0x91, 0x96, 0xd4, 0x54, 0x94, 0x1c,
    0x45, 0xd1, 0xb3, 0xa3, 0x23, 0xf1, 0x43, 0x3b, 0xd6]

def signed : Authentication.Signed where
  signature := [
    0x5b, 0x17, 0x10, 0xd9, 0xbb, 0x77, 0xdf, 0x7f, 0xd1, 0xd6, 0xf0, 0x2c, 0x10, 0xcd, 0xc4, 0xc8,
    0x34, 0xbb, 0x1b, 0x1f, 0x86, 0x7a, 0x2d, 0xb4, 0xa8, 0x94, 0x08, 0x27, 0xb6, 0x4e, 0xc9, 0x48,
    0x7b, 0x92, 0x94, 0xa2, 0x71, 0x4b, 0x6f, 0x6d, 0xdb, 0x5a, 0x86, 0xaf, 0x17, 0x10, 0xed, 0x30,
    0x60, 0xd8, 0xb6, 0x67, 0xfb, 0x96, 0xd8, 0xf9, 0x38, 0x4c, 0x8c, 0xb9, 0xe9, 0xb5, 0xb5, 0xb9]
  publicKey := [
    0x02, 0x50, 0x5f, 0x23, 0x4a, 0x81, 0xfe, 0x3a, 0xf8, 0x86, 0x25, 0xeb, 0xda, 0x25, 0x9d, 0xba,
    0xec, 0x44, 0xc7, 0x2b, 0x18, 0x1e, 0x2f, 0x64, 0x73, 0x5f, 0x8b, 0x8e, 0xc8, 0xd7, 0xcf, 0x73,
    0x77]

theorem forNetwork_inscriber :
    Address.forNetwork inscriber.destination inscriber.network = .ok destination := by
  decide +kernel

theorem sign_inscriber :
    Authentication.sign Ecdsa.sign [1] inscriber.privateKey = .ok signed := by
  decide +kernel

/-- The byte 1 is inscribed by these transactions. -/
def inscription (pair : TransactionPair) : Contributions where
  body := [1]
  changeAddresses := (.text "change0", .text "change1")
  outputs := [{
    txid := "abababababababababababababababababababababababababababababababab"
    vout := 1
    amount := 100000000 }]
  point :=
    { txid := "abababababababababababababababababababababababababababababababab", vout := 1 }
  destination
  signed
  rate := .ofRatio false 7 2
  pair

theorem computed_inscription {c : Contributions} {call : Call}
    (hc : c.body = [1] ∧ c.destination = destination ∧ c.signed = signed)
    (h : call ∈ inscriber.agenda [1] c) : Computed plain Ecdsa.sign call.exchange := by
  obtain ⟨hbody, hdestination, hsigned⟩ := hc
  refine Submitter.computed_of_mem_agenda ?_ ?_ ?_ h
  · rw [hbody]
    rfl
  · rw [hdestination]
    exact forNetwork_inscriber
  · rw [hbody, hsigned]
    exact sign_inscriber

/-- A commit without inputs and outputs. -/
def hollow (lockTime : Int) : Transaction where
  version := 2
  inputs := []
  outputs := []
  lockTime

end Specimen

namespace Submitter

open Specimen (inscriber inscription hollow)

theorem tracks_iff_of_trail_refused :
    let c : Contributions := { inscription ⟨hollow 0, hollow 0⟩ with
      commitId := Specimen.contributions.commitId
      unsigned := Specimen.contributions.unsigned
      signedCommit := Specimen.contributions.signedCommit
      raw := Specimen.contributions.raw }
    let refused := ((inscriber.agenda [1] c).take 11).map Call.exchange ++
      [⟨.node (.broadcast (.text (Bytes.hex c.raw))), .error (.reported "refused")⟩]
    let outcome : Except SubmissionFailure Receipt :=
      .error (.atStep .broadcastReveal (.reported "refused") (some c.commitId))
    let early : List (Exchange Answer) := [⟨.compress [1], .error (.compression .notAFrame)⟩]
    let outcome' : Except SubmissionFailure Receipt :=
      .error (.atStep .compress (.compression .notAFrame) none)
    (Trail (inscriber.submit [1]).run refused (.done outcome) ∧ refused.any sent = true ∧
      ∃ order pair commitId, ⟨.build order, .ok pair⟩ ∈ refused ∧
        pair.commit.txidText = .ok commitId ∧
        (Tracks commitId outcome ↔
          (pair.reveal.Fits ∧ ∀ i ∈ pair.reveal.inputs, i.WitnessFits) ∧
            ∀ x ∈ refused, mismatched x = false)) ∧
    Trail (inscriber.submit [1]).run early (.done outcome') ∧ early.any sent = false ∧
      (Aborts outcome' ↔
        ∀ order pair, ⟨.build order, .ok pair⟩ ∈ early → pair.commit.Fits) := by
  intro c refused outcome early outcome'
  have hfollows : Follows (inscriber.submit [1]).run (inscriber.agenda [1] c)
      (.ok ⟨c.commitId, c.revealReply⟩) :=
    follows_submit_iff.mpr ⟨c, .receipt Specimen.txidText_contributions
      Specimen.toHex_contributions Specimen.serialize_contributions⟩
  have hrefused : Trail (inscriber.submit [1]).run refused (.done outcome) := by
    have hsplit : Follows (inscriber.submit [1]).run
        ((inscriber.agenda [1] c).take 11 ++ (inscriber.agenda [1] c)[11] :: [])
        (.ok ⟨c.commitId, c.revealReply⟩) := hfollows
    exact hsplit.trail_failing _
  have hearly : Trail (inscriber.submit [1]).run early (.done outcome') := by
    have hsplit : Follows (inscriber.submit [1]).run
        ([] ++ (inscriber.agenda [1] c)[0] :: (inscriber.agenda [1] c).drop 1)
        (.ok ⟨c.commitId, c.revealReply⟩) := hfollows
    exact hsplit.trail_failing _
  obtain ⟨order, pair, commitId, hbuilt, hcommitId, htracks, -⟩ :=
    (tracks_iff_of_trail inscriber [1] hrefused).1 rfl
  obtain ⟨haborts, -⟩ := (tracks_iff_of_trail inscriber [1] hearly).2 rfl
  exact ⟨⟨hrefused, rfl, order, pair, commitId, hbuilt, hcommitId, htracks⟩, hearly, rfl, haborts⟩

/-- With a lock time below zero in the reveal, a submission loses the commit it has broadcast. -/
theorem submit_loses_commit :
    ∃ history : List (Exchange Answer),
      Trail (inscriber.submit [1]).run history (.done (.error (.width .negative))) ∧
      (∀ x ∈ history, Computed Specimen.plain Ecdsa.sign x) ∧
      history.any sent = true ∧ (∀ x ∈ history, mismatched x = false) ∧
      ∀ commitId, ¬ Tracks commitId (.error (.width .negative)) := by
  let c : Contributions := { inscription ⟨hollow 0, hollow (-1)⟩ with
    commitId := Specimen.contributions.commitId
    unsigned := Specimen.contributions.unsigned
    signedCommit := Specimen.contributions.signedCommit }
  have hraw : (hollow (-1)).serialize = .error .negative := by decide +kernel
  have hfollows : Follows (inscriber.submit [1]).run ((inscriber.agenda [1] c).take 10)
      (.error (.width .negative)) :=
    follows_submit_iff.mpr ⟨c, .unwrittenReveal Specimen.txidText_contributions
      Specimen.toHex_contributions hraw⟩
  refine ⟨_, hfollows.trail_done, ?_, rfl, fun x => mismatched_of_mem_made, fun _ => id⟩
  intro x hx
  obtain ⟨call, hcall, rfl⟩ := List.mem_map.mp hx
  exact Specimen.computed_inscription ⟨rfl, rfl, rfl⟩ (List.mem_of_mem_take hcall)

end Submitter

end BlobInscription
