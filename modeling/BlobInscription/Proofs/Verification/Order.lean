import BlobInscription.Proofs.Verification.Honest

namespace BlobInscription

open Traversal

theorem forall_perm_eq_iff {α : Type} [DecidableEq α] {xs : List α} :
    (∀ ys : List α, ys.Perm xs → ys = xs) ↔ ∀ a ∈ xs, ∀ b ∈ xs, a = b := by
  constructor
  · intro hunique a ha b hb
    have hfirst := hunique (a :: xs.erase a) (List.perm_cons_erase ha).symm
    have hsecond := hunique (b :: xs.erase b) (List.perm_cons_erase hb).symm
    exact List.head_eq_of_cons_eq (hfirst.trans hsecond.symm)
  · intro hsame ys hperm
    cases xs with
    | nil => exact hperm.eq_nil
    | cons a xs =>
        have hall : ∀ b ∈ a :: xs, b = a := fun b hb => hsame b hb a (List.mem_cons_self)
        rw [List.eq_replicate_of_mem hall] at hperm ⊢
        exact List.perm_replicate.mp hperm

namespace Verifier

variable {v : Verifier} {header : BlockHeader} {inclusion : InclusionProof}
  {completeness : CompletenessProof} {blobs out : List Blob}

theorem perm_carried_of_verify (h : v.verify header blobs inclusion completeness = .ok out) :
    blobs.Perm (v.carried completeness.transactions) := by
  obtain ⟨-, hcompleteness, -⟩ := verify_eq_ok_iff.mp h
  obtain ⟨ids, hids⟩ := exists_ids_of_verifyCompleteness hcompleteness
  exact ((verifyCompleteness_eq_ok_iff hids).mp hcompleteness).2.2

theorem verify_of_perm {blobs' : List Blob}
    (h : v.verify header blobs inclusion completeness = .ok out) (hperm : blobs'.Perm blobs) :
    v.verify header blobs' inclusion completeness = .ok blobs' := by
  obtain ⟨hroot, hcompleteness, hheader, -⟩ := verify_eq_ok_iff.mp h
  obtain ⟨ids, hids⟩ := exists_ids_of_verifyCompleteness hcompleteness
  obtain ⟨hnodup, hsampled, hcarried⟩ := (verifyCompleteness_eq_ok_iff hids).mp hcompleteness
  have hcompleteness' : v.verifyCompleteness blobs' inclusion completeness = .ok () :=
    (verifyCompleteness_eq_ok_iff hids).mpr ⟨hnodup, hsampled, hperm.trans hcarried⟩
  exact verify_eq_ok_iff.mpr ⟨hroot, hcompleteness', hheader, rfl⟩

/-- When a list of blobs is accepted, it is given back as it is, and with the same header and proofs
its permutations and no other lists are accepted. Among them is the list of what the supplied
transactions carry, in their order. The accepted list is the only one exactly when it does not hold
two different blobs. -/
theorem verify_iff_perm_of_verify (v : Verifier) (header : BlockHeader)
    (inclusion : InclusionProof) (completeness : CompletenessProof) (blobs out : List Blob)
    (h : v.verify header blobs inclusion completeness = .ok out) :
    out = blobs ∧
    (∀ blobs' out', v.verify header blobs' inclusion completeness = .ok out' ↔
      out' = blobs' ∧ blobs'.Perm blobs) ∧
    blobs.Perm (completeness.transactions.filterMap (·.blob? v.rollup v.compressor)) ∧
    ((∀ blobs' out', v.verify header blobs' inclusion completeness = .ok out' → blobs' = blobs) ↔
      ∀ a ∈ blobs, ∀ b ∈ blobs, a = b) := by
  have haccepted : ∀ blobs' out', v.verify header blobs' inclusion completeness = .ok out' ↔
      out' = blobs' ∧ blobs'.Perm blobs := by
    intro blobs' out'
    constructor
    · intro h'
      refine ⟨(verify_eq_ok_iff.mp h').2.2.2, ?_⟩
      exact (perm_carried_of_verify h').trans (perm_carried_of_verify h).symm
    · rintro ⟨rfl, hperm⟩
      exact verify_of_perm h hperm
  refine ⟨((haccepted blobs out).mp h).1, haccepted, perm_carried_of_verify h, ?_⟩
  rw [← forall_perm_eq_iff]
  constructor
  · intro honly blobs' hperm
    exact honly blobs' blobs' (verify_of_perm h hperm)
  · intro hunique blobs' out' h'
    exact hunique blobs' ((haccepted blobs' out').mp h').2

end Verifier

namespace Specimen

/-- Another envelope that authenticates, made as the first one. -/
def laterEnvelope : Envelope where
  body := [4]
  signature := Sha256.double [4] ++ Sha256.double [4]
  publicKey :=
    2 :: Bytes.ofNatBE 32 0x7b74cc444e456dcf4d3d4e402574f591e29471abe510a347a0d98e3bce6a9339

def laterReveal : Transaction where
  version := 2
  inputs := [{
    prevout := ⟨List.replicate 32 0, 1⟩
    witness := [(Envelope.toScript "r" laterEnvelope [] none 520).toOption.getD [], [0xc0]] }]
  outputs := []

def laterId : Bytes :=
  Bytes.ofNatBE 32 0x4b3e1d5938ed3b8e296aeae3cdb832a4f3c59118666eb558e398027f35347ed4

def laterBlob : Blob where
  blob := [4]
  sender := laterEnvelope.publicKey
  hash := Sha256.double [4]

def revealsBlock : Block where
  header := {
    version := 2
    prevBlockHash := List.replicate 32 0
    merkleRoot :=
      Bytes.ofNatBE 32 0x70c406c7b540d0aef123008beee37c38dd640bfa751d79e517582f6ade1239ee
    time := 0
    bits := 0
    nonce := 0 }
  entries := [
    ⟨reveal, some blob.sender, some blob.hash⟩,
    ⟨laterReveal, some laterBlob.sender, some laterBlob.hash⟩]

theorem txid_laterReveal : laterReveal.txid = .ok laterId := by
  rw [Transaction.txid, Sha256.double_eq]
  decide +kernel

theorem blob?_laterReveal : laterReveal.blob? "r" .identity = some laterBlob := by
  decide +kernel

theorem mapM_txid_revealsBlock :
    revealsBlock.transactions.mapM Transaction.txid = .ok [revealId, laterId] := by
  simp [Block.transactions, revealsBlock, txid_reveal, txid_laterReveal, bind, Except.bind, pure,
    Except.pure]

theorem root?_revealsBlock :
    MerkleTree.root? [revealId, laterId] = some revealsBlock.header.merkleRoot := by
  have hcombine : MerkleTree.combine revealId laterId = revealsBlock.header.merkleRoot := by
    rw [MerkleTree.combine, Sha256.double_eq]
    decide +kernel
  simp [MerkleTree.root?, MerkleTree.rootOf, MerkleTree.parents, hcombine]

theorem annotatedFor_revealsBlock : revealsBlock.AnnotatedFor "r" := by
  have hfirst : AnnotatedTransaction.annotate "r" reveal =
      .ok ⟨reveal, some blob.sender, some blob.hash⟩ :=
    AnnotatedTransaction.annotate_of_blob? blob?_reveal
  have hsecond : AnnotatedTransaction.annotate "r" laterReveal =
      .ok ⟨laterReveal, some laterBlob.sender, some laterBlob.hash⟩ :=
    AnnotatedTransaction.annotate_of_blob? blob?_laterReveal
  simpa [Block.AnnotatedFor, revealsBlock] using ⟨hfirst, hsecond⟩

theorem carried_revealsBlock :
    verifier.carried revealsBlock.transactions = [blob, laterBlob] := by
  have hfirst : reveal.blob? verifier.rollup verifier.compressor = some blob := blob?_reveal
  have hsecond : laterReveal.blob? verifier.rollup verifier.compressor = some laterBlob :=
    blob?_laterReveal
  simp [Verifier.carried, Block.transactions, revealsBlock, hfirst, hsecond]

theorem extract_revealsBlock :
    Scanner.extract ⟨"r", .identity⟩ revealsBlock = .ok [blob, laterBlob] := by
  have hids : ∀ tx ∈ revealsBlock.transactions, Succeeds tx.txid :=
    succeeds_mapM.mp ⟨_, mapM_txid_revealsBlock⟩
  rw [Scanner.extract_of_annotatedFor annotatedFor_revealsBlock hids]
  exact congrArg Except.ok carried_revealsBlock

theorem verify_revealsBlock :
    verifier.verify revealsBlock.header [blob, laterBlob] ⟨[revealId, laterId]⟩
      ⟨revealsBlock.transactions⟩ = .ok [blob, laterBlob] := by
  refine Verifier.verify_eq_ok_iff.mpr ⟨root?_revealsBlock, ?_, by constructor <;> decide, rfl⟩
  refine (Verifier.verifyCompleteness_eq_ok_iff mapM_txid_revealsBlock).mpr ⟨by decide, ?_, ?_⟩
  · intro id
    simp [SampleFilter.passes, verifier]
  · exact .of_eq carried_revealsBlock.symm

end Specimen

theorem Verifier.verify_iff_perm_revealsBlock :
    Specimen.verifier.verify Specimen.revealsBlock.header [Specimen.blob, Specimen.laterBlob]
        ⟨[Specimen.revealId, Specimen.laterId]⟩ ⟨Specimen.revealsBlock.transactions⟩ =
          .ok [Specimen.blob, Specimen.laterBlob] ∧
      ∀ blobs, Specimen.verifier.verify Specimen.revealsBlock.header blobs
          ⟨[Specimen.revealId, Specimen.laterId]⟩ ⟨Specimen.revealsBlock.transactions⟩ =
            .ok blobs ↔
        blobs.Perm [Specimen.blob, Specimen.laterBlob] := by
  obtain ⟨-, haccepted, -⟩ := verify_iff_perm_of_verify Specimen.verifier
    Specimen.revealsBlock.header ⟨[Specimen.revealId, Specimen.laterId]⟩
    ⟨Specimen.revealsBlock.transactions⟩ _ _ Specimen.verify_revealsBlock
  refine ⟨Specimen.verify_revealsBlock, ?_⟩
  intro blobs
  rw [haccepted]
  exact and_iff_right rfl

/-- Two blobs of a block are accepted in block order, and the other way round. -/
theorem Verifier.verify_reversed_reveals :
    Specimen.revealsBlock.AnnotatedFor "r" ∧
      Scanner.extract ⟨"r", .identity⟩ Specimen.revealsBlock =
        .ok [Specimen.blob, Specimen.laterBlob] ∧
      Specimen.verifier.verify Specimen.revealsBlock.header [Specimen.blob, Specimen.laterBlob]
        ⟨[Specimen.revealId, Specimen.laterId]⟩ ⟨Specimen.revealsBlock.transactions⟩ =
          .ok [Specimen.blob, Specimen.laterBlob] ∧
      Specimen.verifier.verify Specimen.revealsBlock.header [Specimen.laterBlob, Specimen.blob]
        ⟨[Specimen.revealId, Specimen.laterId]⟩ ⟨Specimen.revealsBlock.transactions⟩ =
          .ok [Specimen.laterBlob, Specimen.blob] ∧
      [Specimen.blob, Specimen.laterBlob] ≠ [Specimen.laterBlob, Specimen.blob] := by
  refine ⟨Specimen.annotatedFor_revealsBlock, Specimen.extract_revealsBlock,
    Specimen.verify_revealsBlock, ?_, by decide⟩
  exact verify_of_perm Specimen.verify_revealsBlock (.swap _ _ _)

end BlobInscription
