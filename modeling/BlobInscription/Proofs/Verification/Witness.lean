import BlobInscription.Proofs.Transaction.Identity
import BlobInscription.Proofs.Verification.Honest
import BlobInscription.Proofs.Verification.Inclusion

namespace BlobInscription

open Traversal

/-- The block with the sampled transactions only. -/
def Block.sampled (block : Block) (filter : SampleFilter) : Block where
  header := block.header
  entries := block.entries.filter fun entry => filter.samples entry.transaction
  height? := block.height?

theorem Block.transactions_sampled (block : Block) (filter : SampleFilter) :
    (block.sampled filter).transactions = block.transactions.filter filter.samples := by
  simp [sampled, transactions, List.filter_map, Function.comp_def]

theorem Block.AnnotatedFor.sampled {block : Block} {rollup : String}
    (h : block.AnnotatedFor rollup) (filter : SampleFilter) :
    (block.sampled filter).AnnotatedFor rollup :=
  fun entry hentry => h entry (List.mem_of_mem_filter hentry)

theorem Transaction.blob?_bare (tx : Transaction) (rollup : String) (c : Compressor) :
    tx.bare.blob? rollup c = none := by
  have hleaf : ∃ e, Envelope.leafScript tx.bare = .error e := by
    cases hinputs : tx.inputs with
    | nil => exact ⟨.noInputs, by simp [Envelope.leafScript, bare, hinputs]⟩
    | cons first rest =>
        refine ⟨.noScriptPath, ?_⟩
        simp [Envelope.leafScript, bare, hinputs, Script.ofWitness?, Script.withoutAnnex]
  obtain ⟨e, hleaf⟩ := hleaf
  simp [blob?, Envelope.ofTransaction, hleaf, bind, Except.bind]

theorem Transaction.serializeStripped_eq_of_txid {strings : List Bytes}
    (hfree : ¬ Sha256.Collides strings) {tx own : Transaction} {id : Bytes}
    (hstrings : ∀ bytes, tx.serializeStripped = .ok bytes ∨ own.serializeStripped = .ok bytes →
      bytes ∈ strings)
    (htx : tx.txid = .ok id) (hown : own.txid = .ok id) :
    tx.serializeStripped = own.serializeStripped := by
  obtain ⟨bytes, hbytes, hdouble⟩ := exists_encoding_of_txid htx
  obtain ⟨bytes', hbytes', hdouble'⟩ := exists_encoding_of_txid hown
  have heq : bytes = bytes' :=
    Sha256.eq_of_double_eq hfree (hstrings bytes (.inl hbytes)) (hstrings bytes' (.inr hbytes'))
      (hdouble.trans hdouble'.symm)
  rw [hbytes, hbytes', heq]

theorem Transaction.blob?_congr {tx own : Transaction} (rollup : String) (c : Compressor)
    (h : Envelope.leafScript tx = Envelope.leafScript own) :
    tx.blob? rollup c = own.blob? rollup c := by
  rw [blob?, blob?, Envelope.ofTransaction, Envelope.ofTransaction, h]

namespace Verifier

variable {v : Verifier} {block : Block} {ids : List Bytes}

theorem carried_congr {supplied own : List Transaction}
    (h : List.Forall₂ (fun tx tx' => Envelope.leafScript tx = Envelope.leafScript tx')
      supplied own) : v.carried supplied = v.carried own := by
  induction h with
  | nil => rfl
  | cons hleaf hrest ih =>
      simp only [carried] at ih
      simp only [carried, List.filterMap_cons, ih,
        Transaction.blob?_congr v.rollup v.compressor hleaf]

theorem carried_bare (transactions : List Transaction) :
    v.carried (transactions.map Transaction.bare) = [] := by
  simp [carried, Transaction.blob?_bare]

theorem exists_paired {filter : SampleFilter} {supplied : List Transaction}
    {listed : List Bytes}
    (hids : block.transactions.mapM Transaction.txid = .ok ids) (hnodup : ids.Nodup)
    (hsupplied : supplied.mapM Transaction.txid = .ok listed)
    (hnodup' : listed.Nodup)
    (hmem : ∀ id, id ∈ listed ↔ id ∈ ids ∧ filter.passes id = true) :
    ∃ paired, List.Perm paired (block.sampled filter).transactions ∧
      List.Forall₂ (fun tx own => ∃ id, tx.txid = .ok id ∧ own.txid = .ok id) supplied paired := by
  have hperm : listed.Perm (ids.filter filter.passes) := by
    rw [List.perm_ext_iff_of_nodup hnodup' (hnodup.filter _)]
    intro id
    rw [hmem, List.mem_filter]
  have hown : List.Forall₂ (fun id own => own.txid = .ok id) (ids.filter filter.passes)
      (block.sampled filter).transactions := by
    rw [Block.transactions_sampled]
    exact (forall₂_txid_filter (mapM_eq_ok_iff.mp hids)).flip
  obtain ⟨paired, hpaired, hblock⟩ := List.perm_comp_forall₂ hperm hown
  exact ⟨paired, hblock, forall₂_comp (mapM_eq_ok_iff.mp hsupplied) hpaired⟩

theorem forall₂_serializeStripped {supplied paired transactions : List Transaction}
    (hfree : ¬ Sha256.Collides (encodings (supplied ++ transactions)))
    (hpaired : List.Forall₂ (fun tx own => ∃ id, tx.txid = .ok id ∧ own.txid = .ok id)
      supplied paired)
    (hsub : ∀ own ∈ paired, own ∈ transactions) :
    List.Forall₂ (fun tx own => tx.serializeStripped = own.serializeStripped) supplied paired := by
  rw [List.forall₂_iff_zip] at hpaired ⊢
  refine ⟨hpaired.1, fun {tx own} hzip => ?_⟩
  obtain ⟨htx, hown⟩ := List.of_mem_zip hzip
  obtain ⟨id, htxid, hownid⟩ := hpaired.2 hzip
  refine Transaction.serializeStripped_eq_of_txid hfree ?_ htxid hownid
  rintro bytes (hbytes | hbytes)
  · exact mem_encodings (List.mem_append_left _ htx) hbytes
  · exact mem_encodings (List.mem_append_right _ (hsub own hown)) hbytes

/-- Transactions with the encodings of the sampled ones of a block, witnesses apart, are accepted
with the blobs that they carry themselves. -/
theorem verify_substituted_iff {supplied : List Transaction} {blobs : List Blob}
    (hids : block.transactions.mapM Transaction.txid = .ok ids)
    (hroot : MerkleTree.root? ids = some block.header.merkleRoot) (hnodup : ids.Nodup)
    (hheader : block.header.Fits)
    (hencodings : List.Forall₂ (fun tx own => tx.serializeStripped = own.serializeStripped)
      supplied (block.sampled v.filter).transactions) :
    v.verify block.header blobs ⟨ids⟩ ⟨supplied⟩ = .ok blobs ↔ blobs.Perm (v.carried supplied) := by
  rw [Block.transactions_sampled] at hencodings
  have hsupplied : supplied.mapM Transaction.txid = .ok (ids.filter v.filter.passes) := by
    refine mapM_eq_ok_iff.mpr
      ((forall₂_comp hencodings (forall₂_txid_filter (mapM_eq_ok_iff.mp hids))).imp ?_)
    rintro tx id ⟨own, hstripped, hown⟩
    rw [Transaction.txid_congr hstripped, hown]
  have hmem : ∀ id, id ∈ ids.filter v.filter.passes ↔ id ∈ ids ∧ v.filter.passes id = true :=
    fun id => List.mem_filter
  rw [verify_eq_ok_iff, verifyCompleteness_eq_ok_iff hsupplied]
  constructor
  · rintro ⟨-, ⟨-, -, hperm⟩, -, -⟩
    exact hperm
  · intro hperm
    exact ⟨hroot, ⟨hnodup.filter _, hmem, hperm⟩, hheader, rfl⟩

theorem exists_paired_of_verify {blobs : List Blob} {completeness : CompletenessProof}
    (hids : block.transactions.mapM Transaction.txid = .ok ids) (hnodup : ids.Nodup)
    (h : v.verifyCompleteness blobs ⟨ids⟩ completeness = .ok ())
    (hfree : ¬ Sha256.Collides (encodings (completeness.transactions ++ block.transactions))) :
    ∃ paired, List.Perm paired (block.sampled v.filter).transactions ∧
      List.Forall₂ (fun tx own => tx.serializeStripped = own.serializeStripped)
        completeness.transactions paired ∧
      (blobs.Perm (v.carried (block.sampled v.filter).transactions) ↔
        (v.carried completeness.transactions).Perm (v.carried paired)) := by
  obtain ⟨listed, hlisted⟩ := exists_ids_of_verifyCompleteness h
  obtain ⟨hnodup', hmem, hcarried⟩ := (verifyCompleteness_eq_ok_iff hlisted).mp h
  obtain ⟨paired, hperm, hpaired⟩ := exists_paired hids hnodup hlisted hnodup' hmem
  have hscanned : (v.carried paired).Perm (v.carried (block.sampled v.filter).transactions) :=
    hperm.filterMap _
  refine ⟨paired, hperm, forall₂_serializeStripped hfree hpaired ?_, ?_, ?_⟩
  · intro own hown
    have hin := hperm.mem_iff.mp hown
    rw [Block.transactions_sampled] at hin
    exact List.mem_of_mem_filter hin
  · intro hblobs
    exact hcarried.symm.trans (hblobs.trans hscanned.symm)
  · intro hblobs
    exact hcarried.trans (hblobs.trans hscanned)

/-- Accepted blobs are a permutation of those of the sampled transactions of the block exactly when
the supplied transactions carry what these carry, as they do with the same leaf scripts. Accepted
are the blobs of all transactions with the encodings of the sampled ones, whatever their witnesses:
without witnesses, none at all. -/
theorem verify_perm_scanned_iff (v : Verifier) (block : Block) (ids : List Bytes)
    (hannotated : block.AnnotatedFor v.rollup)
    (hids : block.transactions.mapM Transaction.txid = .ok ids)
    (hroot : MerkleTree.root? ids = some block.header.merkleRoot) (hnodup : ids.Nodup) :
    ∃ scanned, Scanner.extract ⟨v.rollup, v.compressor⟩ (block.sampled v.filter) = .ok scanned ∧
      (∀ blobs completeness out,
        v.verify block.header blobs ⟨ids⟩ completeness = .ok out →
        out = blobs ∧
        (Sha256.Collides (encodings (completeness.transactions ++ block.transactions)) ∨
          ∃ paired, List.Perm paired (block.sampled v.filter).transactions ∧
            List.Forall₂ (fun tx own => tx.serializeStripped = own.serializeStripped)
              completeness.transactions paired ∧
            (blobs.Perm scanned ↔
              (v.carried completeness.transactions).Perm (v.carried paired)) ∧
            (List.Forall₂ (fun tx own => Envelope.leafScript tx = Envelope.leafScript own)
              completeness.transactions paired → blobs.Perm scanned))) ∧
      (block.header.Fits → ∀ blobs supplied,
        List.Forall₂ (fun tx own => tx.serializeStripped = own.serializeStripped)
          supplied (block.sampled v.filter).transactions →
        (v.verify block.header blobs ⟨ids⟩ ⟨supplied⟩ = .ok blobs ↔
          blobs.Perm (v.carried supplied))) ∧
      (block.header.Fits →
        v.verify block.header [] ⟨ids⟩
          ⟨(block.sampled v.filter).transactions.map Transaction.bare⟩ = .ok []) := by
  have hsucceeds : ∀ tx ∈ (block.sampled v.filter).transactions, Succeeds tx.txid := by
    rw [Block.transactions_sampled]
    intro tx htx
    exact succeeds_mapM.mp ⟨ids, hids⟩ tx (List.mem_of_mem_filter htx)
  refine ⟨v.carried (block.sampled v.filter).transactions, ?_, ?_, ?_, ?_⟩
  · exact Scanner.extract_of_annotatedFor (hannotated.sampled v.filter) hsucceeds
  · intro blobs completeness out haccept
    obtain ⟨-, hcompleteness, -, hout⟩ := verify_eq_ok_iff.mp haccept
    refine ⟨hout, or_iff_not_imp_left.mpr fun hfree => ?_⟩
    obtain ⟨paired, hperm, hencodings, hiff⟩ :=
      exists_paired_of_verify hids hnodup hcompleteness hfree
    refine ⟨paired, hperm, hencodings, hiff, ?_⟩
    intro hleaves
    rw [hiff, carried_congr hleaves]
  · intro hheader blobs supplied hencodings
    exact verify_substituted_iff hids hroot hnodup hheader hencodings
  · intro hheader
    have hencodings : List.Forall₂ (fun tx own => tx.serializeStripped = own.serializeStripped)
        ((block.sampled v.filter).transactions.map Transaction.bare)
        (block.sampled v.filter).transactions := by
      rw [List.forall₂_map_left_iff, List.forall₂_same]
      intro tx htx
      exact tx.serializeStripped_bare
    rw [verify_substituted_iff hids hroot hnodup hheader hencodings, carried_bare]

end Verifier

theorem Verifier.verify_perm_scanned_mixedBlock :
    let ids := [Specimen.sampledId, Specimen.plainId, Specimen.echoId]
    let supplied := [Specimen.carrier 0 680, Specimen.carrier 1 184]
    Specimen.mixedBlock.AnnotatedFor Specimen.sampler.rollup ∧
      Specimen.mixedBlock.transactions.mapM Transaction.txid = .ok ids ∧
      MerkleTree.root? ids = some Specimen.mixedBlock.header.merkleRoot ∧ ids.Nodup ∧
      Specimen.mixedBlock.header.Fits ∧
      Specimen.sampler.verify Specimen.mixedBlock.header [Specimen.blob, Specimen.blob] ⟨ids⟩
        ⟨supplied⟩ = .ok [Specimen.blob, Specimen.blob] ∧
      ∃ scanned, Scanner.extract ⟨"r", .identity⟩ (Specimen.mixedBlock.sampled
        Specimen.sampler.filter) = .ok scanned ∧
        [Specimen.blob, Specimen.blob].Perm scanned := by
  intro ids supplied
  have hnodup : ids.Nodup := by decide
  have hsampled : (Specimen.mixedBlock.sampled Specimen.sampler.filter).transactions = supplied := by
    rw [Block.transactions_sampled, Specimen.samples_mixedBlock]
  obtain ⟨scanned, hscanned, haccepted, hsubstituted, -⟩ :=
    verify_perm_scanned_iff Specimen.sampler Specimen.mixedBlock ids
      Specimen.annotatedFor_mixedBlock Specimen.mapM_txid_mixedBlock Specimen.root?_mixedBlock
      hnodup
  rw [hsampled] at haccepted hsubstituted
  have hcarried : Specimen.sampler.carried supplied = [Specimen.blob, Specimen.blob] := by
    have hcarrier : ∀ vout lockTime, (Specimen.carrier vout lockTime).blob?
        Specimen.sampler.rollup Specimen.sampler.compressor = some Specimen.blob :=
      Specimen.blob?_carrier
    simp [carried, supplied, hcarrier]
  have haccept : Specimen.sampler.verify Specimen.mixedBlock.header
      [Specimen.blob, Specimen.blob] ⟨ids⟩ ⟨supplied⟩ = .ok [Specimen.blob, Specimen.blob] := by
    rw [hsubstituted Specimen.fits_mixedHeader _ supplied (List.forall₂_same.mpr fun _ _ => rfl),
      hcarried]
  have hfree : ¬ Sha256.Collides
      (encodings (supplied ++ Specimen.mixedBlock.transactions)) := by
    apply not_collides_encodings Specimen.mapM_txid_mixedBlock hnodup
    simp [supplied, ← Specimen.samples_mixedBlock]
  obtain ⟨paired, hperm, -, hiff, -⟩ := (haccepted _ _ _ haccept).2.resolve_left hfree
  refine ⟨Specimen.annotatedFor_mixedBlock, Specimen.mapM_txid_mixedBlock,
    Specimen.root?_mixedBlock, hnodup, Specimen.fits_mixedHeader, haccept, scanned, hscanned,
    hiff.mpr ?_⟩
  exact (hperm.filterMap _).symm

/-- The block of one reveal carries a blob, and the proof that leaves the witness out is accepted
without any. -/
theorem Verifier.verify_bare_reveal :
    Specimen.block.AnnotatedFor Specimen.verifier.rollup ∧
      Specimen.block.transactions.mapM Transaction.txid = .ok [Specimen.revealId] ∧
      MerkleTree.root? [Specimen.revealId] = some Specimen.block.header.merkleRoot ∧
      [Specimen.revealId].Nodup ∧
      Scanner.extract ⟨"r", .identity⟩ (Specimen.block.sampled Specimen.verifier.filter) =
        .ok [Specimen.blob] ∧
      ¬ Sha256.Collides (encodings ([Specimen.reveal.bare] ++ Specimen.block.transactions)) ∧
      Specimen.verifier.verify Specimen.block.header [] ⟨[Specimen.revealId]⟩
        ⟨[Specimen.reveal.bare]⟩ = .ok [] ∧
      ¬ List.Perm [] [Specimen.blob] := by
  have hids := Specimen.mapM_txid_block
  have hbare : [Specimen.reveal.bare].mapM Transaction.txid = .ok [Specimen.revealId] := hids
  have hcompleteness : Specimen.verifier.verifyCompleteness [] ⟨[Specimen.revealId]⟩
      ⟨[Specimen.reveal.bare]⟩ = .ok () := by
    refine (verifyCompleteness_eq_ok_iff hbare).mpr ⟨List.nodup_singleton _, ?_, .of_eq rfl⟩
    intro id
    simp [SampleFilter.passes, Specimen.verifier]
  have hscanned : Scanner.extract ⟨"r", .identity⟩
      (Specimen.block.sampled Specimen.verifier.filter) = .ok [Specimen.blob] := by
    decide +kernel
  have hfree : ¬ Sha256.Collides (encodings [Specimen.reveal, Specimen.reveal]) :=
    not_collides_encodings hids (List.nodup_singleton _)
      (by simp [Block.transactions, Specimen.block])
  refine ⟨Specimen.annotatedFor_block, hids, Specimen.root?_block, List.nodup_singleton _,
    hscanned, hfree, ?_, by simp⟩
  exact verify_eq_ok_iff.mpr ⟨Specimen.root?_block, hcompleteness, Specimen.fits_header, rfl⟩

end BlobInscription
