import BlobInscription.Proofs.Verification.Acceptance
import BlobInscription.Service

namespace BlobInscription

open Traversal

def SampleFilter.samples (filter : SampleFilter) (tx : Transaction) : Bool :=
  match tx.txid with
  | .ok id => filter.passes id
  | .error _ => false

theorem SampleFilter.samples_of_txid (filter : SampleFilter) {tx : Transaction} {id : Bytes}
    (hid : tx.txid = .ok id) : filter.samples tx = filter.passes id := by
  simp [samples, hid]

theorem forall₂_txid_filter {filter : SampleFilter} {transactions : List Transaction}
    {ids : List Bytes}
    (hids : List.Forall₂ (fun tx id => tx.txid = .ok id) transactions ids) :
    List.Forall₂ (fun tx id => tx.txid = .ok id) (transactions.filter filter.samples)
      (ids.filter filter.passes) := by
  induction hids with
  | nil => exact .nil
  | @cons tx id rest ids hid hids ih =>
      have hsamples := filter.samples_of_txid hid
      cases hpasses : filter.passes id with
      | false => simpa [hsamples, hpasses] using ih
      | true => simpa [hsamples, hpasses] using ⟨hid, ih⟩

theorem map_snd_filter_zip {filter : SampleFilter} {transactions : List Transaction}
    {ids : List Bytes}
    (hids : List.Forall₂ (fun tx id => tx.txid = .ok id) transactions ids) :
    ((ids.zip transactions).filter fun (id, _) => filter.passes id).map Prod.snd =
      transactions.filter filter.samples := by
  induction hids with
  | nil => rfl
  | @cons tx id rest ids hid hids ih =>
      have hsamples := filter.samples_of_txid hid
      cases hpasses : filter.passes id with
      | false => simpa [hsamples, hpasses] using ih
      | true => simpa [hsamples, hpasses] using ih

theorem Block.prove_eq_ok {block : Block} {filter : SampleFilter} {ids : List Bytes}
    (hids : block.transactions.mapM Transaction.txid = .ok ids) :
    block.prove filter = .ok (⟨ids⟩, ⟨block.transactions.filter filter.samples⟩) := by
  have hrelated := mapM_eq_ok_iff.mp hids
  have hfst : (ids.zip block.transactions).map Prod.fst = ids :=
    List.map_fst_zip hrelated.length_eq.ge
  rw [prove, mapM_paired hids]
  simp only [bind, Except.bind, pure, Except.pure, hfst, map_snd_filter_zip hrelated]

theorem filterMap_perm_filterMap_filter_iff {α β : Type} {f : α → Option β} {p : α → Bool}
    {xs : List α} :
    (xs.filterMap f).Perm ((xs.filter p).filterMap f) ↔
      ∀ x ∈ xs, (f x).isSome = true → p x = true := by
  induction xs with
  | nil => simp
  | cons x xs ih =>
      cases hp : p x with
      | true =>
          cases hf : f x with
          | none => simpa [hp, hf] using ih
          | some b => simpa [hp, hf] using ih
      | false =>
          cases hf : f x with
          | none => simpa [hp, hf] using ih
          | some b =>
              simp only [List.filterMap_cons, hf, List.filter_cons, hp, Bool.false_eq_true,
                if_false, List.mem_cons, forall_eq_or_imp, Option.isSome_some, forall_const,
                false_and, iff_false]
              intro hperm
              have hsub : ((xs.filter p).filterMap f).length ≤ (xs.filterMap f).length :=
                (List.filter_sublist.filterMap f).length_le
              have hlength := hperm.length_eq
              rw [List.length_cons] at hlength
              omega

theorem Service.extraction_eq_ok {s : Service} {block : Block} {ids : List Bytes}
    (hannotated : block.AnnotatedFor s.rollup) (hheader : block.header.Fits)
    (hids : block.transactions.mapM Transaction.txid = .ok ids) :
    s.extraction block = .ok {
      blobs := s.verifier.carried block.transactions
      inclusion := ⟨ids⟩
      completeness := ⟨block.transactions.filter s.filter.samples⟩ } := by
  obtain ⟨hash, hhash⟩ := BlockHeader.succeeds_hash_iff.mpr hheader
  have hscan : s.scanner.extract block = .ok (s.verifier.carried block.transactions) :=
    Scanner.extract_of_annotatedFor hannotated (succeeds_mapM.mp ⟨ids, hids⟩)
  simp only [extraction, Scanner.extractWithProof, hhash, hscan, Block.prove_eq_ok hids, bind,
    Except.bind, pure, Except.pure]

theorem Service.carried_perm_carried_filter_iff {s : Service} {block : Block}
    (hannotated : block.AnnotatedFor s.rollup) :
    (s.verifier.carried block.transactions).Perm
        (s.verifier.carried (block.transactions.filter s.filter.samples)) ↔
      ∀ entry ∈ block.entries, entry.authenticated = true →
        s.filter.samples entry.transaction = true := by
  rw [Verifier.carried, Verifier.carried, filterMap_perm_filterMap_filter_iff]
  simp only [Block.transactions, List.mem_map, forall_exists_index, and_imp,
    forall_apply_eq_imp_iff₂]
  constructor
  · intro h entry hentry hauthenticated
    have hblob := (AnnotatedTransaction.authenticated_iff_blob? s.compressor
      (hannotated entry hentry)).mp hauthenticated
    exact h entry hentry hblob
  · intro h entry hentry hblob
    have hauthenticated := (AnnotatedTransaction.authenticated_iff_blob? s.compressor
      (hannotated entry hentry)).mpr hblob
    exact h entry hentry hauthenticated

/-- The proofs of an honest extraction are accepted exactly when the block is not empty, its
identifiers hash up to the root in its header, no identifier is sampled twice, and every envelope
that authenticates is sampled. -/
theorem Service.verify_extraction_iff (s : Service) (block : Block)
    (hannotated : block.AnnotatedFor s.rollup) (hheader : block.header.Fits)
    (hfits : ∀ tx ∈ block.transactions, tx.Fits) :
    ∃ ids e, block.transactions.mapM Transaction.txid = .ok ids ∧ s.extraction block = .ok e ∧
      (∀ out, s.verifier.verify block.header e.blobs e.inclusion e.completeness = .ok out →
        out = e.blobs) ∧
      (s.verifier.verify block.header e.blobs e.inclusion e.completeness = .ok e.blobs ↔
        block.entries ≠ [] ∧
        MerkleTree.root? ids = some block.header.merkleRoot ∧
        (ids.filter s.filter.passes).Nodup ∧
        ∀ entry ∈ block.entries, entry.authenticated = true →
          s.filter.samples entry.transaction = true) := by
  obtain ⟨ids, hids⟩ :=
    succeeds_mapM.mpr fun tx htx => Transaction.succeeds_txid_iff.mpr (hfits tx htx)
  have hrelated := mapM_eq_ok_iff.mp hids
  have hsampled : (block.transactions.filter s.filter.samples).mapM Transaction.txid =
      .ok (ids.filter s.filter.passes) := mapM_eq_ok_iff.mpr (forall₂_txid_filter hrelated)
  have hmem : ∀ id, id ∈ ids.filter s.filter.passes ↔ id ∈ ids ∧ s.filter.passes id = true :=
    fun id => List.mem_filter
  refine ⟨ids, _, hids, extraction_eq_ok hannotated hheader hids, ?_, ?_⟩
  · intro out hout
    exact (Verifier.verify_eq_ok_iff.mp hout).2.2.2
  · rw [Verifier.verify_eq_ok_iff, Verifier.verifyCompleteness_eq_ok_iff hsampled,
      carried_perm_carried_filter_iff hannotated]
    constructor
    · rintro ⟨hroot, ⟨hnodup, -, hall⟩, -, -⟩
      refine ⟨?_, hroot, hnodup, hall⟩
      intro hempty
      have hnil : ids = [] := by
        simpa [Block.transactions, hempty] using hrelated.length_eq.symm
      simp [hnil, MerkleTree.root?] at hroot
    · rintro ⟨-, hroot, hnodup, hall⟩
      exact ⟨hroot, ⟨hnodup, hmem, hall⟩, hheader, rfl⟩

namespace Specimen

def service : Service where
  rollup := sampler.rollup
  filter := sampler.filter
  compressor := sampler.compressor

def block : Block where
  header := {
    version := 2, prevBlockHash := List.replicate 32 0, merkleRoot := revealId
    time := 0, bits := 0, nonce := 0 }
  entries := [{
    transaction := reveal, sender? := some envelope.publicKey, hash? := some (Sha256.double [0]) }]

theorem annotatedFor_block : block.AnnotatedFor "r" := by
  have hentry : AnnotatedTransaction.annotate "r" reveal =
      .ok ⟨reveal, some envelope.publicKey, some (Sha256.double [0])⟩ :=
    AnnotatedTransaction.annotate_of_blob? blob?_reveal
  simpa [Block.AnnotatedFor, block] using hentry

theorem fits_header : block.header.Fits := by
  constructor <;> decide

theorem mapM_txid_block : block.transactions.mapM Transaction.txid = .ok [revealId] := by
  simp [Block.transactions, block, txid_reveal, bind, Except.bind, pure, Except.pure]

theorem root?_block : MerkleTree.root? [revealId] = some block.header.merkleRoot := by
  simp [MerkleTree.root?, MerkleTree.rootOf, block]

/-- Two transactions with one blob, and one without any between them. -/
def mixedBlock : Block where
  header := {
    version := 2
    prevBlockHash := List.replicate 32 0
    merkleRoot :=
      Bytes.ofNatBE 32 0xe769d4264631bf49260728b4925270afd9e2e81d7bb5df8c7af9bf4cb48c6c24
    time := 0
    bits := 0
    nonce := 0 }
  entries := [
    ⟨carrier 0 680, some blob.sender, some blob.hash⟩,
    ⟨spend 1 0, none, none⟩,
    ⟨carrier 1 184, some blob.sender, some blob.hash⟩]

theorem annotatedFor_mixedBlock : mixedBlock.AnnotatedFor "r" := by
  have hcarrier : ∀ vout lockTime, AnnotatedTransaction.annotate "r" (carrier vout lockTime) =
      .ok ⟨carrier vout lockTime, some blob.sender, some blob.hash⟩ :=
    fun vout lockTime => AnnotatedTransaction.annotate_of_blob? (blob?_carrier vout lockTime)
  have hspend : AnnotatedTransaction.annotate "r" (spend 1 0) = .ok ⟨spend 1 0, none, none⟩ := rfl
  simpa [Block.AnnotatedFor, mixedBlock, hcarrier] using hspend

theorem fits_mixedHeader : mixedBlock.header.Fits := by
  constructor <;> decide

theorem mapM_txid_mixedBlock :
    mixedBlock.transactions.mapM Transaction.txid = .ok [sampledId, plainId, echoId] := by
  obtain ⟨hsampled, hplain, hecho⟩ := txid_spends
  exact mapM_eq_ok_iff.mpr (.cons ((txid_carrier 0 680).trans hsampled)
    (.cons hplain (.cons ((txid_carrier 1 184).trans hecho) .nil)))

theorem root?_mixedBlock :
    MerkleTree.root? [sampledId, plainId, echoId] = some mixedBlock.header.merkleRoot := by
  have hroot : MerkleTree.combine (MerkleTree.combine sampledId plainId)
      (MerkleTree.combine echoId echoId) = mixedBlock.header.merkleRoot := by
    rw [combine_spends, MerkleTree.combine, MerkleTree.combine, Sha256.double_eq]
    decide +kernel
  simp [MerkleTree.root?, MerkleTree.rootOf, MerkleTree.parents, hroot]

theorem carried_mixedBlock : sampler.carried mixedBlock.transactions = [blob, blob] := by
  have hcarrier : ∀ vout lockTime, (carrier vout lockTime).blob? sampler.rollup
      sampler.compressor = some blob := blob?_carrier
  have hspend : (spend 1 0).blob? sampler.rollup sampler.compressor = none := rfl
  simp [Verifier.carried, Block.transactions, mixedBlock, hcarrier, hspend]

theorem samples_carriers : sampler.filter.samples (carrier 0 680) = true ∧
    sampler.filter.samples (carrier 1 184) = true := by
  obtain ⟨hsampled, -, hecho⟩ := txid_spends
  rw [SampleFilter.samples_of_txid _ ((txid_carrier 0 680).trans hsampled),
    SampleFilter.samples_of_txid _ ((txid_carrier 1 184).trans hecho)]
  decide

theorem samples_mixedBlock : mixedBlock.transactions.filter sampler.filter.samples =
    [carrier 0 680, carrier 1 184] := by
  have hplain : sampler.filter.samples (spend 1 0) = false :=
    (SampleFilter.samples_of_txid _ txid_spends.2.1).trans (by decide)
  simp [Block.transactions, mixedBlock, samples_carriers, hplain]

end Specimen

theorem Service.verify_extraction_mixedBlock :
    Specimen.mixedBlock.AnnotatedFor Specimen.service.rollup ∧ Specimen.mixedBlock.header.Fits ∧
      (∀ tx ∈ Specimen.mixedBlock.transactions, tx.Fits) ∧
      ∃ e, Specimen.service.extraction Specimen.mixedBlock = .ok e ∧
        e.blobs = [Specimen.blob, Specimen.blob] ∧
        e.completeness.transactions = [Specimen.carrier 0 680, Specimen.carrier 1 184] ∧
        Specimen.service.verifier.verify Specimen.mixedBlock.header e.blobs e.inclusion
          e.completeness = .ok e.blobs := by
  have hids := Specimen.mapM_txid_mixedBlock
  have hfits : ∀ tx ∈ Specimen.mixedBlock.transactions, tx.Fits := by
    intro tx htx
    exact Transaction.succeeds_txid_iff.mp (succeeds_mapM.mp ⟨_, hids⟩ tx htx)
  obtain ⟨ids, e, hids', he, -, haccept⟩ := verify_extraction_iff Specimen.service
    Specimen.mixedBlock Specimen.annotatedFor_mixedBlock Specimen.fits_mixedHeader hfits
  obtain rfl := Except.ok.inj (hids.symm.trans hids')
  obtain rfl := Except.ok.inj ((extraction_eq_ok Specimen.annotatedFor_mixedBlock
    Specimen.fits_mixedHeader hids).symm.trans he)
  have hfilter : Specimen.service.filter = Specimen.sampler.filter := rfl
  refine ⟨Specimen.annotatedFor_mixedBlock, Specimen.fits_mixedHeader, hfits, _, he,
    Specimen.carried_mixedBlock, by rw [hfilter, Specimen.samples_mixedBlock],
    haccept.mpr ⟨nofun, Specimen.root?_mixedBlock, ?_, ?_⟩⟩
  · rw [hfilter, Specimen.passes_sampler]
    decide
  · simp [Specimen.mixedBlock, AnnotatedTransaction.authenticated, hfilter,
      Specimen.samples_carriers]

end BlobInscription
