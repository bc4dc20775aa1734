import BlobInscription.Proofs.MerkleTree.Binding
import BlobInscription.Proofs.Verification.Acceptance

namespace BlobInscription

open Traversal

/-- The encodings that are hashed into the identifiers of transactions. -/
def encodings (transactions : List Transaction) : List Bytes :=
  transactions.filterMap (·.serializeStripped.toOption)

theorem mem_encodings {transactions : List Transaction} {tx : Transaction} {bytes : Bytes}
    (htx : tx ∈ transactions) (h : tx.serializeStripped = .ok bytes) :
    bytes ∈ encodings transactions :=
  List.mem_filterMap.mpr ⟨tx, htx, by simp [h, Except.toOption]⟩

theorem encodings_append (xs ys : List Transaction) :
    encodings (xs ++ ys) = encodings xs ++ encodings ys :=
  List.filterMap_append

theorem Transaction.exists_encoding_of_txid {tx : Transaction} {id : Bytes}
    (h : tx.txid = .ok id) :
    ∃ bytes, tx.serializeStripped = .ok bytes ∧ Sha256.double bytes = id := by
  rw [txid] at h
  cases hbytes : tx.serializeStripped with
  | error e => simp [hbytes, Except.map] at h
  | ok bytes => exact ⟨bytes, rfl, by simpa [hbytes, Except.map] using h⟩

theorem exists_encoding_of_mem {transactions : List Transaction} {ids : List Bytes}
    (hids : transactions.mapM Transaction.txid = .ok ids) {id : Bytes} (hid : id ∈ ids) :
    ∃ bytes ∈ encodings transactions, Sha256.double bytes = id := by
  obtain ⟨tx, htx, htxid⟩ := (mem_iff_of_mapM_eq_ok hids).mp hid
  obtain ⟨bytes, hbytes, hdouble⟩ := Transaction.exists_encoding_of_txid htxid
  exact ⟨bytes, mem_encodings htx hbytes, hdouble⟩

theorem map_double_encodings {transactions : List Transaction} {ids : List Bytes}
    (hids : transactions.mapM Transaction.txid = .ok ids) :
    (encodings transactions).map Sha256.double = ids := by
  induction mapM_eq_ok_iff.mp hids with
  | nil => rfl
  | cons hid _ ih =>
      obtain ⟨bytes, hbytes, rfl⟩ := Transaction.exists_encoding_of_txid hid
      rw [encodings, List.filterMap_cons_some (by rw [hbytes]; rfl), List.map_cons]
      exact congrArg _ (ih (mapM_eq_ok_iff.mpr ‹_›))

theorem not_collides_encodings {transactions others : List Transaction} {ids : List Bytes}
    (hids : transactions.mapM Transaction.txid = .ok ids) (hnodup : ids.Nodup)
    (h : others ⊆ transactions) : ¬ Sha256.Collides (encodings others) := by
  rw [← map_double_encodings hids] at hnodup
  exact mt (.mono (List.filterMap_subset _ h)) (Sha256.not_collides_of_nodup hnodup)

theorem length_of_mem_txids {transactions : List Transaction} {ids : List Bytes}
    (hids : transactions.mapM Transaction.txid = .ok ids) {id : Bytes} (hid : id ∈ ids) :
    id.length = 32 := by
  obtain ⟨bytes, -, rfl⟩ := exists_encoding_of_mem hids hid
  exact Sha256.length_double bytes

open MerkleTree (Covered height hashed)

/-- The strings that are hashed for two trees of identifiers and into the identifiers of
transactions. -/
def preimages (ids listed : List Bytes) (transactions : List Transaction) : List Bytes :=
  hashed ids ++ (hashed listed ++ encodings transactions)

theorem preimages_subset {ids listed : List Bytes} {transactions others : List Transaction}
    (hlisted : hashed listed ⊆ hashed ids) (h : others ⊆ transactions) :
    preimages ids listed others ⊆ preimages ids [] transactions := by
  have hencodings : encodings others ⊆ encodings transactions := List.filterMap_subset _ h
  refine List.append_subset.mpr ⟨List.subset_append_left _ _, List.append_subset.mpr ⟨?_, ?_⟩⟩
  · exact List.subset_append_of_subset_left _ hlisted
  · exact List.subset_append_of_subset_right _ (List.subset_append_of_subset_right _ hencodings)

section Trees

variable {ids listed supplied : List Bytes} {transactions others : List Transaction}

theorem covered_preimages (transactions : List Transaction) (hids : ∀ id ∈ ids, id.length = 32)
    (hlisted : ∀ entry ∈ listed, entry.length = 32) :
    Covered (preimages ids listed transactions) ids ∧
      Covered (preimages ids listed transactions) listed := by
  constructor
  · exact ⟨hids, fun p hp => List.mem_append_left _ hp⟩
  · exact ⟨hlisted, fun p hp => List.mem_append_right _ (List.mem_append_left _ hp)⟩

theorem mem_preimages_of_encodings (ids listed : List Bytes)
    (hlength : ∀ bytes ∈ encodings (transactions ++ others), bytes.length ≠ 64) :
    (∀ bytes ∈ encodings transactions,
      bytes ∈ preimages ids listed (transactions ++ others) ∧ bytes.length ≠ 64) ∧
    ∀ bytes ∈ encodings others,
      bytes ∈ preimages ids listed (transactions ++ others) ∧ bytes.length ≠ 64 := by
  rw [← List.forall_mem_append, ← encodings_append]
  intro bytes hbytes
  exact ⟨List.mem_append_right _ (List.mem_append_right _ hbytes), hlength bytes hbytes⟩

theorem height_le_of_txid_mem {strings xs ys : List Bytes} (hfree : ¬ Sha256.Collides strings)
    (hxs : Covered strings xs) (hys : Covered strings ys)
    (hroot : MerkleTree.root? xs = MerkleTree.root? ys)
    (hencodings : ∀ bytes ∈ encodings transactions, bytes ∈ strings ∧ bytes.length ≠ 64)
    (hids : transactions.mapM Transaction.txid = .ok ids) {id : Bytes} (hid : id ∈ ids)
    (hmem : id ∈ xs) : height ys ≤ height xs := by
  obtain ⟨bytes, hbytes, rfl⟩ := exists_encoding_of_mem hids hid
  obtain ⟨hin, hlength⟩ := hencodings bytes hbytes
  exact MerkleTree.height_le_of_double_mem hfree hxs hys hroot hin hlength hmem

theorem mem_listed_iff (hfree : ¬ Sha256.Collides (preimages ids listed (transactions ++ others)))
    (hids : transactions.mapM Transaction.txid = .ok ids)
    (hsupplied : others.mapM Transaction.txid = .ok supplied)
    (hlength : ∀ bytes ∈ encodings (transactions ++ others), bytes.length ≠ 64)
    (hlisted : ∀ entry ∈ listed, entry.length = 32)
    (hroot : MerkleTree.root? listed = MerkleTree.root? ids)
    {entry : Bytes} (hentry : entry ∈ supplied) (hmem : entry ∈ listed) (id : Bytes) :
    id ∈ listed ↔ id ∈ ids := by
  obtain ⟨hblock, hlist⟩ :=
    covered_preimages (transactions ++ others) (fun _ => length_of_mem_txids hids) hlisted
  obtain ⟨htransactions, hothers⟩ := mem_preimages_of_encodings ids listed hlength
  have hle : height ids ≤ height listed :=
    height_le_of_txid_mem hfree hlist hblock hroot hothers hsupplied hentry hmem
  have hne : ids ≠ [] := by
    rintro rfl
    rw [MerkleTree.root?_eq_none_iff.mp hroot] at hmem
    cases hmem
  obtain ⟨first, hfirst⟩ := List.exists_mem_of_ne_nil ids hne
  have hge : height listed ≤ height ids :=
    height_le_of_txid_mem hfree hblock hlist hroot.symm htransactions hids hfirst hfirst
  exact MerkleTree.mem_iff_of_root?_eq hfree hlist hblock (Nat.le_antisymm hge hle) rfl hroot id

end Trees

namespace Verifier

variable {v : Verifier} {header : BlockHeader}

theorem ne_nil_of_sampled {blobs : List Blob} {inclusion : InclusionProof}
    {completeness : CompletenessProof} {id : Bytes}
    (h : v.verifyCompleteness blobs inclusion completeness = .ok ())
    (hid : id ∈ inclusion.txids) (hpasses : v.filter.passes id = true) :
    completeness.transactions ≠ [] := by
  intro hnone
  have hempty : completeness.transactions.mapM Transaction.txid = .ok [] := by
    rw [hnone]
    rfl
  obtain ⟨-, hmem, -⟩ := (verifyCompleteness_eq_ok_iff hempty).mp h
  exact List.not_mem_nil ((hmem id).mpr ⟨hid, hpasses⟩)

/-- A supplied transaction fixes the level of the tree that an accepted list is taken from. -/
theorem mem_txids_iff_of_ne_nil {transactions : List Transaction} {ids : List Bytes}
    {blobs : List Blob} {inclusion : InclusionProof} {completeness : CompletenessProof}
    (hids : transactions.mapM Transaction.txid = .ok ids)
    (hroot : MerkleTree.root? inclusion.txids = MerkleTree.root? ids)
    (h : v.verifyCompleteness blobs inclusion completeness = .ok ())
    (hwidth : ∀ entry ∈ inclusion.txids, entry.length = 32)
    (hlength : ∀ bytes ∈ encodings (transactions ++ completeness.transactions), bytes.length ≠ 64)
    (hfree : ¬ Sha256.Collides
      (preimages ids inclusion.txids (transactions ++ completeness.transactions)))
    (hsome : completeness.transactions ≠ []) (id : Bytes) : id ∈ inclusion.txids ↔ id ∈ ids := by
  obtain ⟨supplied, hsupplied⟩ := exists_ids_of_verifyCompleteness h
  obtain ⟨-, hmem, -⟩ := (verifyCompleteness_eq_ok_iff hsupplied).mp h
  obtain ⟨tx, htx⟩ := List.exists_mem_of_ne_nil _ hsome
  obtain ⟨entry, hentry⟩ := succeeds_mapM.mp ⟨supplied, hsupplied⟩ tx htx
  have hin : entry ∈ supplied := (mem_iff_of_mapM_eq_ok hsupplied).mpr ⟨tx, htx, hentry⟩
  have hlisted : entry ∈ inclusion.txids := ((hmem entry).mp hin).1
  exact mem_listed_iff hfree hids hsupplied hlength hwidth hroot hin hlisted id

theorem verify_root (hheader : header.Fits) (hroot : v.filter.passes header.merkleRoot = false) :
    v.verify header [] ⟨[header.merkleRoot]⟩ ⟨[]⟩ = .ok [] := by
  have hempty : ([] : List Transaction).mapM Transaction.txid = .ok [] := rfl
  rw [verify_eq_ok_iff, verifyCompleteness_eq_ok_iff hempty]
  refine ⟨?_, ⟨List.nodup_nil, ?_, by simp [carried]⟩, hheader, rfl⟩
  · simp [MerkleTree.root?, MerkleTree.rootOf]
  · intro id
    simp only [List.not_mem_nil, List.mem_singleton, false_iff, not_and, Bool.not_eq_true]
    rintro rfl
    exact hroot

/-- Two neighbours in a list that are joined, with an empty entry after them, are neither of them
sampled and leave everything else to be checked as before. -/
theorem verify_joined {before after : List Bytes} {left right : Bytes} {blobs : List Blob}
    {completeness : CompletenessProof} (hheader : header.Fits)
    (hroot : MerkleTree.root? (before ++ left :: right :: after) = some header.merkleRoot)
    (heven : before.length % 2 = 0) (hjoined : v.filter.passes (left ++ right) = false)
    (hempty : v.filter.passes [] = false) :
    v.verify header blobs ⟨before ++ (left ++ right) :: [] :: after⟩ completeness = .ok blobs ↔
      v.verifyCompleteness blobs ⟨before ++ after⟩ completeness = .ok () := by
  have hsame : MerkleTree.root? (before ++ (left ++ right) :: [] :: after) =
      some header.merkleRoot :=
    (MerkleTree.root?_resplit (List.append_nil (left ++ right)) heven after).trans hroot
  have hsampled : (before ++ (left ++ right) :: [] :: after).filter v.filter.passes =
      (before ++ after).filter v.filter.passes := by
    simp [List.filter_append, hjoined, hempty]
  have hcheck : v.verifyCompleteness blobs ⟨before ++ (left ++ right) :: [] :: after⟩ completeness =
      v.verifyCompleteness blobs ⟨before ++ after⟩ completeness := verifyCompleteness_congr hsampled
  rw [verify_eq_ok_iff, hcheck]
  exact ⟨fun h => h.2.1, fun h => ⟨hsame, h, hheader, rfl⟩⟩

/-- An accepted list whose entries have 32 bytes holds the sampled identifiers of the block exactly
when a transaction is supplied or none of the block is sampled, unless a transaction is encoded in
64 bytes or two different hashed strings collide. The verifier lets the width and the absence of
transactions pass: it accepts the root alone, and neighbours joined into one entry. -/
theorem sampled_listed_iff (v : Verifier) (header : BlockHeader) (transactions : List Transaction)
    (ids : List Bytes) (hids : transactions.mapM Transaction.txid = .ok ids)
    (hroot : MerkleTree.root? ids = some header.merkleRoot) :
    (∀ blobs inclusion completeness out,
      v.verify header blobs inclusion completeness = .ok out →
      (∀ entry ∈ inclusion.txids, entry.length = 32) →
      (∀ bytes ∈ encodings (transactions ++ completeness.transactions), bytes.length ≠ 64) →
      Sha256.Collides
          (preimages ids inclusion.txids (transactions ++ completeness.transactions)) ∨
        ((∀ id ∈ ids, v.filter.passes id = true → id ∈ inclusion.txids) ↔
          completeness.transactions ≠ [] ∨ ∀ id ∈ ids, v.filter.passes id = false)) ∧
    (header.Fits → v.filter.passes header.merkleRoot = false →
      v.verify header [] ⟨[header.merkleRoot]⟩ ⟨[]⟩ = .ok []) ∧
    ∀ before left right after, header.Fits → ids = before ++ left :: right :: after →
      before.length % 2 = 0 → v.filter.passes (left ++ right) = false →
      v.filter.passes [] = false → ∀ blobs completeness,
        v.verify header blobs ⟨before ++ (left ++ right) :: [] :: after⟩ completeness =
            .ok blobs ↔
          v.verifyCompleteness blobs ⟨before ++ after⟩ completeness = .ok () := by
  refine ⟨?_, verify_root, ?_⟩
  · intro blobs inclusion completeness out haccept hwidth hlength
    obtain ⟨hlisted, hcompleteness, -, -⟩ := verify_eq_ok_iff.mp haccept
    refine or_iff_not_imp_left.mpr fun hfree => ⟨?_, ?_⟩
    · intro hall
      by_cases hnone : ∀ id ∈ ids, v.filter.passes id = false
      · exact .inr hnone
      · simp only [not_forall, Bool.not_eq_false] at hnone
        obtain ⟨id, hid, hpasses⟩ := hnone
        exact .inl (ne_nil_of_sampled hcompleteness (hall id hid hpasses) hpasses)
    · rintro (hsome | hnone) id hid hpasses
      · exact (mem_txids_iff_of_ne_nil hids (hlisted.trans hroot.symm) hcompleteness hwidth hlength
          hfree hsome id).mpr hid
      · rw [hnone id hid] at hpasses
        cases hpasses
  · rintro before left right after hheader rfl heven hjoined hempty blobs completeness
    exact verify_joined hheader hroot heven hjoined hempty

end Verifier

namespace Specimen

/-- The header of a block of `spend 0 680` and `spend 1 0`. -/
def pairHeader : BlockHeader where
  version := 2
  prevBlockHash := List.replicate 32 0
  merkleRoot :=
    Bytes.ofNatBE 32 0x3a5bd91e86fee2cdef88971a9e2f0f74df61b69bcf3fc24f52ae71d1a6a94bad
  time := 0
  bits := 0
  nonce := 0

theorem fits_pairHeader : pairHeader.Fits := by
  constructor <;> decide

theorem mapM_txid_spends :
    [spend 0 680, spend 1 0].mapM Transaction.txid = .ok [sampledId, plainId] := by
  obtain ⟨hsampled, hplain, -⟩ := txid_spends
  exact mapM_eq_ok_iff.mpr (.cons hsampled (.cons hplain .nil))

theorem root?_spends : MerkleTree.root? [sampledId, plainId] = some pairHeader.merkleRoot := by
  simp [MerkleTree.root?, MerkleTree.rootOf, MerkleTree.parents, combine_spends, pairHeader]

theorem hashed_spends : hashed [sampledId, plainId] = [sampledId ++ plainId] := by
  simp [hashed, MerkleTree.pairs, MerkleTree.parents]

theorem map_double_preimages_spends :
    (preimages [sampledId, plainId] [] [spend 0 680, spend 1 0]).map Sha256.double =
      [pairHeader.merkleRoot, sampledId, plainId] := by
  have hpair : Sha256.double (sampledId ++ plainId) = pairHeader.merkleRoot := combine_spends
  simp [preimages, hashed_spends, hashed, hpair, map_double_encodings mapM_txid_spends]

/-- Nothing that is hashed for the two transactions and their tree collides. -/
theorem not_collides_spends {listed : List Bytes} {transactions : List Transaction}
    (hlisted : hashed listed ⊆ hashed [sampledId, plainId])
    (h : transactions ⊆ [spend 0 680, spend 1 0]) :
    ¬ Sha256.Collides (preimages [sampledId, plainId] listed transactions) := by
  refine mt (.mono (preimages_subset hlisted h)) (Sha256.not_collides_of_nodup ?_)
  rw [map_double_preimages_spends]
  decide

end Specimen

theorem Verifier.sampled_listed_of_spends :
    [Specimen.spend 0 680, Specimen.spend 1 0].mapM Transaction.txid =
        .ok [Specimen.sampledId, Specimen.plainId] ∧
      MerkleTree.root? [Specimen.sampledId, Specimen.plainId] =
        some Specimen.pairHeader.merkleRoot ∧
      Specimen.sampler.verify Specimen.pairHeader [] ⟨[Specimen.sampledId, Specimen.plainId]⟩
        ⟨[Specimen.spend 0 680]⟩ = .ok [] ∧
      (∀ id ∈ [Specimen.sampledId, Specimen.plainId], Specimen.sampler.filter.passes id = true →
        id ∈ [Specimen.sampledId, Specimen.plainId]) ∧
      Specimen.sampler.verify Specimen.pairHeader [] ⟨[Specimen.pairHeader.merkleRoot]⟩ ⟨[]⟩ =
        .ok [] := by
  obtain ⟨hlisted, hattack, -⟩ := sampled_listed_iff Specimen.sampler Specimen.pairHeader
    [Specimen.spend 0 680, Specimen.spend 1 0] [Specimen.sampledId, Specimen.plainId]
    Specimen.mapM_txid_spends Specimen.root?_spends
  have hcompleteness : Specimen.sampler.verifyCompleteness []
      ⟨[Specimen.sampledId, Specimen.plainId]⟩ ⟨[Specimen.spend 0 680]⟩ = .ok () := by
    have hids : [Specimen.spend 0 680].mapM Transaction.txid = .ok [Specimen.sampledId] :=
      mapM_eq_ok_iff.mpr (.cons Specimen.txid_spends.1 .nil)
    have hpasses : [Specimen.sampledId, Specimen.plainId].filter Specimen.sampler.filter.passes =
        [Specimen.sampledId] := by
      decide
    refine (verifyCompleteness_eq_ok_iff hids).mpr ⟨List.nodup_singleton _, ?_, ?_⟩
    · intro id
      rw [← List.mem_filter, hpasses]
    · exact .of_eq rfl
  have haccept : Specimen.sampler.verify Specimen.pairHeader []
      ⟨[Specimen.sampledId, Specimen.plainId]⟩ ⟨[Specimen.spend 0 680]⟩ = .ok [] :=
    verify_eq_ok_iff.mpr
      ⟨Specimen.root?_spends, hcompleteness, Specimen.fits_pairHeader, rfl⟩
  have hfree : ¬ Sha256.Collides (preimages [Specimen.sampledId, Specimen.plainId]
      [Specimen.sampledId, Specimen.plainId]
      [Specimen.spend 0 680, Specimen.spend 1 0, Specimen.spend 0 680]) :=
    Specimen.not_collides_spends (List.Subset.refl _) (by simp)
  have hiff := (hlisted [] _ _ [] haccept (by decide) (by decide)).resolve_left hfree
  refine ⟨Specimen.mapM_txid_spends, Specimen.root?_spends, haccept, hiff.mpr (.inl (by simp)), ?_⟩
  exact hattack Specimen.fits_pairHeader (by decide)

/-- The root alone hides the sampled one of two transactions. -/
theorem Verifier.verify_root_of_spends :
    [Specimen.spend 0 680, Specimen.spend 1 0].mapM Transaction.txid =
        .ok [Specimen.sampledId, Specimen.plainId] ∧
      MerkleTree.root? [Specimen.sampledId, Specimen.plainId] =
        some Specimen.pairHeader.merkleRoot ∧
      Specimen.sampler.filter.passes Specimen.sampledId = true ∧
      Specimen.sampledId ∉ [Specimen.pairHeader.merkleRoot] ∧
      ¬ Sha256.Collides (preimages [Specimen.sampledId, Specimen.plainId]
        [Specimen.pairHeader.merkleRoot] [Specimen.spend 0 680, Specimen.spend 1 0]) ∧
      Specimen.sampler.verify Specimen.pairHeader [] ⟨[Specimen.pairHeader.merkleRoot]⟩ ⟨[]⟩ =
        .ok [] := by
  refine ⟨Specimen.mapM_txid_spends, Specimen.root?_spends, by decide, by decide, ?_, ?_⟩
  · exact Specimen.not_collides_spends (by simp [MerkleTree.hashed_singleton]) (by simp)
  · exact verify_root Specimen.fits_pairHeader (by decide)

end BlobInscription
