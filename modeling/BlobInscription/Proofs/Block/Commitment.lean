import BlobInscription.Proofs.Block.Fetching
import BlobInscription.Proofs.MerkleTree.Order
import BlobInscription.Proofs.Transaction.Signing
import BlobInscription.Proofs.Verification.Inclusion

namespace BlobInscription

open Dialogue (Trail)
open Traversal
open MerkleTree (root? PairsCollide height)

theorem Datum.same_text_iff {d : Datum} {t : String} : d.same (.text t) = true ↔ d = .text t := by
  cases d <;> simp [same]

namespace BlockHeader

variable {h h' : BlockHeader} {raw : Bytes}

theorem yields_widths : Wire.Yields BlockHeader.read fun h =>
    h.prevBlockHash.length = 32 ∧ h.merkleRoot.length = 32 := by
  intro c c' h hrun
  obtain ⟨version, c₁, -, hrest⟩ := Wire.run_bind_eq_ok.mp hrun
  obtain ⟨prevBlockHash, c₂, hprev, hrest⟩ := Wire.run_bind_eq_ok.mp hrest
  obtain ⟨merkleRoot, c₃, hroot, hrest⟩ := Wire.run_bind_eq_ok.mp hrest
  obtain ⟨time, c₄, -, hrest⟩ := Wire.run_bind_eq_ok.mp hrest
  obtain ⟨bits, c₅, -, hrest⟩ := Wire.run_bind_eq_ok.mp hrest
  obtain ⟨nonce, -, rfl⟩ := Wire.run_map_eq_ok hrest
  exact ⟨(Wire.run_read_eq_ok hprev).2, (Wire.run_read_eq_ok hroot).2⟩

theorem widths_of_ofBytes {b : RawBlock} (h : RawBlock.ofBytes raw = .ok b) :
    b.header.prevBlockHash.length = 32 ∧ b.header.merkleRoot.length = 32 := by
  obtain ⟨c, hrun⟩ := Wire.exists_run_of_readAll h
  obtain ⟨header, c₁, hheader, hrest⟩ := Wire.run_bind_eq_ok.mp hrun
  obtain ⟨transactions, -, rfl⟩ := Wire.run_map_eq_ok hrest
  exact yields_widths hheader

theorem eq_of_serialize_eq (hwidths : h.prevBlockHash.length = 32 ∧ h.merkleRoot.length = 32)
    (hwidths' : h'.prevBlockHash.length = 32 ∧ h'.merkleRoot.length = 32)
    (hraw : h.serialize = .ok raw) (hraw' : h'.serialize = .ok raw) : h = h' := by
  have hsame : raw ++ [] = raw ++ [] := rfl
  obtain ⟨heq, -⟩ := (reads_serialize hwidths.1 hwidths.2 hraw).append_inj
    (reads_serialize hwidths'.1 hwidths'.2 hraw') hsame
  exact heq

theorem hashText_eq_ok_iff {id : String} : h.hashText = .ok id ↔
    ∃ raw, h.serialize = .ok raw ∧ displayId (Sha256.double raw) = id := by
  rw [hashText, hash, map_map_eq_ok]

end BlockHeader

namespace Node

variable {hash answer : Datum} {rollup : String} {block : Block}

/-- The node's answer is taken for this block, when the block with this hash is wanted. -/
def Fetches (hash : Datum) (rollup : String) (answer : Datum) (block : Block) : Prop :=
  Trail (Node.block hash rollup).run [⟨Rpc.Call.block hash (.int 0), .ok answer⟩]
    (.done (.ok block))

theorem fetches_iff_readBlock :
    Fetches hash rollup answer block ↔ readBlock hash rollup answer = .ok block := by
  constructor
  · intro h
    change Trail (.ask _ _) _ _ at h
    cases h with
    | cons hrest =>
        have hdone := Dialogue.trail_nil.mp hrest
        exact (Dialogue.done.inj hdone).symm
  · intro h
    rw [Fetches, ← h]
    exact trail_block hash answer rollup

theorem blockBytes_eq_ok_iff {bytes : Bytes} : blockBytes hash answer = .ok bytes ↔
    ∃ text, answer = .text text ∧ Bytes.ofHex? text = some bytes := by
  constructor
  · intro h
    unfold blockBytes at h
    split at h
    · rename_i text
      split at h
      · rename_i raw htext
        cases h
        exact ⟨text, rfl, htext⟩
      · cases h
    · cases h
    · cases h
  · rintro ⟨text, rfl, htext⟩
    rw [blockBytes, htext]

theorem readBlock_eq_ok_iff : readBlock hash rollup answer = .ok block ↔
    ∃ text bytes raw, answer = .text text ∧ Bytes.ofHex? text = some bytes ∧
      RawBlock.ofBytes bytes = .ok raw ∧
      (∃ id, raw.header.hashText = .ok id ∧ hash = .text id) ∧
      Block.annotate rollup raw = .ok block := by
  constructor
  · intro h
    obtain ⟨bytes, hbytes, h⟩ := bind_eq_ok.mp h
    obtain ⟨raw, hraw, h⟩ := bind_eq_ok.mp h
    obtain ⟨id, hid, h⟩ := bind_eq_ok.mp h
    obtain ⟨hsame, hannotate⟩ := check_bind_eq_ok.mp h
    obtain ⟨text, rfl, htext⟩ := blockBytes_eq_ok_iff.mp hbytes
    have hhash : hash = .text id := Datum.same_text_iff.mp (by simpa using hsame)
    exact ⟨text, bytes, raw, rfl, htext, mapError_eq_ok.mp hraw,
      ⟨id, mapError_eq_ok.mp hid, hhash⟩, mapError_eq_ok.mp hannotate⟩
  · rintro ⟨text, bytes, raw, rfl, htext, hraw, ⟨id, hid, rfl⟩, hannotate⟩
    obtain ⟨entries, hentries, hblock⟩ := bind_eq_ok.mp hannotate
    cases hblock
    exact readBlock_of_ok htext hraw hid hentries

theorem fetches_of_ofBytes {bytes : Bytes} {b : RawBlock} {id : String}
    {entries : List AnnotatedTransaction} (hraw : RawBlock.ofBytes bytes = .ok b)
    (hid : b.header.hashText = .ok id)
    (hentries : b.transactions.mapM (AnnotatedTransaction.annotate rollup) = .ok entries) :
    Fetches (.text id) rollup (.text (Bytes.hex bytes)) { header := b.header, entries } :=
  fetches_iff_readBlock.mpr (readBlock_of_ok (Bytes.ofHex?_hex bytes) hraw hid hentries)

theorem exists_encoding_of_fetches (h : Fetches hash rollup answer block) :
    ∃ raw ids, block.header.serialize = .ok raw ∧
      hash = .text (displayId (Sha256.double raw)) ∧
      (block.header.prevBlockHash.length = 32 ∧ block.header.merkleRoot.length = 32) ∧
      block.transactions.mapM Transaction.txid = .ok ids := by
  obtain ⟨text, bytes, b, rfl, htext, hb, ⟨id, hid, rfl⟩, hannotate⟩ :=
    readBlock_eq_ok_iff.mp (fetches_iff_readBlock.mp h)
  obtain ⟨entries, hentries, hblock⟩ := bind_eq_ok.mp hannotate
  cases hblock
  obtain ⟨raw, hraw, rfl⟩ := BlockHeader.hashText_eq_ok_iff.mp hid
  have htransactions := AnnotatedTransaction.transactions_of_annotate hentries
  obtain ⟨ids, hids⟩ : Succeeds (b.transactions.mapM Transaction.txid) := by
    rw [succeeds_mapM]
    intro tx htx
    exact Transaction.succeeds_txid_iff.mpr ((RawBlock.fits_of_ofBytes hb).2 tx htx)
  refine ⟨raw, ids, hraw, rfl, BlockHeader.widths_of_ofBytes hb, ?_⟩
  rwa [Block.transactions, htransactions]

/-- Whatever transactions are served behind the header of a block, they are taken for those of the
block. -/
theorem exists_fetches_of_header (h : Fetches hash rollup answer block)
    {transactions : List Transaction} {raw : Bytes}
    (hids : ∀ tx ∈ transactions, ∀ i ∈ tx.inputs, i.prevout.txid.length = 32)
    (hclear : ∀ tx ∈ transactions, ¬ tx.Ambiguous)
    (hraw : RawBlock.serialize ⟨block.header, transactions⟩ = .ok raw) :
    ∃ other, Fetches hash rollup (.text (Bytes.hex raw)) other ∧ other.header = block.header ∧
      other.transactions = transactions := by
  obtain ⟨header, ids, hheader, rfl, hwidths, -⟩ := exists_encoding_of_fetches h
  have hread : RawBlock.ofBytes raw = .ok ⟨block.header, transactions⟩ :=
    (RawBlock.reads_serialize hwidths.1 hwidths.2 hids hclear hraw).readAll_eq_ok
  have hid : block.header.hashText = .ok (displayId (Sha256.double header)) :=
    BlockHeader.hashText_eq_ok_iff.mpr ⟨header, hheader, rfl⟩
  obtain ⟨entries, hentries⟩ :
      Succeeds (transactions.mapM (AnnotatedTransaction.annotate rollup)) := by
    rw [succeeds_mapM]
    intro tx htx
    apply AnnotatedTransaction.succeeds_annotate
    exact Transaction.succeeds_txid_iff.mpr ((RawBlock.fits_of_ofBytes hread).2 tx htx)
  exact ⟨_, fetches_of_ofBytes hread hid hentries, rfl,
    AnnotatedTransaction.transactions_of_annotate hentries⟩

end Node

/-- Identifiers of which none occurs twice are fixed by their root, when no encoding of a transaction
could be a pair. -/
theorem ids_eq_of_root?_eq {transactions transactions' : List Transaction} {ids ids' : List Bytes}
    (hfree : ¬ Sha256.Collides (preimages ids ids' (transactions ++ transactions')))
    (hids : transactions.mapM Transaction.txid = .ok ids)
    (hids' : transactions'.mapM Transaction.txid = .ok ids')
    (hlength : ∀ bytes ∈ encodings (transactions ++ transactions'), bytes.length ≠ 64)
    (hroot : root? ids = root? ids') (hnodup : ids.Nodup) (hnodup' : ids'.Nodup) : ids = ids' := by
  obtain ⟨hcovered, hcovered'⟩ := covered_preimages (transactions ++ transactions')
    (fun _ => length_of_mem_txids hids) (fun _ => length_of_mem_txids hids')
  obtain ⟨hencodings, hencodings'⟩ := mem_preimages_of_encodings ids ids' hlength
  -- an identifier of a transaction stands below no other node, so neither tree is the taller one
  match ids, ids' with
  | [], _ => exact (MerkleTree.root?_eq_none_iff.mp hroot.symm).symm
  | _ :: _, [] => cases hroot
  | first :: rest, first' :: rest' =>
      have hle : height (first' :: rest') ≤ height (first :: rest) :=
        height_le_of_txid_mem hfree hcovered hcovered' hroot hencodings hids List.mem_cons_self
          List.mem_cons_self
      have hge : height (first :: rest) ≤ height (first' :: rest') :=
        height_le_of_txid_mem hfree hcovered' hcovered hroot.symm hencodings' hids'
          List.mem_cons_self List.mem_cons_self
      exact MerkleTree.eq_of_root?_eq_of_nodup hfree hcovered hcovered' rfl
        (Nat.le_antisymm hle hge) hroot hnodup hnodup'

namespace Node

/-- Two blocks that are fetched for one hash have one header, or their headers collide. Where both
also hash up to the root in it, they have the same identifiers when there are as many of them, or
none of them twice and no encoding of 64 bytes, again up to a collision. Fetching asks for none of
this: any transactions are taken behind the header. -/
theorem fetches_binds_header (hash : Datum) (rollup rollup' : String) (answer answer' : Datum)
    (b b' : Block) (h : Fetches hash rollup answer b) (h' : Fetches hash rollup' answer' b') :
    (∃ raw raw' ids ids', b.header.serialize = .ok raw ∧ b'.header.serialize = .ok raw' ∧
      b.transactions.mapM Transaction.txid = .ok ids ∧
      b'.transactions.mapM Transaction.txid = .ok ids' ∧
      (b.header = b'.header ∨ raw ≠ raw' ∧ Sha256.double raw = Sha256.double raw') ∧
      (b.header = b'.header → root? ids = some b.header.merkleRoot →
        root? ids' = some b'.header.merkleRoot →
          (ids.length = ids'.length → ids = ids' ∨ PairsCollide ids ids') ∧
          (ids.Nodup → ids'.Nodup →
            (∀ bytes ∈ encodings (b.transactions ++ b'.transactions), bytes.length ≠ 64) →
              ids = ids' ∨
                Sha256.Collides (preimages ids ids' (b.transactions ++ b'.transactions))))) ∧
    ∀ transactions raw, RawBlock.serialize ⟨b.header, transactions⟩ = .ok raw →
      (∀ tx ∈ transactions, ¬ tx.Ambiguous ∧ ∀ i ∈ tx.inputs, i.prevout.txid.length = 32) →
        ∃ other, Fetches hash rollup (.text (Bytes.hex raw)) other ∧ other.header = b.header ∧
          other.transactions = transactions := by
  obtain ⟨raw, ids, hraw, hhash, hwidths, hids⟩ := exists_encoding_of_fetches h
  obtain ⟨raw', ids', hraw', hhash', hwidths', hids'⟩ := exists_encoding_of_fetches h'
  refine ⟨⟨raw, raw', ids, ids', hraw, hraw', hids, hids', ?_, ?_⟩, ?_⟩
  · have hdouble : Sha256.double raw = Sha256.double raw' :=
      Transaction.displayId_injective (Datum.text.inj (hhash.symm.trans hhash'))
    by_cases hsame : raw = raw'
    · left
      exact BlockHeader.eq_of_serialize_eq hwidths hwidths' hraw (hsame ▸ hraw')
    · right
      exact ⟨hsame, hdouble⟩
  · intro hheader hroot hroot'
    have hroots : root? ids = root? ids' := by rw [hroot, hroot', hheader]
    constructor
    · intro hlength
      apply MerkleTree.eq_or_collide_of_root?_eq _ _ hlength hroots
      · exact fun id => length_of_mem_txids hids
      · exact fun id => length_of_mem_txids hids'
    · intro hnodup hnodup' hlength
      apply or_iff_not_imp_right.mpr
      intro hfree
      exact ids_eq_of_root?_eq hfree hids hids' hlength hroots hnodup hnodup'
  · intro transactions served hserved hshape
    apply exists_fetches_of_header h _ _ hserved
    · intro tx htx
      exact (hshape tx htx).2
    · intro tx htx
      exact (hshape tx htx).1

end Node

namespace Specimen

/-- What a node sends when it serves these transactions behind `pairHeader`. -/
def served (transactions : List Transaction) : Bytes :=
  (RawBlock.serialize ⟨pairHeader, transactions⟩).toOption.getD []

/-- `spend 0 680` with a witness, which its identifier does not cover. -/
def witnessed : Transaction :=
  { spend 0 680 with inputs := [{ prevout := ⟨List.replicate 32 0, 0⟩, witness := [[1]] }] }

theorem fetches_spends (id : String) (hid : pairHeader.hashText = .ok id) :
    Node.Fetches (.text id) "r" (.text (Bytes.hex (served [spend 0 680, spend 1 0]))) {
      header := pairHeader
      entries := [{ transaction := spend 0 680 }, { transaction := spend 1 0 }] } := by
  have hread : RawBlock.ofBytes (served [spend 0 680, spend 1 0]) =
      .ok ⟨pairHeader, [spend 0 680, spend 1 0]⟩ := by
    decide +kernel
  exact Node.fetches_of_ofBytes hread hid rfl

end Specimen

theorem Node.fetches_binds_header_pair :
    ∃ id b b', Fetches (.text id) "r"
        (.text (Bytes.hex (Specimen.served [Specimen.spend 0 680, Specimen.spend 1 0]))) b ∧
      Fetches (.text id) "r"
        (.text (Bytes.hex (Specimen.served [Specimen.witnessed, Specimen.spend 1 0]))) b' ∧
      b.transactions ≠ b'.transactions ∧ b.header = b'.header ∧
      ∃ ids, b.transactions.mapM Transaction.txid = .ok ids ∧
        b'.transactions.mapM Transaction.txid = .ok ids := by
  obtain ⟨id, hid⟩ : Succeeds Specimen.pairHeader.hashText :=
    succeeds_map.mpr (BlockHeader.succeeds_hash_iff.mpr Specimen.fits_pairHeader)
  have hfetched := Specimen.fetches_spends id hid
  obtain ⟨-, hserve⟩ := fetches_binds_header _ _ _ _ _ _ _ hfetched hfetched
  have hserved : RawBlock.serialize
      ⟨Specimen.pairHeader, [Specimen.witnessed, Specimen.spend 1 0]⟩ =
        .ok (Specimen.served [Specimen.witnessed, Specimen.spend 1 0]) := by
    decide +kernel
  have hshape : ∀ tx ∈ [Specimen.witnessed, Specimen.spend 1 0],
      ¬ tx.Ambiguous ∧ ∀ i ∈ tx.inputs, i.prevout.txid.length = 32 := by
    simp only [Transaction.Ambiguous]
    decide +kernel
  obtain ⟨b', hfetched', hheader, htransactions⟩ := hserve _ _ hserved hshape
  obtain ⟨⟨-, -, ids, ids', -, -, hids, hids', -, hroots⟩, -⟩ :=
    fetches_binds_header _ _ _ _ _ _ _ hfetched hfetched'
  have hsame : [Specimen.witnessed, Specimen.spend 1 0].mapM Transaction.txid =
      .ok [Specimen.sampledId, Specimen.plainId] := Specimen.mapM_txid_spends
  obtain rfl := Except.ok.inj (hids.symm.trans Specimen.mapM_txid_spends)
  obtain rfl := Except.ok.inj (hids'.symm.trans (htransactions ▸ hsame))
  have hroot' : root? [Specimen.sampledId, Specimen.plainId] = some b'.header.merkleRoot := by
    rw [hheader]
    exact Specimen.root?_spends
  have hfree : ¬ PairsCollide [Specimen.sampledId, Specimen.plainId]
      [Specimen.sampledId, Specimen.plainId] := by
    simp [PairsCollide, Specimen.hashed_spends]
  refine ⟨id, _, b', hfetched, hfetched', ?_, hheader.symm, _, hids, ?_⟩
  · rw [htransactions]
    decide
  · rw [(((hroots hheader.symm Specimen.root?_spends hroot').1 rfl).resolve_right hfree)]
    exact hids'

/-- Of the same block, an answer without its first transaction is taken for it just as well, and
nothing that is hashed collides. -/
theorem Node.fetches_without_spend :
    ∃ id raw b b', Specimen.pairHeader.hashText = .ok id ∧
      Specimen.pairHeader.serialize = .ok raw ∧
      Fetches (.text id) "r"
        (.text (Bytes.hex (Specimen.served [Specimen.spend 0 680, Specimen.spend 1 0]))) b ∧
      Fetches (.text id) "r" (.text (Bytes.hex (Specimen.served [Specimen.spend 1 0]))) b' ∧
      b.transactions.mapM Transaction.txid = .ok [Specimen.sampledId, Specimen.plainId] ∧
      b'.transactions.mapM Transaction.txid = .ok [Specimen.plainId] ∧
      ¬ Sha256.Collides (raw :: preimages [Specimen.sampledId, Specimen.plainId]
        [Specimen.plainId] (b.transactions ++ b'.transactions)) := by
  obtain ⟨id, hid⟩ : Succeeds Specimen.pairHeader.hashText :=
    succeeds_map.mpr (BlockHeader.succeeds_hash_iff.mpr Specimen.fits_pairHeader)
  have hraw : Specimen.pairHeader.serialize =
      .ok (Specimen.pairHeader.serialize.toOption.getD []) := by
    decide +kernel
  have hread : RawBlock.ofBytes (Specimen.served [Specimen.spend 1 0]) =
      .ok ⟨Specimen.pairHeader, [Specimen.spend 1 0]⟩ := by
    decide +kernel
  have hentries : [Specimen.spend 1 0].mapM (AnnotatedTransaction.annotate "r") =
      .ok [{ transaction := Specimen.spend 1 0 }] := rfl
  have hdistinct : ((Specimen.pairHeader.serialize.toOption.getD [] ::
      preimages [Specimen.sampledId, Specimen.plainId] []
        [Specimen.spend 0 680, Specimen.spend 1 0]).map Sha256.double).Nodup := by
    rw [List.map_cons, Specimen.map_double_preimages_spends, Sha256.double_eq]
    decide +kernel
  refine ⟨id, _, _, _, hid, hraw, Specimen.fetches_spends id hid,
    fetches_of_ofBytes hread hid hentries, Specimen.mapM_txid_spends,
    mapM_eq_ok_iff.mpr (.cons Specimen.txid_spends.2.1 .nil),
    mt (.mono (List.cons_subset_cons _ (preimages_subset ?_ ?_)))
      (Sha256.not_collides_of_nodup hdistinct)⟩
  · simp [MerkleTree.hashed_singleton]
  · simp [Block.transactions]

end BlobInscription
