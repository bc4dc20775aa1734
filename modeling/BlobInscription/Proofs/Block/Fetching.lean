import BlobInscription.Node
import BlobInscription.Proofs.Dialogue.Trail
import BlobInscription.Proofs.Extraction
import BlobInscription.Proofs.Verification.Honest
import BlobInscription.Proofs.Wire.Ranges

namespace BlobInscription

open Dialogue (Trail)
open Traversal

namespace AnnotatedTransaction

variable {rollup : String} {tx : Transaction} {entry : AnnotatedTransaction}

theorem transaction_of_annotate (h : annotate rollup tx = .ok entry) : entry.transaction = tx := by
  unfold annotate at h
  split at h
  · cases h
    rfl
  · split at h
    · obtain ⟨id, -, rfl⟩ := map_eq_ok.mp h
      rfl
    · cases h
      rfl

theorem transactions_of_annotate {transactions : List Transaction}
    {entries : List AnnotatedTransaction}
    (h : transactions.mapM (annotate rollup) = .ok entries) :
    entries.map AnnotatedTransaction.transaction = transactions := by
  rw [← List.forall₂_eq_eq_eq, List.forall₂_map_left_iff]
  exact (mapM_eq_ok_iff.mp h).flip.imp fun _ _ hannotate => transaction_of_annotate hannotate

theorem succeeds_annotate (rollup : String) (hid : Succeeds tx.txid) :
    Succeeds (annotate rollup tx) := by
  unfold annotate
  split
  · exact succeeds_ok _
  · split
    · exact succeeds_map.mpr hid
    · exact succeeds_ok _

theorem isSome_of_annotate (h : annotate rollup tx = .ok entry) :
    (entry.sender?.isSome = true ↔ entry.hash?.isSome = true) ∧
      (entry.hash?.isSome = true ↔ Succeeds (Authentication.senderOf tx rollup)) := by
  have htx := transaction_of_annotate h
  subst htx
  obtain ⟨hsender, hhash⟩ := fields_of_annotate h
  rw [hsender, hhash]
  cases Authentication.senderOf entry.transaction rollup with
  | error e => simp [Except.toOption]
  | ok sender => simp [Except.toOption]

end AnnotatedTransaction

theorem Scanner.succeeds_extractOne (s : Scanner) {entry : AnnotatedTransaction}
    (hid : Succeeds entry.transaction.txid) : Succeeds (s.extractOne entry) := by
  unfold extractOne
  split
  · exact succeeds_ok _
  · split
    · split
      · exact succeeds_ok _
      · exact succeeds_map.mpr hid
    · exact succeeds_map.mpr hid

theorem Scanner.succeeds_extract (s : Scanner) {block : Block}
    (hids : ∀ tx ∈ block.transactions, Succeeds tx.txid) : Succeeds (s.extract block) := by
  have hentries : Succeeds (block.entries.mapM s.extractOne) := by
    rw [succeeds_mapM]
    intro entry hentry
    exact s.succeeds_extractOne (hids _ (List.mem_map_of_mem hentry))
  obtain ⟨blobs, hblobs⟩ := hentries
  rw [extract, succeeds_bind]
  exact ⟨blobs, hblobs, succeeds_pure _⟩

theorem Block.succeeds_prove {block : Block} (filter : SampleFilter)
    (hids : ∀ tx ∈ block.transactions, Succeeds tx.txid) : Succeeds (block.prove filter) := by
  have hnamed : Succeeds (block.transactions.mapM fun tx => return ((← tx.txid), tx)) := by
    rw [succeeds_mapM]
    intro tx htx
    obtain ⟨id, hid⟩ := hids tx htx
    rw [succeeds_bind]
    exact ⟨id, hid, succeeds_pure _⟩
  obtain ⟨named, hnamed⟩ := hnamed
  rw [prove, succeeds_bind]
  exact ⟨named, hnamed, succeeds_pure _⟩

namespace Node

theorem trail_block (hash answer : Datum) (rollup : String) :
    Trail (block hash rollup).run [⟨Rpc.Call.block hash (.int 0), .ok answer⟩]
      (.done (readBlock hash rollup answer)) :=
  .cons (.nil _)

variable {raw : Bytes} {text : String}

theorem readBlock_of_error {e : Wire.ReadError} (hash : Datum) (rollup : String)
    (htext : Bytes.ofHex? text = some raw) (h : RawBlock.ofBytes raw = .error e) :
    readBlock hash rollup (.text text) = .error (.undecodableBlock hash) := by
  simp [readBlock, blockBytes, htext, h, bind, Except.bind, Except.mapError]

theorem readBlock_of_ok {b : RawBlock} {id rollup : String} {entries : List AnnotatedTransaction}
    (htext : Bytes.ofHex? text = some raw) (h : RawBlock.ofBytes raw = .ok b)
    (hid : b.header.hashText = .ok id)
    (hentries : b.transactions.mapM (AnnotatedTransaction.annotate rollup) = .ok entries) :
    readBlock (.text id) rollup (.text text) = .ok { header := b.header, entries } := by
  simp [readBlock, blockBytes, htext, h, hid, Block.annotate, hentries, bind, Except.bind,
    Except.mapError, Datum.same, pure, Except.pure]

/-- Whatever bytes a node sends for a block: when they are a block, all its transactions are
annotated, every scan and every proof of the annotated block succeeds, and it is the answer to the
call for its hash. When they are none, that is the answer. -/
theorem block_total (raw : Bytes) :
    (∀ b, RawBlock.ofBytes raw = .ok b → ∃ id, b.header.hashText = .ok id ∧
      ∀ rollup, ∃ entries,
        b.transactions.mapM (AnnotatedTransaction.annotate rollup) = .ok entries ∧
        entries.map AnnotatedTransaction.transaction = b.transactions ∧
        (∀ entry ∈ entries, (entry.sender?.isSome = true ↔ entry.hash?.isSome = true) ∧
          (entry.hash?.isSome = true ↔
            Succeeds (Authentication.senderOf entry.transaction rollup))) ∧
        let block : Block := { header := b.header, entries }
        (∀ scanner : Scanner, Succeeds (scanner.extract block)) ∧
        (∀ filter, Succeeds (block.prove filter)) ∧
        ∀ text, Bytes.ofHex? text = some raw →
          Trail (Node.block (.text id) rollup).run
            [⟨Rpc.Call.block (.text id) (.int 0), .ok (.text text)⟩] (.done (.ok block))) ∧
    ∀ e, RawBlock.ofBytes raw = .error e → ∀ hash rollup text, Bytes.ofHex? text = some raw →
      Trail (Node.block hash rollup).run [⟨Rpc.Call.block hash (.int 0), .ok (.text text)⟩]
        (.done (.error (.undecodableBlock hash))) := by
  constructor
  · intro b hb
    obtain ⟨hheader, hfits⟩ := RawBlock.fits_of_ofBytes hb
    have hids : ∀ tx ∈ b.transactions, Succeeds tx.txid := by
      intro tx htx
      exact Transaction.succeeds_txid_iff.mpr (hfits tx htx)
    obtain ⟨id, hid⟩ : Succeeds b.header.hashText :=
      succeeds_map.mpr (BlockHeader.succeeds_hash_iff.mpr hheader)
    refine ⟨id, hid, ?_⟩
    intro rollup
    obtain ⟨entries, hentries⟩ :
        Succeeds (b.transactions.mapM (AnnotatedTransaction.annotate rollup)) := by
      rw [succeeds_mapM]
      intro tx htx
      exact AnnotatedTransaction.succeeds_annotate rollup (hids tx htx)
    have htransactions := AnnotatedTransaction.transactions_of_annotate hentries
    refine ⟨entries, hentries, htransactions, ?_, ?_, ?_, ?_⟩
    · intro entry hentry
      obtain ⟨tx, -, hannotate⟩ := (mem_iff_of_mapM_eq_ok hentries).mp hentry
      rw [AnnotatedTransaction.transaction_of_annotate hannotate]
      exact AnnotatedTransaction.isSome_of_annotate hannotate
    · intro scanner
      apply scanner.succeeds_extract
      rw [Block.transactions, htransactions]
      exact hids
    · intro filter
      apply Block.succeeds_prove
      rw [Block.transactions, htransactions]
      exact hids
    · intro text htext
      rw [← readBlock_of_ok htext hb hid hentries]
      exact trail_block _ _ _
  · intro e he hash rollup text htext
    rw [← readBlock_of_error hash rollup htext he]
    exact trail_block _ _ _

theorem block_total_reveal :
    let b : RawBlock := ⟨Specimen.block.header, [Specimen.reveal]⟩
    let raw : Bytes := b.serialize.toOption.getD []
    RawBlock.ofBytes raw = .ok b ∧
      (∃ id, b.header.hashText = .ok id ∧
        Trail (Node.block (.text id) "r").run
          [⟨Rpc.Call.block (.text id) (.int 0), .ok (.text (Bytes.hex raw))⟩]
          (.done (.ok Specimen.block))) ∧
      RawBlock.ofBytes [0] = .error (.truncated 4 0) ∧
      Trail (Node.block .null "r").run [⟨Rpc.Call.block .null (.int 0), .ok (.text "00")⟩]
        (.done (.error (.undecodableBlock .null))) := by
  intro b raw
  have hread : RawBlock.ofBytes raw = .ok b := by decide +kernel
  have hrefused : RawBlock.ofBytes [0] = .error (.truncated 4 0) := by decide +kernel
  have hentries : b.transactions.mapM (AnnotatedTransaction.annotate "r") =
      .ok Specimen.block.entries :=
    mapM_eq_ok_iff.mpr (.cons (Specimen.annotatedFor_block _ List.mem_cons_self) .nil)
  obtain ⟨id, hid, hfetched⟩ := (block_total raw).1 b hread
  obtain ⟨entries, hentries', -, -, -, -, htrail⟩ := hfetched "r"
  rw [hentries, Except.ok.injEq] at hentries'
  subst hentries'
  exact ⟨hread, ⟨id, hid, htrail _ (Bytes.ofHex?_hex raw)⟩, hrefused,
    (block_total [0]).2 _ hrefused .null "r" "00" (by decide)⟩

end Node

end BlobInscription
