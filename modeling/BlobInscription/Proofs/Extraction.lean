import BlobInscription.Extraction
import BlobInscription.Proofs.Width

namespace BlobInscription

open Traversal

/-- What a body stands for: its blob, or an empty one when it does not decompress. -/
def Compressor.restore (c : Compressor) (body : Bytes) : Bytes :=
  match c.decompress body with
  | .ok blob => blob
  | .error _ => []

/-- The blob for `rollup` that a transaction carries, if its envelope parses and authenticates. -/
def Transaction.blob? (tx : Transaction) (rollup : String) (c : Compressor) : Option Blob :=
  match Envelope.ofTransaction tx rollup with
  | .error _ => none
  | .ok envelope =>
      match Authentication.verify envelope with
      | .error _ => none
      | .ok sender =>
          some ⟨c.restore envelope.body, sender.publicKey, Sha256.double envelope.body⟩

theorem Authentication.hash_of_verify {envelope : Envelope} {sender : Sender}
    (h : verify envelope = .ok sender) : sender.hash = Sha256.double envelope.body := by
  simp only [verify, bind_eq_ok] at h
  obtain ⟨key, hkey, signature, hsignature, h⟩ := h
  split at h
  · cases h
  · split at h
    · cases h
      rfl
    · cases h

/-- Every transaction of the block carries the annotation that fetching for `rollup` gives it. -/
def Block.AnnotatedFor (b : Block) (rollup : String) : Prop :=
  ∀ entry ∈ b.entries, AnnotatedTransaction.annotate rollup entry.transaction = .ok entry

namespace AnnotatedTransaction

variable {rollup : String} {entry : AnnotatedTransaction}

theorem fields_of_annotate (h : annotate rollup entry.transaction = .ok entry) :
    entry.sender? = (Authentication.senderOf entry.transaction rollup).toOption.map (·.publicKey) ∧
      entry.hash? = (Authentication.senderOf entry.transaction rollup).toOption.map (·.hash) := by
  unfold annotate at h
  split at h
  · rename_i sender hsender
    simp only [Except.ok.injEq] at h
    rw [hsender, ← h]
    simp [Except.toOption]
  · rename_i failure hfailure
    split at h
    · cases hid : entry.transaction.txid with
      | error e => simp [hid, Except.map] at h
      | ok id =>
          simp only [hid, Except.map, Except.ok.injEq] at h
          rw [hfailure, ← h]
          simp [Except.toOption]
    · simp only [Except.ok.injEq] at h
      rw [hfailure, ← h]
      simp [Except.toOption]

theorem authenticated_iff_blob? (c : Compressor)
    (h : annotate rollup entry.transaction = .ok entry) :
    entry.authenticated = true ↔ (entry.transaction.blob? rollup c).isSome = true := by
  obtain ⟨hsender, hhash⟩ := fields_of_annotate h
  rw [authenticated, hsender, hhash, Transaction.blob?, Authentication.senderOf]
  cases Envelope.ofTransaction entry.transaction rollup with
  | error e => simp [Except.mapError, bind, Except.bind, Except.toOption]
  | ok envelope =>
      cases hverify : Authentication.verify envelope with
      | error e => simp [Except.mapError, bind, Except.bind, hverify, Except.toOption]
      | ok sender => simp [Except.mapError, bind, Except.bind, hverify, Except.toOption]

theorem annotate_of_blob? {tx : Transaction} {c : Compressor} {b : Blob}
    (h : tx.blob? rollup c = some b) :
    annotate rollup tx = .ok ⟨tx, some b.sender, some b.hash⟩ := by
  rw [Transaction.blob?] at h
  split at h
  · cases h
  · rename_i envelope henvelope
    split at h
    · cases h
    · rename_i sender hverify
      cases h
      have hsender : Authentication.senderOf tx rollup = .ok sender := by
        rw [Authentication.senderOf, henvelope]
        exact hverify
      rw [annotate, hsender]
      dsimp only
      rw [Authentication.hash_of_verify hverify]

end AnnotatedTransaction

namespace Scanner

variable {s : Scanner}

/-- The scan reports this transaction: its envelope does not authenticate, or its body does not
decompress. -/
def Reports (s : Scanner) (tx : Transaction) : Prop :=
  ∃ envelope, Envelope.ofTransaction tx s.rollup = .ok envelope ∧
    ¬ (Succeeds (Authentication.verify envelope) ∧ Succeeds (s.compressor.decompress envelope.body))

/-- An annotated entry yields the blob of its transaction; for a report the identifier is needed. -/
theorem extractOne_cases {entry : AnnotatedTransaction}
    (h : AnnotatedTransaction.annotate s.rollup entry.transaction = .ok entry) :
    (¬ s.Reports entry.transaction ∧
      s.extractOne entry = .ok (entry.transaction.blob? s.rollup s.compressor)) ∨
    (s.Reports entry.transaction ∧ s.extractOne entry =
      entry.transaction.txid.map fun _ => entry.transaction.blob? s.rollup s.compressor) := by
  obtain ⟨hsender, hhash⟩ := AnnotatedTransaction.fields_of_annotate h
  rw [Reports, extractOne, hsender, hhash, Transaction.blob?, Authentication.senderOf]
  cases henvelope : Envelope.ofTransaction entry.transaction s.rollup with
  | error e => exact .inl ⟨by simp, rfl⟩
  | ok envelope =>
      cases hverify : Authentication.verify envelope with
      | error e =>
          right
          simp [Except.mapError, bind, Except.bind, hverify, Except.toOption]
      | ok sender =>
          have hhash := Authentication.hash_of_verify hverify
          cases hbody : s.compressor.decompress envelope.body with
          | error e =>
              right
              simp [Except.mapError, bind, Except.bind, hverify, Except.toOption, hbody,
                Compressor.restore, hhash]
          | ok blob =>
              left
              simp [Except.mapError, bind, Except.bind, hverify, Except.toOption, hbody,
                Compressor.restore, hhash]

theorem extractOne_of_annotate {entry : AnnotatedTransaction}
    (h : AnnotatedTransaction.annotate s.rollup entry.transaction = .ok entry)
    (hid : s.Reports entry.transaction → Succeeds entry.transaction.txid) :
    s.extractOne entry = .ok (entry.transaction.blob? s.rollup s.compressor) := by
  rcases extractOne_cases h with ⟨-, hone⟩ | ⟨hreports, hone⟩
  · exact hone
  · obtain ⟨id, hid⟩ := hid hreports
    rw [hone, hid, Except.map]

theorem extract_of_reported {block : Block} (h : block.AnnotatedFor s.rollup)
    (hids : ∀ tx ∈ block.transactions, s.Reports tx → Succeeds tx.txid) :
    s.extract block = .ok (block.transactions.filterMap (·.blob? s.rollup s.compressor)) := by
  have hblobs : block.entries.mapM s.extractOne =
      .ok (block.entries.map fun entry => entry.transaction.blob? s.rollup s.compressor) := by
    rw [mapM_eq_ok_iff, List.forall₂_map_right_iff, List.forall₂_same]
    intro entry hentry
    exact extractOne_of_annotate (h entry hentry)
      (hids entry.transaction (List.mem_map_of_mem hentry))
  rw [extract, hblobs]
  simp [bind, Except.bind, pure, Except.pure, Block.transactions, List.filterMap_map]

theorem extract_of_annotatedFor {block : Block} (h : block.AnnotatedFor s.rollup)
    (hids : ∀ tx ∈ block.transactions, Succeeds tx.txid) :
    s.extract block = .ok (block.transactions.filterMap (·.blob? s.rollup s.compressor)) :=
  extract_of_reported h fun tx htx _ => hids tx htx

/-- In any block, a transaction that carries a blob yields that blob, between what the entries before
it and behind it yield. -/
theorem extract_append_cons {entry : AnnotatedTransaction} {b : Blob}
    (h : s.extractOne entry = .ok (some b)) (header : BlockHeader)
    (before later : List AnnotatedTransaction) (height? : Option Int) :
    s.extract { header, entries := before ++ entry :: later, height? } = do
      let blobs ← s.extract { header, entries := before, height? }
      let blobs' ← s.extract { header, entries := later, height? }
      return blobs ++ b :: blobs' := by
  simp only [extract, List.mapM_append, List.mapM_cons, h]
  cases before.mapM s.extractOne with
  | error e => rfl
  | ok found =>
      cases later.mapM s.extractOne with
      | error e => rfl
      | ok found' => simp [bind, Except.bind, pure, Except.pure]

end Scanner

end BlobInscription
