import BlobInscription.Proofs.Authentication.Acceptance
import BlobInscription.Proofs.Verification.Honest
import BlobInscription.Proofs.Wire.Ranges

namespace BlobInscription

open Authentication (Authentic)
open Traversal

namespace Transaction

variable {tx : Transaction} {rollup : String} {c : Compressor}

/-- The leaf script that the first input spends holds this envelope for `rollup`, and the envelope
authenticates. -/
structure Reveals (tx : Transaction) (rollup : String) (e : Envelope) : Prop where
  leaf : ∃ script, Envelope.leafScript tx = .ok script ∧ Envelope.ofScript script rollup = .ok e
  authentic : Authentic e

theorem blob?_eq_some_iff {b : Blob} : tx.blob? rollup c = some b ↔
    ∃ e, tx.Reveals rollup e ∧ b = ⟨c.restore e.body, e.publicKey, Sha256.double e.body⟩ := by
  constructor
  · intro h
    rw [blob?] at h
    split at h
    · cases h
    · rename_i e henvelope
      split at h
      · cases h
      · rename_i sender hverify
        cases h
        obtain ⟨rfl, hauthentic⟩ := Authentication.verify_eq_ok_iff.mp hverify
        exact ⟨e, ⟨bind_eq_ok.mp henvelope, hauthentic⟩, rfl⟩
  · rintro ⟨e, ⟨hleaf, hauthentic⟩, rfl⟩
    have henvelope : Envelope.ofTransaction tx rollup = .ok e := bind_eq_ok.mpr hleaf
    have hverify := Authentication.verify_eq_ok_iff.mpr ⟨rfl, hauthentic⟩
    rw [blob?, henvelope]
    dsimp only
    rw [hverify]

/-- The transaction reveals an authentic envelope for `rollup`. -/
def Authenticates (tx : Transaction) (rollup : String) : Prop :=
  ∃ e, tx.Reveals rollup e

theorem isSome_blob?_iff : (tx.blob? rollup c).isSome = true ↔ tx.Authenticates rollup := by
  simp only [Option.isSome_iff_exists, blob?_eq_some_iff]
  constructor
  · rintro ⟨_, e, he, -⟩
    exact ⟨e, he⟩
  · rintro ⟨e, he⟩
    exact ⟨_, e, he, rfl⟩

instance (tx : Transaction) (rollup : String) : Decidable (tx.Authenticates rollup) :=
  decidable_of_iff ((tx.blob? rollup .identity).isSome = true) isSome_blob?_iff

end Transaction

namespace Scanner

variable {s : Scanner} {block : Block} {entry : AnnotatedTransaction}

theorem succeeds_extractOne_iff
    (h : AnnotatedTransaction.annotate s.rollup entry.transaction = .ok entry) :
    Succeeds (s.extractOne entry) ↔ (s.Reports entry.transaction → entry.transaction.Fits) := by
  rcases extractOne_cases h with ⟨hquiet, hone⟩ | ⟨hreports, hone⟩
  · rw [hone]
    exact iff_of_true (succeeds_ok _) fun hreports => absurd hreports hquiet
  · rw [hone, succeeds_map, Transaction.succeeds_txid_iff]
    exact ⟨fun hfits _ => hfits, fun hfits => hfits hreports⟩

theorem reports_of_extractOne {e : Wire.WidthError}
    (h : AnnotatedTransaction.annotate s.rollup entry.transaction = .ok entry)
    (herror : s.extractOne entry = .error e) :
    s.Reports entry.transaction ∧ entry.transaction.txid = .error e := by
  rcases extractOne_cases h with ⟨-, hone⟩ | ⟨hreports, hone⟩
  · rw [hone] at herror
    cases herror
  · refine ⟨hreports, ?_⟩
    rw [hone] at herror
    cases hid : entry.transaction.txid with
    | error e' =>
        rw [hid] at herror
        cases herror
        rfl
    | ok id =>
        rw [hid] at herror
        cases herror

theorem extractOne_eq_none
    (h : AnnotatedTransaction.annotate s.rollup entry.transaction = .ok entry)
    (hnone : ¬ entry.transaction.Authenticates s.rollup)
    (hfits : s.Reports entry.transaction → entry.transaction.Fits) :
    s.extractOne entry = .ok none := by
  have hblob : entry.transaction.blob? s.rollup s.compressor = none := by
    rwa [← Option.not_isSome_iff_eq_none, Transaction.isSome_blob?_iff]
  rw [extractOne_of_annotate h, hblob]
  intro hreports
  exact Transaction.succeeds_txid_iff.mpr (hfits hreports)

theorem succeeds_extract_iff (h : block.AnnotatedFor s.rollup) :
    Succeeds (s.extract block) ↔ ∀ tx ∈ block.transactions, s.Reports tx → tx.Fits := by
  have hentries : Succeeds (block.entries.mapM s.extractOne) ↔
      ∀ tx ∈ block.transactions, s.Reports tx → tx.Fits := by
    rw [succeeds_mapM, Block.transactions, List.forall_mem_map]
    apply forall₂_congr
    intro entry hentry
    exact succeeds_extractOne_iff (h entry hentry)
  rw [← hentries, extract, succeeds_bind]
  simp only [succeeds_pure, and_true]
  rfl

theorem eq_blobs_of_extract {blobs : List Blob} (h : block.AnnotatedFor s.rollup)
    (hblobs : s.extract block = .ok blobs) :
    blobs = block.transactions.filterMap (·.blob? s.rollup s.compressor) := by
  have hfits := (succeeds_extract_iff h).mp ⟨blobs, hblobs⟩
  rw [extract_of_reported h, Except.ok.injEq] at hblobs
  · exact hblobs.symm
  · intro tx htx hreports
    exact Transaction.succeeds_txid_iff.mpr (hfits tx htx hreports)

theorem exists_reported_of_extract {e : Wire.WidthError} (h : block.AnnotatedFor s.rollup)
    (herror : s.extract block = .error e) :
    ∃ tx ∈ block.transactions, s.Reports tx ∧ tx.txid = .error e := by
  cases hfound : block.entries.mapM s.extractOne with
  | error e' =>
      rw [extract, hfound] at herror
      cases herror
      obtain ⟨entry, hentry, hone⟩ := exists_of_mapM_eq_error hfound
      exact ⟨entry.transaction, List.mem_map_of_mem hentry,
        reports_of_extractOne (h entry hentry) hone⟩
  | ok found =>
      rw [extract, hfound] at herror
      cases herror

theorem extract_append_of_none (h : s.extractOne entry = .ok none) (header : BlockHeader)
    (before later : List AnnotatedTransaction) (height? : Option Int) :
    s.extract { header, entries := before ++ entry :: later, height? } =
      s.extract { header, entries := before ++ later, height? } := by
  simp only [extract, List.mapM_append, List.mapM_cons, h]
  cases before.mapM s.extractOne with
  | error e => rfl
  | ok found =>
      cases later.mapM s.extractOne with
      | error e => rfl
      | ok found' => simp [bind, Except.bind, pure, Except.pure]

/-- A scan ends well exactly when all that it reports fits its fields, as it does in every block that
was read from bytes. It then finds, in block order, one blob for each transaction that reveals an
authentic envelope: with the key of the envelope, the hash of its body, and what this body
decompresses to, if anything. Other transactions may come and go anywhere in the block. -/
theorem extract_selects (s : Scanner) (block : Block) (h : block.AnnotatedFor s.rollup) :
    (Succeeds (s.extract block) ↔ ∀ tx ∈ block.transactions, s.Reports tx → tx.Fits) ∧
    (∀ e, s.extract block = .error e →
      ∃ tx ∈ block.transactions, s.Reports tx ∧ tx.txid = .error e) ∧
    (∀ raw b, RawBlock.ofBytes raw = .ok b → block.transactions = b.transactions →
      Succeeds (s.extract block)) ∧
    (∀ blobs, s.extract block = .ok blobs →
      List.Forall₂ (fun tx blob => ∃ e, tx.Reveals s.rollup e ∧
          blob = ⟨s.compressor.restore e.body, e.publicKey, Sha256.double e.body⟩)
        (block.transactions.filter fun tx => tx.Authenticates s.rollup) blobs) ∧
    ∀ before entry later, block.entries = before ++ entry :: later →
      ¬ entry.transaction.Authenticates s.rollup →
      (s.Reports entry.transaction → entry.transaction.Fits) →
        s.extract { block with entries := before ++ later } = s.extract block := by
  refine ⟨succeeds_extract_iff h, fun e => exists_reported_of_extract h, ?_, ?_, ?_⟩
  · intro raw b hb hsame
    rw [succeeds_extract_iff h, hsame]
    intro tx htx _
    exact (RawBlock.fits_of_ofBytes hb).2 tx htx
  · intro blobs hblobs
    rw [eq_blobs_of_extract h hblobs]
    have hselected := forall₂_filterMap (·.blob? s.rollup s.compressor) block.transactions
    have hfilter : (block.transactions.filter fun tx => tx.Authenticates s.rollup) =
        block.transactions.filter fun tx => (tx.blob? s.rollup s.compressor).isSome := by
      apply List.filter_congr
      intro tx _
      rw [Bool.eq_iff_iff, decide_eq_true_iff, Transaction.isSome_blob?_iff]
    rw [hfilter]
    exact hselected.imp fun tx blob => Transaction.blob?_eq_some_iff.mp
  · intro before entry later hentries hnone hfits
    have hentry : entry ∈ block.entries := by
      rw [hentries]
      exact List.mem_append_right _ List.mem_cons_self
    have hone := extractOne_eq_none (h entry hentry) hnone hfits
    obtain ⟨header, entries, height?⟩ := block
    subst hentries
    exact (extract_append_of_none hone header before later height?).symm

theorem extract_selects_block :
    let s : Scanner := ⟨"r", .refusing "refused"⟩
    Specimen.block.AnnotatedFor s.rollup ∧ s.Reports Specimen.reveal ∧
      ∃ e, Specimen.reveal.Reveals "r" e ∧
        s.extract Specimen.block = .ok [⟨[], e.publicKey, Sha256.double e.body⟩] := by
  intro s
  obtain ⟨hsucceeds, -, -, hselects, -⟩ := extract_selects s Specimen.block Specimen.annotatedFor_block
  have hauthenticates : Specimen.reveal.Authenticates "r" :=
    Transaction.isSome_blob?_iff.mp (Option.isSome_of_eq_some Specimen.blob?_reveal)
  have hreports : s.Reports Specimen.reveal := by
    obtain ⟨e, hleaf, -⟩ := hauthenticates
    refine ⟨e, bind_eq_ok.mpr hleaf, ?_⟩
    rintro ⟨-, _, hbody⟩
    cases hbody
  obtain ⟨blobs, hblobs⟩ : Succeeds (s.extract Specimen.block) := by
    rw [hsucceeds]
    simpa [Block.transactions, Specimen.block] using fun _ => Specimen.fits_reveal
  have hfound := hselects blobs hblobs
  have hfilter : (Specimen.block.transactions.filter fun tx => tx.Authenticates s.rollup) =
      [Specimen.reveal] := by
    simpa [Block.transactions, Specimen.block] using hauthenticates
  rw [hfilter] at hfound
  cases hfound with
  | cons hblob hrest =>
      cases hrest
      obtain ⟨e, hreveals, rfl⟩ := hblob
      exact ⟨Specimen.annotatedFor_block, hreports, e, hreveals, hblobs⟩

/-- With a lock time that does not fit its field, the same transaction ends the scan. -/
theorem extract_unfit_reveal :
    let s : Scanner := ⟨"r", .refusing "refused"⟩
    let tx : Transaction := { Specimen.reveal with lockTime := -1 }
    ∃ entry, AnnotatedTransaction.annotate s.rollup tx = .ok entry ∧ tx.Authenticates s.rollup ∧
      ∀ header height?, s.extract { header, entries := [entry], height? } = .error .negative := by
  intro s tx
  have hblob : tx.blob? s.rollup .identity = some Specimen.blob := Specimen.blob?_reveal
  refine ⟨⟨tx, some Specimen.blob.sender, some Specimen.blob.hash⟩,
    AnnotatedTransaction.annotate_of_blob? hblob,
    Transaction.isSome_blob?_iff.mp (Option.isSome_of_eq_some hblob), ?_⟩
  intro header height?
  have hone : s.extractOne ⟨tx, some Specimen.blob.sender, some Specimen.blob.hash⟩ =
      .error .negative := by
    decide +kernel
  simp only [extract, List.mapM_cons, hone]
  rfl

end Scanner

end BlobInscription
