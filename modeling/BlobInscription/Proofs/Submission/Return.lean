import BlobInscription.Proofs.Authentication.Signing
import BlobInscription.Proofs.Envelope.Parcel
import BlobInscription.Proofs.Extraction
import BlobInscription.Proofs.Submission.Ending

namespace BlobInscription

open Dialogue (Exchange Trail)
open Traversal

namespace Submission

/-- The reveal carries the envelope of the order in the leaf script of its first input. -/
structure BuildOrder.Carried (order : BuildOrder) (reveal : Transaction) : Prop where
  ids : ∀ i ∈ reveal.inputs, i.prevout.txid.length = 32
  leaf : ∃ script nonce revealKey? chunkSize, Envelope.leafScript reveal = .ok script ∧
    Envelope.toScript order.rollup
      { body := order.body, signature := order.signature, publicKey := order.publicKey }
      nonce revealKey? chunkSize = .ok script

theorem BuildOrder.Carried.ofTransaction {order : BuildOrder} {reveal : Transaction}
    (h : order.Carried reveal) : Envelope.ofTransaction reveal order.rollup = .ok
      { body := order.body, signature := order.signature, publicKey := order.publicKey } := by
  obtain ⟨script, nonce, revealKey?, chunkSize, hleaf, hscript⟩ := h.leaf
  let parcel : Envelope.Parcel := {
    rollup := order.rollup
    content := ⟨order.body, order.signature, order.publicKey⟩
    nonce
    revealKey?
    chunkSize }
  have hread := Envelope.Parcel.ofScript_script (p := parcel) hscript
  rw [Envelope.ofTransaction, hleaf]
  exact hread

theorem BuildOrder.Carried.ofBytes {order : BuildOrder} {reveal : Transaction} {raw : Bytes}
    (h : order.Carried reveal) (hraw : reveal.serialize = .ok raw) :
    Transaction.ofBytes raw = .ok reveal := by
  have hclear : ¬ reveal.Ambiguous := by
    rintro ⟨hinputs, -⟩
    obtain ⟨script, _, _, _, hleaf, -⟩ := h.leaf
    rw [Envelope.leafScript, hinputs] at hleaf
    cases hleaf
  exact (Transaction.reads_serialize h.ids hclear hraw).readAll_eq_ok

end Submission

open Submission

theorem AnnotatedTransaction.annotate_of_verify {rollup : String} {tx : Transaction}
    {envelope : Envelope} {sender : Authentication.Sender}
    (henvelope : Envelope.ofTransaction tx rollup = .ok envelope)
    (hsender : Authentication.verify envelope = .ok sender) :
    annotate rollup tx =
      .ok { transaction := tx, sender? := some sender.publicKey, hash? := some sender.hash } := by
  have hread : Authentication.senderOf tx rollup = .ok sender := by
    rw [Authentication.senderOf, henvelope]
    exact hsender
  rw [annotate, hread]

namespace Submitter

variable {history : List (Exchange Answer)} {receipt : Receipt} {compressor : Compressor}
  {signer : Authentication.Signer}

variable {s : Submitter} {blob : Bytes}

theorem exists_agenda_of_receipt
    (h : Trail (s.submit blob).run history (.done (.ok receipt))) :
    ∃ c : Contributions, history = (s.agenda blob c).map Call.exchange ∧
      receipt = ⟨c.commitId, c.revealReply⟩ ∧ c.pair.reveal.serialize = .ok c.raw := by
  obtain ⟨c, calls, r, hends, hstands⟩ := exists_ends_of_trail h
  rcases hstands with ⟨hhistory, rfl⟩ | ⟨_, _, _, _, -, -, hfailed⟩
  · cases hends with
    | receipt _ _ hraw => exact ⟨c, hhistory, rfl, hraw⟩
  · cases hfailed

theorem made_of_computed {c : Contributions}
    (h : ∀ x ∈ (s.agenda blob c).map Call.exchange, Computed compressor signer x) :
    compressor.compress blob = .ok c.body ∧
      Authentication.sign signer c.body s.privateKey = .ok c.signed := by
  have hcompress : Computed compressor signer ⟨.compress blob, .ok c.body⟩ := h _ (.head _)
  have hsign : Computed compressor signer ⟨.signBlob c.body s.privateKey, .ok c.signed⟩ :=
    h _ (List.mem_of_getElem? (i := 5) rfl)
  exact ⟨mapError_eq_ok.mp hcompress.symm, mapError_eq_ok.mp hsign.symm⟩

/-- The reveal of a submission that gives a receipt is read back from what was saved and broadcast.
Annotated for the rollup and scanned in any block, it yields the blob, and nothing else, under the
public key that it was signed with. -/
theorem submit_comes_back (s : Submitter) (blob : Bytes)
    (htrail : Trail (s.submit blob).run history (.done (.ok receipt)))
    (hcomputed : ∀ x ∈ history, Computed compressor signer x)
    (hrestores : (compressor.compress blob >>= compressor.decompress) = .ok blob)
    (hgenuine : ∀ body secret, compressor.compress blob = .ok body →
      Authentication.readPrivateKey s.privateKey = .ok secret →
      Authentication.Genuine signer secret (Authentication.blobDigest body))
    (hcarried : ∀ order pair, ⟨.build order, .ok pair⟩ ∈ history → order.Carried pair.reveal) :
    ∃ body secret signedCommit raw reveal entry,
      compressor.compress blob = .ok body ∧
      Authentication.readPrivateKey s.privateKey = .ok secret ∧
      (history.filter (·.question.broadcasts)).map Exchange.question =
        [.node (.broadcast signedCommit), .node (.broadcast (.text (Bytes.hex raw)))] ∧
      ⟨.saveReveal receipt.commitId raw, .ok ()⟩ ∈ history ∧
      Transaction.ofHex (Bytes.hex raw) = .ok reveal ∧ Transaction.ofBytes raw = .ok reveal ∧
      AnnotatedTransaction.annotate s.rollup reveal = .ok entry ∧
      ∀ header before later height?,
        let scan (entries : List AnnotatedTransaction) :=
          Scanner.extract ⟨s.rollup, compressor⟩ { header, entries, height? }
        scan (before ++ entry :: later) = do
          let blobs ← scan before
          let blobs' ← scan later
          return blobs ++
            ⟨blob, Authentication.publicKeyOf secret, Sha256.double body⟩ :: blobs' := by
  obtain ⟨c, rfl, rfl, hraw⟩ := exists_agenda_of_receipt htrail
  obtain ⟨hbody, hsign⟩ := made_of_computed hcomputed
  obtain ⟨secret, hsecret, -⟩ := bind_eq_ok.mp hsign
  have hcarried := hcarried _ c.pair (List.mem_of_getElem? (i := 7) rfl)
  have hread := hcarried.ofBytes hraw
  have hverify := Authentication.verify_sign hsecret (hgenuine c.body secret hbody hsecret) hsign
  have hannotate := AnnotatedTransaction.annotate_of_verify hcarried.ofTransaction hverify
  rw [hbody] at hrestores
  have hextract : Scanner.extractOne ⟨s.rollup, compressor⟩
      { transaction := c.pair.reveal
        sender? := some (Authentication.publicKeyOf secret)
        hash? := some (Sha256.double c.body) } =
      .ok (some ⟨blob, Authentication.publicKeyOf secret, Sha256.double c.body⟩) := by
    have henvelope : Envelope.ofTransaction c.pair.reveal s.rollup = .ok
        { body := c.body
          signature := c.signed.signature
          publicKey := c.signed.publicKey } := hcarried.ofTransaction
    have hblob : compressor.decompress c.body = .ok blob := hrestores
    simp only [Scanner.extractOne, henvelope, hblob]
  refine ⟨c.body, secret, c.signedCommit, c.raw, c.pair.reveal, _, hbody, hsecret, rfl,
    List.mem_of_getElem? (i := 10) rfl, ?_, hread, hannotate, ?_⟩
  · rw [Transaction.ofHex, Bytes.ofHex?_hex]
    exact hread
  · intro header before later height?
    exact Scanner.extract_append_cons hextract header before later height?

end Submitter

namespace Specimen

/-- The leaf script that carries the byte 1 as the inscriber signs it. -/
def leaf : Bytes :=
  (Envelope.toScript "r" ⟨[1], signed.signature, signed.publicKey⟩ [9] none
    Script.maxElementSize).toOption.getD []

def inscribedReveal : Transaction where
  version := 2
  inputs := [{ prevout := ⟨List.replicate 32 7, 0⟩, witness := [leaf, [0xc0]] }]
  outputs := [⟨546, [0x51]⟩]

def inscribed : Contributions :=
  { inscription ⟨hollow 0, inscribedReveal⟩ with
    commitId := contributions.commitId
    unsigned := contributions.unsigned
    signedCommit := contributions.signedCommit
    raw := inscribedReveal.serialize.toOption.getD [] }

theorem follows_inscribed :
    Follows (inscriber.submit [1]).run (inscriber.agenda [1] inscribed)
      (.ok ⟨inscribed.commitId, .null⟩) := by
  have hraw : inscribedReveal.serialize = .ok inscribed.raw := by decide +kernel
  exact Submitter.follows_submit_iff.mpr ⟨inscribed,
    .receipt txidText_contributions toHex_contributions hraw⟩

theorem carried_inscribed {order : BuildOrder} {pair : TransactionPair}
    (h : ⟨.build order, .ok pair⟩ ∈ (inscriber.agenda [1] inscribed).map Call.exchange) :
    order.Carried pair.reveal := by
  have hleaf : Envelope.leafScript inscribedReveal = .ok leaf := by decide +kernel
  have hscript : Envelope.toScript "r" ⟨[1], signed.signature, signed.publicKey⟩ [9] none
      Script.maxElementSize = .ok leaf := by decide +kernel
  have hids : ∀ i ∈ inscribedReveal.inputs, i.prevout.txid.length = 32 := by decide +kernel
  simp [Submitter.agenda, Call.exchange] at h
  obtain ⟨rfl, rfl⟩ := h
  exact ⟨hids, leaf, [9], none, Script.maxElementSize, hleaf, hscript⟩

def secret : Nat :=
  0x1f1f1f1f1f1f1f1f1f1f1f1f1f1f1f1f1f1f1f1f1f1f1f1f1f1f1f1f1f1f1f1f

def key : Secp256k1.Point where
  x := 0x505f234a81fe3af88625ebda259dbaec44c72b181e2f64735f8b8ec8d7cf7377
  y := 0x66f224ea0c54423fd914028e8fd81502133f9aef9f794e5be600355fc5f3a150

theorem readPrivateKey_inscriber :
    Authentication.readPrivateKey inscriber.privateKey = .ok secret := by
  decide +kernel

theorem multiple?_secret : Secp256k1.multiple? secret = some key := by
  decide +kernel

theorem genuine_secret :
    Authentication.Genuine Ecdsa.sign secret (Authentication.blobDigest [1]) := by
  have hsecret := Authentication.isScalar_of_readPrivateKey readPrivateKey_inscriber
  obtain ⟨hr, hs⟩ :
      Ecdsa.isScalar (Ecdsa.sign secret (Authentication.blobDigest [1])).r = true ∧
        Ecdsa.isScalar (Ecdsa.sign secret (Authentication.blobDigest [1])).s = true := by
    decide +kernel
  refine Authentication.genuine_of_verify Authentication.negates_ecdsa hsecret hr hs ?_
  intro key hkey
  exact Ecdsa.verify_sign hsecret hkey
    (Nat.one_le_iff_ne_zero.mp (Authentication.isScalar_iff.mp hs).1)

end Specimen

namespace Submitter

open Specimen (inscriber inscribed)

theorem submit_comes_back_byte :
    ∃ (history : List (Exchange Answer)) (receipt : Receipt) (raw : Bytes) (reveal : Transaction)
      (entry : AnnotatedTransaction),
      Trail (inscriber.submit [1]).run history (.done (.ok receipt)) ∧
      ⟨.saveReveal receipt.commitId raw, .ok ()⟩ ∈ history ∧
      Transaction.ofBytes raw = .ok reveal ∧
      AnnotatedTransaction.annotate inscriber.rollup reveal = .ok entry ∧
      ∀ header height?, Scanner.extract ⟨inscriber.rollup, Specimen.plain⟩
          { header, entries := [entry], height? } =
        .ok [⟨[1], Specimen.signed.publicKey, Sha256.double [1]⟩] := by
  have htrail := Specimen.follows_inscribed.trail_done
  have hcomputed : ∀ x ∈ (inscriber.agenda [1] inscribed).map Call.exchange,
      Computed Specimen.plain Ecdsa.sign x := by
    intro x hx
    obtain ⟨call, hcall, rfl⟩ := List.mem_map.mp hx
    exact Specimen.computed_inscription ⟨rfl, rfl, rfl⟩ hcall
  have hgenuine : ∀ body secret, Specimen.plain.compress [1] = .ok body →
      Authentication.readPrivateKey inscriber.privateKey = .ok secret →
      Authentication.Genuine Ecdsa.sign secret (Authentication.blobDigest body) := by
    rintro body secret ⟨⟩ hsecret
    obtain rfl := Except.ok.inj (Specimen.readPrivateKey_inscriber.symm.trans hsecret)
    exact Specimen.genuine_secret
  obtain ⟨body, secret, _, raw, reveal, entry, hbody, hsecret, -, hsaved, -, hread, hannotate,
      hscan⟩ := submit_comes_back inscriber [1] htrail hcomputed rfl hgenuine
    fun order pair => Specimen.carried_inscribed
  obtain rfl := Except.ok.inj (Specimen.readPrivateKey_inscriber.symm.trans hsecret)
  obtain rfl : [1] = body := Except.ok.inj hbody
  have hkey : Authentication.publicKeyOf Specimen.secret = Specimen.signed.publicKey := by
    rw [Authentication.publicKeyOf, Specimen.multiple?_secret]
    decide +kernel
  refine ⟨_, _, raw, reveal, entry, htrail, hsaved, hread, hannotate, ?_⟩
  intro header height?
  have hlone := hscan header [] [] height?
  rw [hkey] at hlone
  exact hlone

end Submitter

end BlobInscription
