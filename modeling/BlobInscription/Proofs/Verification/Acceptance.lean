import BlobInscription.Proofs.Extraction
import BlobInscription.Proofs.Hash.Sha256
import BlobInscription.Verification
import Mathlib.Data.List.Dedup
import Mathlib.Data.List.Perm.Basic

namespace BlobInscription

open Traversal

def VerificationError.isCompleteness : VerificationError → Bool
  | notSampled _ | repeated _ | unclaimed _ | missing _ | unbacked _ => true
  | emptyInclusion | rootMismatch | width _ => false

namespace Verifier

variable {v : Verifier}

/-- The blobs that transactions carry for the verifier's rollup. -/
def carried (v : Verifier) (transactions : List Transaction) : List Blob :=
  transactions.filterMap (·.blob? v.rollup v.compressor)

theorem expected?_eq_blob? (tx : Transaction) :
    v.expected? tx = tx.blob? v.rollup v.compressor := by
  rw [expected?, Transaction.blob?]
  cases Envelope.ofTransaction tx v.rollup with
  | error e => rfl
  | ok envelope =>
      cases hverify : Authentication.verify envelope with
      | error e => simp [hverify]
      | ok sender =>
          simp only [hverify, Authentication.hash_of_verify hverify]
          rfl

theorem mem_sampled_iff {inclusion : InclusionProof} {id : Bytes} :
    id ∈ v.sampled inclusion ↔ id ∈ inclusion.txids ∧ v.filter.passes id = true := by
  rw [sampled, List.mem_eraseDups, List.mem_filter]

/-- What the account does with one transaction: it refuses an identifier that is not sampled or was
met before, and strikes the blob that the transaction carries off the claims. -/
theorem account_cons {sampled seen : List Bytes} {tx : Transaction} {id : Bytes}
    {rest : List Transaction} {claimed : List Blob} (hid : tx.txid = .ok id) :
    v.account sampled (tx :: rest) seen claimed =
      if id ∉ sampled then .error (.notSampled id)
      else if id ∈ seen then .error (.repeated id)
      else
        match tx.blob? v.rollup v.compressor with
        | none => v.account sampled rest (id :: seen) claimed
        | some blob =>
            if blob ∈ claimed then v.account sampled rest (id :: seen) (claimed.erase blob)
            else .error (.unclaimed id) := by
  simp only [account, hid, Except.mapError, bind, Except.bind, expected?_eq_blob?, throw, throwThe,
    MonadExceptOf.throw, List.contains_iff_mem]
  by_cases hsampled : id ∈ sampled
  · by_cases hseen : id ∈ seen
    · simp [hsampled, hseen]
    · cases tx.blob? v.rollup v.compressor with
      | none => simp [hsampled, hseen]
      | some blob => simp [hsampled, hseen]
  · simp [hsampled]

theorem account_cons_eq_ok_iff {sampled seen : List Bytes} {tx : Transaction} {id : Bytes}
    {rest : List Transaction} {claimed : List Blob} {out : List Bytes × List Blob}
    (hid : tx.txid = .ok id) :
    v.account sampled (tx :: rest) seen claimed = .ok out ↔
      id ∈ sampled ∧ id ∉ seen ∧
        match tx.blob? v.rollup v.compressor with
        | none => v.account sampled rest (id :: seen) claimed = .ok out
        | some blob =>
            blob ∈ claimed ∧
              v.account sampled rest (id :: seen) (claimed.erase blob) = .ok out := by
  rw [account_cons hid]
  by_cases hsampled : id ∈ sampled
  · by_cases hseen : id ∈ seen
    · simp [hsampled, hseen]
    · cases tx.blob? v.rollup v.compressor with
      | none => simp [hsampled, hseen]
      | some blob =>
          by_cases hblob : blob ∈ claimed
          · simp [hsampled, hseen, hblob]
          · simp [hsampled, hseen, hblob]
  · simp [hsampled]

theorem exists_account_of_cons {sampled seen : List Bytes} {tx : Transaction} {id : Bytes}
    {rest : List Transaction} {claimed : List Blob} {out : List Bytes × List Blob}
    (hid : tx.txid = .ok id) (h : v.account sampled (tx :: rest) seen claimed = .ok out) :
    ∃ claimed', v.account sampled rest (id :: seen) claimed' = .ok out := by
  obtain ⟨-, -, h⟩ := (account_cons_eq_ok_iff hid).mp h
  cases hblob : tx.blob? v.rollup v.compressor with
  | none =>
      simp only [hblob] at h
      exact ⟨claimed, h⟩
  | some blob =>
      simp only [hblob] at h
      exact ⟨claimed.erase blob, h.2⟩

/-- Identifiers that an account lets pass: sampled ones, each once, and none met before. -/
@[mk_iff]
structure Admitted (sampled seen ids : List Bytes) : Prop where
  sampled : ∀ id ∈ ids, id ∈ sampled
  nodup : ids.Nodup
  new : ∀ id ∈ ids, id ∉ seen

theorem admitted_cons_iff {sampled seen ids : List Bytes} {id : Bytes} :
    Admitted sampled seen (id :: ids) ↔
      id ∈ sampled ∧ id ∉ seen ∧ Admitted sampled (id :: seen) ids := by
  constructor
  · rintro ⟨hsampled, hnodup, hnew⟩
    obtain ⟨hid, hnodup⟩ := List.nodup_cons.mp hnodup
    refine ⟨hsampled id (by simp), hnew id (by simp), ?_, hnodup, ?_⟩
    · intro other hother
      exact hsampled other (by simp [hother])
    · intro other hother hmem
      rcases List.mem_cons.mp hmem with rfl | hmem
      · exact hid hother
      · exact hnew other (by simp [hother]) hmem
  · rintro ⟨hid, hseen, hsampled, hnodup, hnew⟩
    have hfresh : id ∉ ids := fun hmem => hnew id hmem (by simp)
    refine ⟨?_, List.nodup_cons.mpr ⟨hfresh, hnodup⟩, ?_⟩
    · intro other hother
      rcases List.mem_cons.mp hother with rfl | hother
      · exact hid
      · exact hsampled other hother
    · intro other hother
      rcases List.mem_cons.mp hother with rfl | hother
      · exact hseen
      · exact fun hmem => hnew other hother (by simp [hmem])

/-- An account comes to an end exactly when the identifiers are admitted, and what the transactions
carry and what the account leaves make up the claims. -/
theorem account_iff {sampled seen : List Bytes} {transactions : List Transaction}
    {ids : List Bytes} {claimed left : List Blob}
    (hids : List.Forall₂ (fun tx id => tx.txid = .ok id) transactions ids) :
    (∃ claimed', v.account sampled transactions seen claimed = .ok (ids.reverse ++ seen, claimed') ∧
        claimed'.Perm left) ↔
      Admitted sampled seen ids ∧ (v.carried transactions ++ left).Perm claimed := by
  induction hids generalizing seen claimed with
  | nil => simp [account, carried, admitted_iff, List.perm_comm]
  | @cons tx id rest ids hid hids ih =>
      have hseen : (id :: ids).reverse ++ seen = ids.reverse ++ (id :: seen) := by simp
      rw [hseen, admitted_cons_iff]
      simp only [account_cons_eq_ok_iff hid]
      cases hblob : tx.blob? v.rollup v.compressor with
      | none =>
          have hcarried : v.carried (tx :: rest) = v.carried rest := by simp [carried, hblob]
          rw [hcarried]
          simp only [and_assoc, exists_and_left, ih]
      | some blob =>
          have hcarried : v.carried (tx :: rest) = blob :: v.carried rest := by
            simp [carried, hblob]
          rw [hcarried, List.cons_append, List.cons_perm_iff_perm_erase]
          simp only [and_assoc, exists_and_left, ih]
          constructor
          · rintro ⟨hin, hnew, hmem, hrest, hperm⟩
            exact ⟨hin, hnew, hrest, hmem, hperm⟩
          · rintro ⟨hin, hnew, hrest, hmem, hperm⟩
            exact ⟨hin, hnew, hmem, hrest, hperm⟩

theorem seen_of_account {sampled seen : List Bytes} {transactions : List Transaction}
    {ids : List Bytes} {claimed : List Blob} {out : List Bytes × List Blob}
    (hids : List.Forall₂ (fun tx id => tx.txid = .ok id) transactions ids)
    (h : v.account sampled transactions seen claimed = .ok out) :
    out.1 = ids.reverse ++ seen := by
  induction hids generalizing seen claimed with
  | nil =>
      cases h
      rfl
  | @cons tx id rest ids hid hids ih =>
      obtain ⟨claimed', hrest⟩ := exists_account_of_cons hid h
      have hseen : (id :: ids).reverse ++ seen = ids.reverse ++ (id :: seen) := by simp
      rw [hseen]
      exact ih hrest

theorem succeeds_txid_of_account {sampled seen : List Bytes} {transactions : List Transaction}
    {claimed : List Blob} {out : List Bytes × List Blob}
    (h : v.account sampled transactions seen claimed = .ok out) :
    ∀ tx ∈ transactions, Succeeds tx.txid := by
  induction transactions generalizing seen claimed with
  | nil => simp
  | cons tx rest ih =>
      cases hid : tx.txid with
      | error e => simp [account, hid, Except.mapError, bind, Except.bind] at h
      | ok id =>
          obtain ⟨claimed', hrest⟩ := exists_account_of_cons hid h
          exact List.forall_mem_cons.mpr ⟨⟨id, hid⟩, ih hrest⟩

theorem isCompleteness_of_account {sampled seen : List Bytes} {transactions : List Transaction}
    {claimed : List Blob} {e : VerificationError}
    (hids : ∀ tx ∈ transactions, Succeeds tx.txid)
    (h : v.account sampled transactions seen claimed = .error e) : e.isCompleteness = true := by
  induction transactions generalizing seen claimed with
  | nil => cases h
  | cons tx rest ih =>
      obtain ⟨id, hid⟩ := hids tx (by simp)
      have hrest : ∀ other ∈ rest, Succeeds other.txid :=
        fun other hother => hids other (by simp [hother])
      rw [account_cons hid] at h
      split at h
      · cases h
        rfl
      · split at h
        · cases h
          rfl
        · split at h
          · exact ih hrest h
          · split at h
            · exact ih hrest h
            · cases h
              rfl

theorem verifyCompleteness_eq_ok_iff_account {blobs : List Blob} {inclusion : InclusionProof}
    {completeness : CompletenessProof} :
    v.verifyCompleteness blobs inclusion completeness = .ok () ↔
      ∃ seen, v.account (v.sampled inclusion) completeness.transactions [] blobs = .ok (seen, []) ∧
        ∀ id ∈ v.sampled inclusion, id ∈ seen := by
  rw [verifyCompleteness]
  cases v.account (v.sampled inclusion) completeness.transactions [] blobs with
  | error e => simp [bind, Except.bind]
  | ok out =>
      obtain ⟨seen, claimed⟩ := out
      simp only [bind, Except.bind, throw, throwThe, MonadExceptOf.throw, Except.ok.injEq,
        Prod.mk.injEq]
      split
      · rename_i hmissing
        have hsome : ¬ ∀ id ∈ v.sampled inclusion, id ∈ seen := by simpa using hmissing
        simp only [reduceCtorEq, false_iff]
        rintro ⟨seen', ⟨rfl, -⟩, hall⟩
        exact hsome hall
      · rename_i hmissing
        have hall : ∀ id ∈ v.sampled inclusion, id ∈ seen := by simpa using hmissing
        cases claimed with
        | nil => simpa [pure, Except.pure] using hall
        | cons blob claimed => simp

theorem verifyCompleteness_eq_ok_iff {blobs : List Blob} {inclusion : InclusionProof}
    {completeness : CompletenessProof} {ids : List Bytes}
    (hids : completeness.transactions.mapM Transaction.txid = .ok ids) :
    v.verifyCompleteness blobs inclusion completeness = .ok () ↔
      ids.Nodup ∧ (∀ id, id ∈ ids ↔ id ∈ inclusion.txids ∧ v.filter.passes id = true) ∧
        blobs.Perm (v.carried completeness.transactions) := by
  have hids := mapM_eq_ok_iff.mp hids
  have haccount :
      (∃ claimed, v.account (v.sampled inclusion) completeness.transactions [] blobs =
          .ok (ids.reverse ++ [], claimed) ∧ claimed.Perm []) ↔
        Admitted (v.sampled inclusion) [] ids ∧
          (v.carried completeness.transactions ++ []).Perm blobs := account_iff hids
  simp only [List.append_nil, List.perm_nil, exists_eq_right] at haccount
  rw [verifyCompleteness_eq_ok_iff_account]
  constructor
  · rintro ⟨seen, hrun, hall⟩
    have hseen : seen = ids.reverse := by simpa using seen_of_account hids hrun
    rw [hseen] at hrun hall
    obtain ⟨⟨hsampled, hnodup, -⟩, hperm⟩ := haccount.mp hrun
    refine ⟨hnodup, ?_, hperm.symm⟩
    intro id
    rw [← mem_sampled_iff]
    exact ⟨hsampled id, fun hid => by simpa using hall id hid⟩
  · rintro ⟨hnodup, hmem, hperm⟩
    refine ⟨ids.reverse, haccount.mpr ⟨⟨?_, hnodup, by simp⟩, hperm.symm⟩, ?_⟩
    · intro id hid
      exact mem_sampled_iff.mpr ((hmem id).mp hid)
    · intro id hid
      exact List.mem_reverse.mpr ((hmem id).mpr (mem_sampled_iff.mp hid))

theorem exists_ids_of_verifyCompleteness {blobs : List Blob} {inclusion : InclusionProof}
    {completeness : CompletenessProof}
    (h : v.verifyCompleteness blobs inclusion completeness = .ok ()) :
    ∃ ids, completeness.transactions.mapM Transaction.txid = .ok ids := by
  obtain ⟨seen, haccount, -⟩ := verifyCompleteness_eq_ok_iff_account.mp h
  exact succeeds_mapM.mpr (succeeds_txid_of_account haccount)

theorem verifyCompleteness_congr {blobs : List Blob} {inclusion inclusion' : InclusionProof}
    {completeness : CompletenessProof}
    (h : inclusion.txids.filter v.filter.passes = inclusion'.txids.filter v.filter.passes) :
    v.verifyCompleteness blobs inclusion completeness =
      v.verifyCompleteness blobs inclusion' completeness := by
  rw [verifyCompleteness, verifyCompleteness, sampled, sampled, h]

theorem verifyInclusion_eq_ok_iff {header : BlockHeader} {inclusion : InclusionProof} :
    verifyInclusion header inclusion = .ok () ↔
      MerkleTree.root? inclusion.txids = some header.merkleRoot := by
  rw [verifyInclusion]
  cases MerkleTree.root? inclusion.txids with
  | none => simp
  | some root =>
      by_cases hroot : root = header.merkleRoot
      · simp [hroot]
      · simp [hroot]

theorem verify_eq_ok_iff {header : BlockHeader} {blobs out : List Blob}
    {inclusion : InclusionProof} {completeness : CompletenessProof} :
    v.verify header blobs inclusion completeness = .ok out ↔
      MerkleTree.root? inclusion.txids = some header.merkleRoot ∧
        v.verifyCompleteness blobs inclusion completeness = .ok () ∧ header.Fits ∧ out = blobs := by
  rw [← verifyInclusion_eq_ok_iff, ← BlockHeader.succeeds_hash_iff, Succeeds]
  simp only [verify, bind_eq_ok, mapError_eq_ok, pure, Except.pure, Except.ok.injEq]
  constructor
  · rintro ⟨⟨⟩, hinclusion, ⟨⟩, hcompleteness, id, hid, rfl⟩
    exact ⟨hinclusion, hcompleteness, ⟨id, hid⟩, rfl⟩
  · rintro ⟨hinclusion, hcompleteness, ⟨id, hid⟩, rfl⟩
    exact ⟨(), hinclusion, (), hcompleteness, id, hid, rfl⟩

theorem isCompleteness_of_verifyCompleteness {blobs : List Blob} {inclusion : InclusionProof}
    {completeness : CompletenessProof} {e : VerificationError}
    (hids : ∀ tx ∈ completeness.transactions, Succeeds tx.txid)
    (h : v.verifyCompleteness blobs inclusion completeness = .error e) :
    e.isCompleteness = true := by
  rw [verifyCompleteness] at h
  cases haccount : v.account (v.sampled inclusion) completeness.transactions [] blobs with
  | error e' =>
      rw [haccount] at h
      cases h
      exact isCompleteness_of_account hids haccount
  | ok out =>
      simp only [haccount, bind, Except.bind, throw, throwThe, MonadExceptOf.throw] at h
      split at h
      · cases h
        rfl
      · split at h
        · cases h
          rfl
        · cases h

/-- A completeness proof whose transactions all have identifiers is accepted exactly when the
identifiers are distinct and are the sampled ones, and the claimed blobs are, with multiplicities,
those that the transactions carry. No other error than one about completeness is reported. -/
theorem verifyCompleteness_iff (v : Verifier) (blobs : List Blob) (inclusion : InclusionProof)
    (completeness : CompletenessProof)
    (hfits : ∀ tx ∈ completeness.transactions, tx.Fits) :
    ∃ ids, completeness.transactions.mapM Transaction.txid = .ok ids ∧
      (v.verifyCompleteness blobs inclusion completeness = .ok () ↔
        ids.Nodup ∧
        (∀ id, id ∈ ids ↔ id ∈ inclusion.txids ∧ v.filter.passes id = true) ∧
        blobs.Perm
          (completeness.transactions.filterMap (·.blob? v.rollup v.compressor))) ∧
      ∀ e, v.verifyCompleteness blobs inclusion completeness = .error e →
        e.isCompleteness = true := by
  have hsucceeds : ∀ tx ∈ completeness.transactions, Succeeds tx.txid :=
    fun tx htx => Transaction.succeeds_txid_iff.mpr (hfits tx htx)
  obtain ⟨ids, hids⟩ := succeeds_mapM.mpr hsucceeds
  refine ⟨ids, hids, verifyCompleteness_eq_ok_iff hids, ?_⟩
  intro e
  exact isCompleteness_of_verifyCompleteness hsucceeds

end Verifier

namespace Specimen

/-- An envelope that authenticates: both scalars of its signature are the digest of the body, which
is the first coordinate of a point, and the key is that point less the generator. -/
def envelope : Envelope where
  body := [0]
  signature := Sha256.double [0] ++ Sha256.double [0]
  publicKey :=
    2 :: Bytes.ofNatBE 32 0x7ba0f319879249a27937d0bd02f6854eb024e558c784b0c37400263f269ead7c

def reveal : Transaction where
  version := 2
  inputs := [{
    prevout := ⟨List.replicate 32 0, 0⟩
    witness := [(Envelope.toScript "r" envelope [] none 520).toOption.getD [], [0xc0]] }]
  outputs := []

def revealId : Bytes :=
  Bytes.ofNatBE 32 0xf1a1f60d9f239f6990abe6c388f1bda08b9242d669215e1489b47577852390dc

def blob : Blob where
  blob := [0]
  sender := envelope.publicKey
  hash := Sha256.double [0]

def verifier : Verifier where
  rollup := "r"
  filter := ⟨0, by decide⟩
  compressor := .identity

theorem txid_reveal : reveal.txid = .ok revealId := by
  rw [Transaction.txid, Sha256.double_eq]
  decide +kernel

theorem blob?_reveal : reveal.blob? "r" .identity = some blob := by
  decide +kernel

theorem fits_reveal : reveal.Fits :=
  Transaction.succeeds_txid_iff.mp ⟨revealId, txid_reveal⟩

/-- The verifier of the rollup `r` that samples identifiers with one leading zero byte. -/
def sampler : Verifier where
  rollup := "r"
  filter := ⟨1, by decide⟩
  compressor := .identity

/-- A transaction without a witness that spends an output of the zero transaction. -/
def spend (vout lockTime : Nat) : Transaction where
  version := 2
  inputs := [{ prevout := ⟨List.replicate 32 0, vout⟩ }]
  outputs := []
  lockTime

/-- The same with the witness of the reveal, and with its blob. -/
def carrier (vout lockTime : Nat) : Transaction :=
  { spend vout lockTime with
    inputs := reveal.inputs.map fun input =>
      { input with prevout := ⟨List.replicate 32 0, vout⟩ } }

/-- The identifier of `spend 0 680` and `carrier 0 680`, which `sampler` samples. -/
def sampledId : Bytes :=
  Bytes.ofNatBE 32 0x0032782521bd40ae1a6e443933b4628e4a43823547ab708fa8cbe347a3a89554

/-- The identifier of `spend 1 0`, which it does not. -/
def plainId : Bytes :=
  Bytes.ofNatBE 32 0x4b3e1d5938ed3b8e296aeae3cdb832a4f3c59118666eb558e398027f35347ed4

/-- The identifier of `carrier 1 184`, which it samples. -/
def echoId : Bytes :=
  Bytes.ofNatBE 32 0x0074bde2b5ed99b15a96c6be60215f03e2f4211bc71acd552057b8935ee40666

theorem txid_spends : (spend 0 680).txid = .ok sampledId ∧ (spend 1 0).txid = .ok plainId ∧
    (spend 1 184).txid = .ok echoId := by
  simp only [Transaction.txid, Sha256.double_eq]
  decide +kernel

theorem txid_carrier (vout lockTime : Nat) :
    (carrier vout lockTime).txid = (spend vout lockTime).txid :=
  rfl

theorem mapM_txid_carriers :
    [carrier 0 680, carrier 1 184].mapM Transaction.txid = .ok [sampledId, echoId] := by
  obtain ⟨hsampled, -, hecho⟩ := txid_spends
  exact mapM_eq_ok_iff.mpr (.cons ((txid_carrier 0 680).trans hsampled)
    (.cons ((txid_carrier 1 184).trans hecho) .nil))

theorem combine_spends : MerkleTree.combine sampledId plainId =
    Bytes.ofNatBE 32 0x3a5bd91e86fee2cdef88971a9e2f0f74df61b69bcf3fc24f52ae71d1a6a94bad := by
  rw [MerkleTree.combine, Sha256.double_eq]
  decide +kernel

theorem fits_carriers : ∀ tx ∈ [carrier 0 680, carrier 1 184], tx.Fits := by
  intro tx htx
  exact Transaction.succeeds_txid_iff.mp (succeeds_mapM.mp ⟨_, mapM_txid_carriers⟩ tx htx)

theorem blob?_carrier (vout lockTime : Nat) :
    (carrier vout lockTime).blob? "r" .identity = some blob :=
  blob?_reveal

theorem passes_sampler : [sampledId, plainId, echoId].filter sampler.filter.passes =
    [sampledId, echoId] := by
  decide

end Specimen

theorem Verifier.verifyCompleteness_carriers :
    let inclusion : InclusionProof := ⟨[Specimen.sampledId, Specimen.plainId, Specimen.echoId]⟩
    let completeness : CompletenessProof := ⟨[Specimen.carrier 0 680, Specimen.carrier 1 184]⟩
    (∀ tx ∈ completeness.transactions, tx.Fits) ∧
      Specimen.sampler.verifyCompleteness [Specimen.blob, Specimen.blob] inclusion completeness =
        .ok () ∧
      ∃ e, Specimen.sampler.verifyCompleteness [Specimen.blob] inclusion completeness = .error e ∧
        e.isCompleteness = true := by
  intro inclusion completeness
  have hblob : ∀ vout lockTime, (Specimen.carrier vout lockTime).blob? Specimen.sampler.rollup
      Specimen.sampler.compressor = some Specimen.blob := Specimen.blob?_carrier
  have hcarried : completeness.transactions.filterMap
      (·.blob? Specimen.sampler.rollup Specimen.sampler.compressor) =
        [Specimen.blob, Specimen.blob] := by
    simp [completeness, hblob]
  obtain ⟨ids, hids, haccept, -⟩ := verifyCompleteness_iff Specimen.sampler
    [Specimen.blob, Specimen.blob] inclusion completeness Specimen.fits_carriers
  obtain ⟨_, -, haccept', hcompleteness⟩ := verifyCompleteness_iff Specimen.sampler
    [Specimen.blob] inclusion completeness Specimen.fits_carriers
  obtain rfl := Except.ok.inj (Specimen.mapM_txid_carriers.symm.trans hids)
  refine ⟨Specimen.fits_carriers, haccept.mpr ⟨by decide, ?_, by rw [hcarried]⟩, ?_⟩
  · intro id
    rw [← List.mem_filter, Specimen.passes_sampler]
  · cases hone : Specimen.sampler.verifyCompleteness [Specimen.blob] inclusion completeness with
    | error e => exact ⟨e, rfl, hcompleteness e hone⟩
    | ok _ =>
        have hlength := (haccept'.mp hone).2.2.length_eq
        rw [hcarried] at hlength
        cases hlength

end BlobInscription
