import BlobInscription.Proofs.Hash.Sha256
import BlobInscription.Proofs.Transaction.Encoding

namespace BlobInscription

open Traversal
open Wire (Reads)

/-- Two inputs that differ at most in their witnesses. -/
@[mk_iff]
structure TxInput.Agrees (i j : TxInput) : Prop where
  prevout : i.prevout = j.prevout
  scriptSig : i.scriptSig = j.scriptSig
  sequence : i.sequence = j.sequence

instance (i j : TxInput) : Decidable (i.Agrees j) :=
  decidable_of_iff _ (TxInput.agrees_iff i j).symm

theorem TxInput.agrees_iff_bare {i j : TxInput} : i.Agrees j ↔ i.bare = j.bare := by
  simp [agrees_iff, bare]

namespace Transaction

variable {tx other : Transaction} {raw : Bytes}

/-- The transaction without its witnesses. -/
def bare (tx : Transaction) : Transaction where
  version := tx.version
  inputs := tx.inputs.map fun i => { i with witness := [] }
  outputs := tx.outputs
  lockTime := tx.lockTime

theorem serializeStripped_bare (tx : Transaction) :
    tx.bare.serializeStripped = tx.serializeStripped := by
  have hinputs : tx.bare.inputs.mapM TxInput.serialize = tx.inputs.mapM TxInput.serialize := by
    rw [bare, List.mapM_map]
    rfl
  simp only [serializeStripped, serializeBody, hinputs]
  simp only [bare, List.length_map]

theorem txid_congr {tx own : Transaction}
    (h : tx.serializeStripped = own.serializeStripped) : tx.txid = own.txid := by
  rw [txid, txid, h]

/-- Two transactions that differ at most in the witnesses of their inputs. -/
@[mk_iff]
structure Agrees (tx other : Transaction) : Prop where
  version : tx.version = other.version
  inputs : List.Forall₂ TxInput.Agrees tx.inputs other.inputs
  outputs : tx.outputs = other.outputs
  lockTime : tx.lockTime = other.lockTime

instance (tx other : Transaction) : Decidable (tx.Agrees other) :=
  decidable_of_iff _ (tx.agrees_iff other).symm

theorem agrees_iff_bare : tx.Agrees other ↔ tx.bare = other.bare := by
  have hinput : TxInput.Agrees = fun i j => i.bare = j.bare := by
    funext i j
    exact propext TxInput.agrees_iff_bare
  have hinputs : List.Forall₂ TxInput.Agrees tx.inputs other.inputs ↔
      tx.inputs.map TxInput.bare = other.inputs.map TxInput.bare := by
    rw [← List.forall₂_eq_eq_eq, List.forall₂_map_left_iff, List.forall₂_map_right_iff, hinput]
  rw [agrees_iff, hinputs, bare, bare, Transaction.mk.injEq]
  rfl

theorem Agrees.serializeStripped_eq (h : tx.Agrees other) :
    tx.serializeStripped = other.serializeStripped := by
  rw [← serializeStripped_bare tx, agrees_iff_bare.mp h, serializeStripped_bare]

/-- Reads an encoding that is known to be without witnesses. -/
def readStripped : Wire.Reader Transaction :=
  Wire.readSigned 4 >>= fun version => readUnmarked version false

theorem reads_serializeStripped (hids : ∀ i ∈ tx.inputs, i.prevout.txid.length = 32)
    (h : tx.serializeStripped = .ok raw) : Reads readStripped raw tx.bare := by
  rw [← serializeStripped_bare] at h
  obtain ⟨version, body, lockTime, hversion, hbody, hlockTime, rfl⟩ :=
    serializeStripped_eq_ok_iff.mp h
  have hids' : ∀ i ∈ tx.bare.inputs, i.prevout.txid.length = 32 := by
    intro i hi
    obtain ⟨own, hown, rfl⟩ := List.mem_map.mp hi
    exact hids own hown
  have hempty : ∀ i ∈ tx.bare.inputs, i.witness = [] := by
    intro i hi
    obtain ⟨own, -, rfl⟩ := List.mem_map.mp hi
    rfl
  -- the reader is told that there is no marker, so it cannot mistake the counts for one
  have hrest : Reads (readUnmarked tx.bare.version false)
      (body ++ ([].flatten ++ lockTime)) tx.bare :=
    reads_readUnmarked hids' hbody ⟨rfl, hempty⟩ hlockTime
  rw [List.append_assoc]
  exact (Wire.reads_readSigned hversion).bind hrest

theorem agrees_of_serializeStripped (hids : ∀ i ∈ tx.inputs, i.prevout.txid.length = 32)
    (hids' : ∀ i ∈ other.inputs, i.prevout.txid.length = 32)
    (h : tx.serializeStripped = .ok raw) (h' : other.serializeStripped = .ok raw) :
    tx.Agrees other := by
  have hsame : raw ++ [] = raw ++ [] := rfl
  obtain ⟨hbare, -⟩ :=
    (reads_serializeStripped hids h).append_inj (reads_serializeStripped hids' h') hsame
  exact agrees_iff_bare.mpr hbare

/-- Transactions that agree apart from their witnesses have one identifier. Conversely, of two
transactions whose numbers and lengths fit their fields, one identifier tells that they agree, or
that their encodings without witnesses are different strings with one double hash. -/
theorem txid_eq_iff_agrees (tx other : Transaction) :
    (tx.Agrees other → tx.txid = other.txid) ∧
    (tx.Fits → other.Fits → (∀ i ∈ tx.inputs, i.prevout.txid.length = 32) →
      (∀ i ∈ other.inputs, i.prevout.txid.length = 32) →
        ∃ raw raw', tx.serializeStripped = .ok raw ∧ other.serializeStripped = .ok raw' ∧
          (raw = raw' ↔ tx.Agrees other) ∧
          (tx.txid = other.txid ↔
            tx.Agrees other ∨ raw ≠ raw' ∧ Sha256.double raw = Sha256.double raw')) := by
  refine ⟨fun h => txid_congr h.serializeStripped_eq, ?_⟩
  intro hfits hfits' hids hids'
  obtain ⟨raw, hraw⟩ := succeeds_serializeStripped_iff.mpr hfits
  obtain ⟨raw', hraw'⟩ := succeeds_serializeStripped_iff.mpr hfits'
  have hagrees : raw = raw' ↔ tx.Agrees other := by
    constructor
    · rintro rfl
      exact agrees_of_serializeStripped hids hids' hraw hraw'
    · intro h
      exact Except.ok.inj (hraw.symm.trans (h.serializeStripped_eq.trans hraw'))
  have htxid : tx.txid = other.txid ↔ Sha256.double raw = Sha256.double raw' := by
    rw [txid, txid, hraw, hraw', Except.map, Except.map, Except.ok.injEq]
  refine ⟨raw, raw', hraw, hraw', hagrees, ?_⟩
  rw [htxid, ← hagrees]
  constructor
  · intro hdouble
    exact (em (raw = raw')).imp_right fun hne => ⟨hne, hdouble⟩
  · rintro (rfl | ⟨-, hdouble⟩)
    · rfl
    · exact hdouble

theorem txid_eq_iff_agrees_spent :
    let spent (witness : List Bytes) : Transaction :=
      ⟨2, [⟨⟨List.replicate 32 0xab, 1⟩, [0x51], 0xfffffffd, witness⟩], [⟨5000, [0x51]⟩], 0⟩
    let paid (value : Int) : Transaction := ⟨2, [], [⟨value, [0x51]⟩], 0⟩
    ((spent []).Agrees (spent [[1, 2]]) ∧ (spent []).txid = (spent [[1, 2]]).txid) ∧
      (paid 1).Ambiguous ∧ (paid 1).Fits ∧ (paid 2).Fits ∧
      (∀ i ∈ (paid 1).inputs, i.prevout.txid.length = 32) ∧
      (∀ i ∈ (paid 2).inputs, i.prevout.txid.length = 32) ∧
      ¬ (paid 1).Agrees (paid 2) ∧ (paid 1).txid ≠ (paid 2).txid := by
  intro spent paid
  have hspent : (spent []).Agrees (spent [[1, 2]]) := by decide
  have hpaid : ∀ i ∈ (paid 1).inputs, i.prevout.txid.length = 32 := by decide
  have hpaid' : ∀ i ∈ (paid 2).inputs, i.prevout.txid.length = 32 := by decide
  have hraw : (paid 1).serializeStripped =
      .ok [2, 0, 0, 0, 0, 1, 1, 0, 0, 0, 0, 0, 0, 0, 1, 0x51, 0, 0, 0, 0] := by decide +kernel
  have hraw' : (paid 2).serializeStripped =
      .ok [2, 0, 0, 0, 0, 1, 2, 0, 0, 0, 0, 0, 0, 0, 1, 0x51, 0, 0, 0, 0] := by decide +kernel
  have hfits : (paid 1).Fits := succeeds_serializeStripped_iff.mp ⟨_, hraw⟩
  have hfits' : (paid 2).Fits := succeeds_serializeStripped_iff.mp ⟨_, hraw'⟩
  have hdiffer : ¬ (paid 1).Agrees (paid 2) := by decide
  obtain ⟨raw, raw', h, h', -, hid⟩ :=
    (txid_eq_iff_agrees (paid 1) (paid 2)).2 hfits hfits' hpaid hpaid'
  obtain rfl := Except.ok.inj (hraw.symm.trans h)
  obtain rfl := Except.ok.inj (hraw'.symm.trans h')
  refine ⟨⟨hspent, (txid_eq_iff_agrees _ _).1 hspent⟩, ⟨rfl, rfl⟩, hfits, hfits', hpaid, hpaid',
    hdiffer, fun hsame => ?_⟩
  rcases hid.mp hsame with hagrees | ⟨-, hdouble⟩
  · exact hdiffer hagrees
  · rw [Sha256.double_eq] at hdouble
    exact absurd hdouble (by decide +kernel)

end Transaction

end BlobInscription
