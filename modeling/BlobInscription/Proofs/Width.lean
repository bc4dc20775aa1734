import BlobInscription.Block
import BlobInscription.Proofs.Traversal
import Mathlib.Algebra.Order.Ring.Nat
import Mathlib.Tactic.MkIffOfInductiveProp
import Mathlib.Tactic.NormNum

namespace BlobInscription

open Traversal

namespace Wire

theorem succeeds_unsigned_iff {width : Nat} {n : Int} :
    Succeeds (unsigned width n) ↔ 0 ≤ n ∧ n < (256 ^ width : Nat) := by
  simp only [unsigned, Nat.pow_eq]
  split
  · rename_i hneg
    simp only [not_succeeds_error, false_iff]
    omega
  · rename_i hneg
    split
    · rename_i hlt
      simp only [succeeds_ok, true_iff]
      omega
    · rename_i hlt
      simp only [not_succeeds_error, false_iff]
      omega

theorem succeeds_signed_iff {width : Nat} {n : Int} :
    Succeeds (signed width n) ↔
      -((256 ^ width : Nat) / 2 : Int) ≤ n ∧ n < ((256 ^ width : Nat) / 2 : Int) := by
  simp only [signed, Nat.pow_eq]
  split
  · rename_i h
    simpa using h
  · rename_i h
    simpa using h

theorem succeeds_compactSize_iff {n : Int} :
    Succeeds (compactSize n) ↔ 0 ≤ n ∧ n < 2 ^ 64 := by
  unfold compactSize
  split
  · simp only [not_succeeds_error, false_iff]
    omega
  · split
    · simp only [succeeds_ok, true_iff]
      omega
    · split
      · simp only [succeeds_ok, true_iff]
        omega
      · split
        · simp only [succeeds_ok, true_iff]
          omega
        · rw [succeeds_map, succeeds_unsigned_iff]
          norm_num

theorem succeeds_count_iff {n : Nat} : Succeeds (compactSize n) ↔ n < 2 ^ 64 := by
  rw [succeeds_compactSize_iff]
  omega

theorem succeeds_varBytes_iff {bytes : Bytes} :
    Succeeds (varBytes bytes) ↔ bytes.length < 2 ^ 64 := by
  rw [varBytes, succeeds_map, succeeds_count_iff]

end Wire

/-- The numbers of an input without its witness fit their fields. -/
@[mk_iff]
structure TxInput.Fits (i : TxInput) : Prop where
  vout : 0 ≤ i.prevout.vout ∧ i.prevout.vout < 2 ^ 32
  scriptSig : i.scriptSig.length < 2 ^ 64
  sequence : 0 ≤ i.sequence ∧ i.sequence < 2 ^ 32

theorem TxInput.succeeds_serialize_iff {i : TxInput} : Succeeds i.serialize ↔ i.Fits := by
  simp only [serialize, OutPoint.serialize, succeeds_bind, succeeds_pure, and_true,
    exists_and_right]
  change Succeeds (Except.map _ _) ∧ Succeeds _ ∧ Succeeds _ ↔ _
  rw [succeeds_map, Wire.succeeds_unsigned_iff, Wire.succeeds_varBytes_iff,
    Wire.succeeds_unsigned_iff, fits_iff]
  norm_num

/-- The numbers of an output fit their fields. -/
@[mk_iff]
structure TxOutput.Fits (o : TxOutput) : Prop where
  value : 0 ≤ o.value ∧ o.value < 2 ^ 64
  scriptPubkey : o.scriptPubkey.length < 2 ^ 64

theorem TxOutput.succeeds_serialize_iff {o : TxOutput} : Succeeds o.serialize ↔ o.Fits := by
  simp only [serialize, succeeds_bind, succeeds_pure, and_true, exists_and_right]
  change Succeeds _ ∧ Succeeds _ ↔ _
  rw [Wire.succeeds_unsigned_iff, Wire.succeeds_varBytes_iff, fits_iff]
  norm_num

namespace Transaction

/-- The numbers of a transaction, witnesses apart, fit their fields. -/
@[mk_iff]
structure Fits (tx : Transaction) : Prop where
  version : -2 ^ 31 ≤ tx.version ∧ tx.version < 2 ^ 31
  inputCount : tx.inputs.length < 2 ^ 64
  inputs : ∀ i ∈ tx.inputs, i.Fits
  outputCount : tx.outputs.length < 2 ^ 64
  outputs : ∀ o ∈ tx.outputs, o.Fits
  lockTime : 0 ≤ tx.lockTime ∧ tx.lockTime < 2 ^ 32

theorem succeeds_serializeBody_iff {tx : Transaction} :
    Succeeds tx.serializeBody ↔
      tx.inputs.length < 2 ^ 64 ∧ (∀ i ∈ tx.inputs, i.Fits) ∧
        tx.outputs.length < 2 ^ 64 ∧ ∀ o ∈ tx.outputs, o.Fits := by
  simp only [serializeBody, succeeds_bind, succeeds_pure, and_true, exists_and_right]
  change Succeeds _ ∧ Succeeds _ ∧ Succeeds _ ∧ Succeeds _ ↔ _
  simp only [Wire.succeeds_count_iff, succeeds_mapM, TxInput.succeeds_serialize_iff,
    TxOutput.succeeds_serialize_iff]

theorem succeeds_serializeStripped_iff {tx : Transaction} :
    Succeeds tx.serializeStripped ↔ tx.Fits := by
  simp only [serializeStripped, succeeds_bind, succeeds_pure, and_true, exists_and_right]
  change Succeeds _ ∧ Succeeds _ ∧ Succeeds _ ↔ _
  rw [Wire.succeeds_signed_iff, succeeds_serializeBody_iff, Wire.succeeds_unsigned_iff,
    fits_iff]
  norm_num [and_assoc]

theorem succeeds_txid_iff {tx : Transaction} : Succeeds tx.txid ↔ tx.Fits := by
  rw [txid, succeeds_map, succeeds_serializeStripped_iff]

end Transaction

namespace BlockHeader

/-- The numbers of a header fit their fields. -/
@[mk_iff]
structure Fits (h : BlockHeader) : Prop where
  version : -2 ^ 31 ≤ h.version ∧ h.version < 2 ^ 31
  time : 0 ≤ h.time ∧ h.time < 2 ^ 32
  bits : 0 ≤ h.bits ∧ h.bits < 2 ^ 32
  nonce : 0 ≤ h.nonce ∧ h.nonce < 2 ^ 32

theorem succeeds_hash_iff {h : BlockHeader} : Succeeds h.hash ↔ h.Fits := by
  rw [hash, succeeds_map]
  simp only [serialize, succeeds_bind, succeeds_pure, and_true, exists_and_right]
  change Succeeds _ ∧ Succeeds _ ∧ Succeeds _ ∧ Succeeds _ ↔ _
  simp only [Wire.succeeds_signed_iff, Wire.succeeds_unsigned_iff, fits_iff]
  norm_num

end BlockHeader

end BlobInscription
