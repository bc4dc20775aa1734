import BlobInscription.Proofs.MerkleTree.Binding
import BlobInscription.Proofs.Transaction.Encoding

namespace BlobInscription

open Traversal
open Wire (listBytes)

namespace TxInput

/-- The input before it is signed. -/
def blank (i : TxInput) : TxInput :=
  { i with scriptSig := [], witness := [] }

variable {i j : TxInput}

theorem blank_eq_iff : i.blank = j.blank ↔ i.prevout = j.prevout ∧ i.sequence = j.sequence := by
  simp [blank]

theorem serialize_congr (h : i.blank = j.blank) (hscript : i.scriptSig = j.scriptSig) :
    i.serialize = j.serialize := by
  obtain ⟨hprevout, hsequence⟩ := blank_eq_iff.mp h
  simp only [serialize, hprevout, hsequence, hscript]

/-- Two signed forms of one input are told apart by their scripts, whatever follows them. -/
theorem scriptSig_eq_of_append {raw raw' rest rest' : Bytes} (hblank : i.blank = j.blank)
    (h : i.serialize = .ok raw) (h' : j.serialize = .ok raw')
    (heq : raw ++ rest = raw' ++ rest') : i.scriptSig = j.scriptSig ∧ rest = rest' := by
  obtain ⟨prevout, script, sequence, hprevout, hscript, hsequence, rfl⟩ :=
    serialize_eq_ok_iff.mp h
  obtain ⟨prevout', script', sequence', hprevout', hscript', hsequence', rfl⟩ :=
    serialize_eq_ok_iff.mp h'
  obtain ⟨hsame, hsame'⟩ := blank_eq_iff.mp hblank
  rw [hsame, hprevout', Except.ok.injEq] at hprevout
  rw [hsame', hsequence', Except.ok.injEq] at hsequence
  subst hprevout hsequence
  simp only [List.append_assoc] at heq
  obtain ⟨hscripts, hrest⟩ := (Wire.reads_readVarBytes hscript).append_inj
    (Wire.reads_readVarBytes hscript') (List.append_cancel_left heq)
  exact ⟨hscripts, List.append_cancel_left hrest⟩

theorem scriptSigs_eq_of_flatten {inputs inputs' : List TxInput} {items items' : List Bytes}
    {rest rest' : Bytes} (hblank : inputs.map blank = inputs'.map blank)
    (h : List.Forall₂ (fun i raw => i.serialize = .ok raw) inputs items)
    (h' : List.Forall₂ (fun i raw => i.serialize = .ok raw) inputs' items')
    (heq : items.flatten ++ rest = items'.flatten ++ rest') :
    inputs.map scriptSig = inputs'.map scriptSig := by
  -- The reader of an input stops at its end, so the two texts agree input by input.
  induction h generalizing inputs' items' with
  | nil =>
      rw [List.map_nil] at hblank
      rw [List.map_eq_nil_iff.mp hblank.symm]
  | @cons i raw inputs items hraw _ ih =>
      cases h' with
      | nil => cases hblank
      | @cons j raw' inputs' items' hraw' htail =>
          rw [List.map_cons, List.map_cons, List.cons.injEq] at hblank
          simp only [List.flatten_cons, List.append_assoc] at heq
          obtain ⟨hscript, hrest⟩ := scriptSig_eq_of_append hblank.1 hraw hraw' heq
          rw [List.map_cons, List.map_cons, hscript, ih hblank.2 htail hrest]

end TxInput

namespace Transaction

/-- The transaction before it is signed. -/
def blank (tx : Transaction) : Transaction :=
  { tx with inputs := tx.inputs.map TxInput.blank }

def scriptSigs (tx : Transaction) : List Bytes :=
  tx.inputs.map TxInput.scriptSig

variable {tx signed : Transaction}

theorem mapM_serialize_congr {inputs inputs' : List TxInput}
    (hblank : inputs.map TxInput.blank = inputs'.map TxInput.blank)
    (hscripts : inputs.map TxInput.scriptSig = inputs'.map TxInput.scriptSig) :
    inputs.mapM TxInput.serialize = inputs'.mapM TxInput.serialize := by
  induction inputs generalizing inputs' with
  | nil => rw [List.map_eq_nil_iff.mp hblank.symm]
  | cons i inputs ih =>
      cases inputs' with
      | nil => cases hblank
      | cons j inputs' =>
          rw [List.map_cons, List.map_cons, List.cons.injEq] at hblank hscripts
          rw [List.mapM_cons, List.mapM_cons, TxInput.serialize_congr hblank.1 hscripts.1,
            ih hblank.2 hscripts.2]

theorem blank_eq_iff : signed.blank = tx.blank ↔ signed.version = tx.version ∧
    signed.inputs.map TxInput.blank = tx.inputs.map TxInput.blank ∧
    signed.outputs = tx.outputs ∧ signed.lockTime = tx.lockTime := by
  simp [blank]

theorem length_inputs_of_blank (h : signed.blank = tx.blank) :
    signed.inputs.length = tx.inputs.length := by
  have hlength := congrArg List.length (blank_eq_iff.mp h).2.1
  simpa using hlength

theorem serializeStripped_congr (h : signed.blank = tx.blank)
    (hscripts : signed.scriptSigs = tx.scriptSigs) :
    signed.serializeStripped = tx.serializeStripped := by
  obtain ⟨hversion, hinputs, houtputs, hlockTime⟩ := blank_eq_iff.mp h
  simp only [serializeStripped, serializeBody, hversion, length_inputs_of_blank h,
    mapM_serialize_congr hinputs hscripts, houtputs, hlockTime]

theorem scriptSigs_eq_of_serializeStripped {raw : Bytes} (h : signed.blank = tx.blank)
    (hsigned : signed.serializeStripped = .ok raw) (htx : tx.serializeStripped = .ok raw) :
    signed.scriptSigs = tx.scriptSigs := by
  obtain ⟨version, body, lockTime, hversion, hbody, -, rfl⟩ :=
    serializeStripped_eq_ok_iff.mp hsigned
  obtain ⟨version', body', lockTime', hversion', hbody', -, heq⟩ :=
    serializeStripped_eq_ok_iff.mp htx
  obtain ⟨hsame, hblanks, -, -⟩ := blank_eq_iff.mp h
  rw [← hsame, hversion, Except.ok.injEq] at hversion'
  obtain ⟨inputs, outputs, hinputs, -, rfl⟩ := serializeBody_eq_ok_iff.mp hbody
  obtain ⟨inputs', outputs', hinputs', -, rfl⟩ := serializeBody_eq_ok_iff.mp hbody'
  obtain ⟨count, items, hcount, hitems, rfl⟩ := Wire.listBytes_eq_ok_iff.mp hinputs
  obtain ⟨count', items', hcount', hitems', rfl⟩ := Wire.listBytes_eq_ok_iff.mp hinputs'
  rw [← length_inputs_of_blank h, hcount, Except.ok.injEq] at hcount'
  subst hversion' hcount'
  simp only [List.append_assoc] at heq
  exact TxInput.scriptSigs_eq_of_flatten hblanks
    (mapM_eq_ok_iff.mp hitems) (mapM_eq_ok_iff.mp hitems')
    (List.append_cancel_left (List.append_cancel_left heq)).symm

theorem txidText_eq_ok_iff {id : String} : tx.txidText = .ok id ↔
    ∃ raw, tx.serializeStripped = .ok raw ∧ displayId (Sha256.double raw) = id := by
  rw [txidText, txid, map_map_eq_ok]

theorem displayId_injective : Function.Injective displayId := by
  intro id other h
  exact List.reverse_injective (Bytes.hex_injective h)

theorem txidText_congr (h : signed.blank = tx.blank) (hscripts : signed.scriptSigs = tx.scriptSigs) :
    signed.txidText = tx.txidText := by
  rw [txidText, txid, serializeStripped_congr h hscripts, ← txid, ← txidText]

theorem scriptSigs_eq_of_txidText {id : String} {raw signedRaw : Bytes}
    (h : signed.blank = tx.blank) (htx : tx.serializeStripped = .ok raw)
    (hsigned : signed.serializeStripped = .ok signedRaw)
    (hfree : ¬ Sha256.Collides [raw, signedRaw]) (hid : tx.txidText = .ok id)
    (hsignedId : signed.txidText = .ok id) : signed.scriptSigs = tx.scriptSigs := by
  obtain ⟨_, hraw, rfl⟩ := txidText_eq_ok_iff.mp hid
  obtain ⟨_, hraw', hdisplay⟩ := txidText_eq_ok_iff.mp hsignedId
  obtain rfl := Except.ok.inj (htx.symm.trans hraw)
  obtain rfl := Except.ok.inj (hsigned.symm.trans hraw')
  have hsame : signedRaw = raw :=
    Sha256.eq_of_double_eq hfree (by simp) (by simp) (displayId_injective hdisplay)
  exact scriptSigs_eq_of_serializeStripped h (hsame ▸ hsigned) htx

end Transaction

end BlobInscription
