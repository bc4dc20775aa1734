import BlobInscription.Proofs.Transaction.Encoding

namespace BlobInscription

open Traversal
open Wire (Reads listBytes)

variable {raw : Bytes}

namespace BlockHeader

variable {h : BlockHeader}

theorem serialize_eq_ok_iff : h.serialize = .ok raw ↔
    ∃ version time bits nonce, Wire.signed 4 h.version = .ok version ∧
      Wire.unsigned 4 h.time = .ok time ∧ Wire.unsigned 4 h.bits = .ok bits ∧
      Wire.unsigned 4 h.nonce = .ok nonce ∧
      version ++ h.prevBlockHash ++ h.merkleRoot ++ time ++ bits ++ nonce = raw := by
  simp only [serialize, bind_eq_ok, pure, Except.pure, Except.ok.injEq]
  grind

theorem succeeds_serialize_iff : Succeeds h.serialize ↔ h.Fits := by
  rw [← succeeds_hash_iff, hash, succeeds_map]

theorem reads_serialize (hprev : h.prevBlockHash.length = 32) (hroot : h.merkleRoot.length = 32)
    (hraw : h.serialize = .ok raw) : Reads BlockHeader.read raw h := by
  obtain ⟨version, time, bits, nonce, hversion, htime, hbits, hnonce, rfl⟩ :=
    serialize_eq_ok_iff.mp hraw
  have hread : Reads BlockHeader.read
      (version ++ (h.prevBlockHash ++ (h.merkleRoot ++ (time ++ (bits ++ nonce)))))
      ⟨h.version, h.prevBlockHash, h.merkleRoot, h.time.toNat, h.bits.toNat, h.nonce.toNat⟩ := by
    apply (Wire.reads_readSigned hversion).bind
    apply (Wire.reads_read_of_length hprev).bind
    apply (Wire.reads_read_of_length hroot).bind
    apply (Wire.reads_readUnsigned htime).bind
    apply (Wire.reads_readUnsigned hbits).bind
    exact (Wire.reads_readUnsigned hnonce).map
  rw [Int.toNat_of_nonneg (Wire.unsigned_eq_ok_iff.mp htime).1,
    Int.toNat_of_nonneg (Wire.unsigned_eq_ok_iff.mp hbits).1,
    Int.toNat_of_nonneg (Wire.unsigned_eq_ok_iff.mp hnonce).1] at hread
  simpa only [List.append_assoc] using hread

end BlockHeader

namespace RawBlock

variable {b : RawBlock}

theorem serialize_eq_ok_iff : b.serialize = .ok raw ↔
    ∃ header transactions, b.header.serialize = .ok header ∧
      listBytes Transaction.serialize b.transactions = .ok transactions ∧
      header ++ transactions = raw := by
  simp only [serialize, Wire.listBytes_eq_ok_iff, bind_eq_ok, pure, Except.pure, Except.ok.injEq]
  constructor
  · rintro ⟨header, hheader, count, hcount, items, hitems, rfl⟩
    exact ⟨header, _, hheader, ⟨count, items, hcount, hitems, rfl⟩, by simp⟩
  · rintro ⟨header, _, hheader, ⟨count, items, hcount, hitems, rfl⟩, rfl⟩
    exact ⟨header, hheader, count, hcount, items, hitems, by simp⟩

theorem succeeds_serialize_iff : Succeeds b.serialize ↔
    b.header.Fits ∧ b.transactions.length < 2 ^ 64 ∧
      ∀ tx ∈ b.transactions, tx.Fits ∧ ∀ i ∈ tx.inputs, i.WitnessFits := by
  simp only [← Transaction.succeeds_serialize_iff]
  rw [← Wire.succeeds_listBytes_iff, ← BlockHeader.succeeds_serialize_iff]
  constructor
  · rintro ⟨raw, hraw⟩
    obtain ⟨header, transactions, hheader, htransactions, -⟩ := serialize_eq_ok_iff.mp hraw
    exact ⟨⟨header, hheader⟩, transactions, htransactions⟩
  · rintro ⟨⟨header, hheader⟩, transactions, htransactions⟩
    exact ⟨_, serialize_eq_ok_iff.mpr ⟨header, transactions, hheader, htransactions, rfl⟩⟩

theorem reads_serialize (hprev : b.header.prevBlockHash.length = 32)
    (hroot : b.header.merkleRoot.length = 32)
    (hids : ∀ tx ∈ b.transactions, ∀ i ∈ tx.inputs, i.prevout.txid.length = 32)
    (hclear : ∀ tx ∈ b.transactions, ¬ tx.Ambiguous) (hraw : b.serialize = .ok raw) :
    Reads RawBlock.read raw b := by
  obtain ⟨header, transactions, hheader, htransactions, rfl⟩ := serialize_eq_ok_iff.mp hraw
  have hlist := Wire.reads_readList (f := id)
    (fun tx htx _ h => Transaction.reads_serialize (hids tx htx) (hclear tx htx) h) htransactions
  rw [List.map_id] at hlist
  exact (BlockHeader.reads_serialize hprev hroot hheader).bind hlist.map

/-- A block whose hashes and identifiers have 32 bytes and whose transactions have inputs has an
encoding exactly when its numbers fit their fields. The encoding is read back as the block, and with
anything behind it is refused. -/
theorem ofBytes_serialize (b : RawBlock) (hprev : b.header.prevBlockHash.length = 32)
    (hroot : b.header.merkleRoot.length = 32)
    (hinputs : ∀ tx ∈ b.transactions,
      tx.inputs ≠ [] ∧ ∀ i ∈ tx.inputs, i.prevout.txid.length = 32) :
    (Succeeds b.serialize ↔
      b.header.Fits ∧ b.transactions.length < 2 ^ 64 ∧
        ∀ tx ∈ b.transactions, tx.Fits ∧ ∀ i ∈ tx.inputs, i.WitnessFits) ∧
    ∀ raw, b.serialize = .ok raw →
      ofBytes raw = .ok b ∧
        ∀ more, more ≠ [] → ofBytes (raw ++ more) = .error (.trailing "block") := by
  refine ⟨succeeds_serialize_iff, ?_⟩
  intro raw hraw
  have hread : Reads RawBlock.read raw b := by
    apply reads_serialize hprev hroot _ _ hraw
    · intro tx htx
      exact (hinputs tx htx).2
    · rintro tx htx ⟨hnone, -⟩
      exact (hinputs tx htx).1 hnone
  refine ⟨hread.readAll_eq_ok, ?_⟩
  intro more hmore
  exact hread.readAll_append hmore

theorem ofBytes_serialize_three :
    let spend (witness : List Bytes) : TxInput :=
      { prevout := ⟨List.replicate 32 7, 1⟩, scriptSig := [0x51], witness }
    let b : RawBlock := {
      header := ⟨-1, List.replicate 32 0, List.replicate 32 0xff, 0xffffffff, 0x207fffff, 2⟩
      transactions := [
        { version := 2, inputs := [spend [[], [9]]], outputs := [⟨10000, [0x6a]⟩] },
        { version := 1, inputs := [spend []], outputs := [] },
        { version := 2, inputs := [spend [], spend [[]]], outputs := [⟨1, []⟩], lockTime := 9 }] }
    b.header.prevBlockHash.length = 32 ∧ b.header.merkleRoot.length = 32 ∧
      (∀ tx ∈ b.transactions, tx.inputs ≠ [] ∧ ∀ i ∈ tx.inputs, i.prevout.txid.length = 32) ∧
      ∃ raw, b.serialize = .ok raw ∧ ofBytes raw = .ok b ∧
        ofBytes (raw ++ [0]) = .error (.trailing "block") := by
  intro spend b
  have hinputs : ∀ tx ∈ b.transactions,
      tx.inputs ≠ [] ∧ ∀ i ∈ tx.inputs, i.prevout.txid.length = 32 := by
    decide +kernel
  obtain ⟨-, hread⟩ := ofBytes_serialize b rfl rfl hinputs
  obtain ⟨raw, hraw⟩ : Succeeds b.serialize := by decide +kernel
  obtain ⟨hback, hlonger⟩ := hread raw hraw
  exact ⟨rfl, rfl, hinputs, raw, hraw, hback, hlonger [0] (List.cons_ne_nil _ _)⟩

end RawBlock

end BlobInscription
