import BlobInscription.Proofs.Block.Encoding

namespace BlobInscription

open Traversal

namespace Wire

variable {α β : Type}

/-- Whatever the reader takes has the property. -/
def Yields (item : Reader α) (p : α → Prop) : Prop :=
  ∀ {c c' : Cursor} {a : α}, item.run c = .ok (a, c') → p a

theorem yields_readUnsigned (width : Nat) : Yields (readUnsigned width) (· < 256 ^ width) := by
  intro c c' n hrun
  exact (run_readUnsigned_eq_ok hrun).2

theorem yields_readSigned (width : Nat) : Yields (readSigned (width + 1)) fun n =>
    -((256 ^ (width + 1) : Nat) / 2 : Int) ≤ n ∧ n < ((256 ^ (width + 1) : Nat) / 2 : Int) := by
  intro c c' n hrun
  obtain ⟨chunk, hread, rfl⟩ := run_map_eq_ok hrun
  obtain ⟨-, hlength⟩ := run_read_eq_ok hread
  have hpos : 0 < 256 ^ (width + 1) := by positivity
  have heven : 256 ^ (width + 1) % 2 = 0 := by
    rw [Nat.pow_succ]
    omega
  rw [Bytes.toIntLE, hlength, Nat.pow_eq]
  have hlow := Int.le_bmod (x := Bytes.toNatLE chunk) hpos
  have hhigh := Int.bmod_lt (x := Bytes.toNatLE chunk) hpos
  omega

theorem yields_readCompactSize : Yields readCompactSize (· < 2 ^ 64) := by
  intro c c' n hrun
  obtain ⟨first, c₁, hfirst, hsize⟩ := run_bind_eq_ok.mp hrun
  have hbyte := yields_readUnsigned 1 hfirst
  split at hsize
  · cases hsize
    omega
  · rename_i width hwidth
    have hlt := yields_readUnsigned width hsize
    have hle : 256 ^ width ≤ 256 ^ 8 := by
      apply Nat.pow_le_pow_right (by decide)
      simp only [compactWidth?] at hwidth
      split_ifs at hwidth <;> simp only [Option.some.injEq] at hwidth <;> omega
    omega

theorem yields_readVarBytes : Yields readVarBytes (·.length < 2 ^ 64) := by
  intro c c' bytes hrun
  obtain ⟨size, c₁, hsize, hread⟩ := run_bind_eq_ok.mp hrun
  rw [(run_read_eq_ok hread).2]
  exact yields_readCompactSize hsize

variable {item : Reader α} {p : α → Prop}

theorem forall_of_run_readManyOnto (hitem : Yields item p) {count : Nat} {done values : List α}
    {c c' : Cursor} (h : (readManyOnto item count done).run c = .ok (values, c'))
    (hdone : ∀ a ∈ done, p a) : values.length = done.length + count ∧ ∀ a ∈ values, p a := by
  induction count generalizing c done with
  | zero =>
      cases h
      simpa using hdone
  | succ count ih =>
      obtain ⟨value, c₁, hvalue, hrest⟩ := run_bind_eq_ok.mp h
      obtain ⟨hlength, hall⟩ := ih hrest (List.forall_mem_cons.mpr ⟨hitem hvalue, hdone⟩)
      refine ⟨?_, hall⟩
      rw [hlength, List.length_cons]
      omega

theorem yields_readList (hitem : Yields item p) :
    Yields (readList item) fun values => values.length < 2 ^ 64 ∧ ∀ a ∈ values, p a := by
  intro c c' values hrun
  obtain ⟨count, c₁, hcount, hmany⟩ := run_bind_eq_ok.mp hrun
  obtain ⟨hlength, hall⟩ := forall_of_run_readManyOnto hitem hmany (by simp)
  refine ⟨?_, hall⟩
  rw [hlength, List.length_nil, Nat.zero_add]
  exact yields_readCompactSize hcount

end Wire

open Wire (Yields)

theorem TxInput.yields_read : Yields TxInput.read TxInput.Fits := by
  intro c c' i hrun
  obtain ⟨prevout, c₁, hprevout, hrest⟩ := Wire.run_bind_eq_ok.mp hrun
  obtain ⟨scriptSig, c₂, hscriptSig, hrest⟩ := Wire.run_bind_eq_ok.mp hrest
  obtain ⟨sequence, hsequence, rfl⟩ := Wire.run_map_eq_ok hrest
  obtain ⟨txid, c₃, -, hpoint⟩ := Wire.run_bind_eq_ok.mp hprevout
  obtain ⟨vout, hvout, rfl⟩ := Wire.run_map_eq_ok hpoint
  have hvout := Wire.yields_readUnsigned 4 hvout
  have hsequence := Wire.yields_readUnsigned 4 hsequence
  exact ⟨by dsimp only; omega, Wire.yields_readVarBytes hscriptSig, by dsimp only; omega⟩

theorem TxOutput.yields_read : Yields TxOutput.read TxOutput.Fits := by
  intro c c' o hrun
  obtain ⟨value, c₁, hvalue, hrest⟩ := Wire.run_bind_eq_ok.mp hrun
  obtain ⟨scriptPubkey, hscriptPubkey, rfl⟩ := Wire.run_map_eq_ok hrest
  have hvalue := Wire.yields_readUnsigned 8 hvalue
  exact ⟨by dsimp only; omega, Wire.yields_readVarBytes hscriptPubkey⟩

theorem TxInput.fits_bare {i : TxInput} : i.bare.Fits ↔ i.Fits := by
  rw [fits_iff, fits_iff, bare]

namespace Transaction

theorem bare_of_run_readWitnesses {inputs done filled : List TxInput} {c c' : Wire.Cursor}
    (h : (readWitnesses inputs done).run c = .ok (filled, c')) :
    filled.map TxInput.bare = (done.reverse ++ inputs).map TxInput.bare := by
  induction inputs generalizing done c with
  | nil =>
      cases h
      simp
  | cons i inputs ih =>
      obtain ⟨witness, c₁, -, hrest⟩ := Wire.run_bind_eq_ok.mp h
      rw [ih hrest]
      simp [TxInput.bare]

theorem fits_of_bare {inputs filled : List TxInput}
    (hbare : filled.map TxInput.bare = inputs.map TxInput.bare) (hfits : ∀ i ∈ inputs, i.Fits) :
    ∀ i ∈ filled, i.Fits := by
  intro i hi
  have hmem : i.bare ∈ inputs.map TxInput.bare := by
    rw [← hbare]
    exact List.mem_map_of_mem hi
  obtain ⟨j, hj, heq⟩ := List.mem_map.mp hmem
  rw [← TxInput.fits_bare, ← heq, TxInput.fits_bare]
  exact hfits j hj

theorem yields_read : Yields Transaction.read Fits := by
  intro c c' tx hrun
  rw [read_eq_bind] at hrun
  obtain ⟨version, c₁, hversion, hrest⟩ := Wire.run_bind_eq_ok.mp hrun
  obtain ⟨marked, c₂, -, hrest⟩ := Wire.run_bind_eq_ok.mp hrest
  obtain ⟨inputs, c₃, hinputs, hrest⟩ := Wire.run_bind_eq_ok.mp hrest
  obtain ⟨outputs, c₄, houtputs, hrest⟩ := Wire.run_bind_eq_ok.mp hrest
  obtain ⟨filled, c₅, hfilled, hrest⟩ := Wire.run_bind_eq_ok.mp hrest
  obtain ⟨lockTime, hlockTime, rfl⟩ := Wire.run_map_eq_ok hrest
  -- Witnesses are filled in later, and no other field of an input changes with them.
  have hbare : filled.map TxInput.bare = inputs.map TxInput.bare := by
    split at hfilled
    · simpa using bare_of_run_readWitnesses hfilled
    · cases hfilled
      rfl
  have hlength : filled.length = inputs.length := by simpa using congrArg List.length hbare
  have hversion := Wire.yields_readSigned 3 hversion
  obtain ⟨hinputCount, hinputs⟩ := Wire.yields_readList TxInput.yields_read hinputs
  obtain ⟨houtputCount, houtputs⟩ := Wire.yields_readList TxOutput.yields_read houtputs
  have hlockTime := Wire.yields_readUnsigned 4 hlockTime
  refine ⟨by dsimp only; omega, ?_, fits_of_bare hbare hinputs, houtputCount, houtputs, ?_⟩
  · rw [hlength]
    exact hinputCount
  · dsimp only
    omega

end Transaction

theorem BlockHeader.yields_read : Yields BlockHeader.read BlockHeader.Fits := by
  intro c c' h hrun
  obtain ⟨version, c₁, hversion, hrest⟩ := Wire.run_bind_eq_ok.mp hrun
  obtain ⟨prevBlockHash, c₂, -, hrest⟩ := Wire.run_bind_eq_ok.mp hrest
  obtain ⟨merkleRoot, c₃, -, hrest⟩ := Wire.run_bind_eq_ok.mp hrest
  obtain ⟨time, c₄, htime, hrest⟩ := Wire.run_bind_eq_ok.mp hrest
  obtain ⟨bits, c₅, hbits, hrest⟩ := Wire.run_bind_eq_ok.mp hrest
  obtain ⟨nonce, hnonce, rfl⟩ := Wire.run_map_eq_ok hrest
  have hversion := Wire.yields_readSigned 3 hversion
  have htime := Wire.yields_readUnsigned 4 htime
  have hbits := Wire.yields_readUnsigned 4 hbits
  have hnonce := Wire.yields_readUnsigned 4 hnonce
  constructor <;> dsimp only <;> omega

/-- A block that was read has a hash, and its transactions have identifiers. -/
theorem RawBlock.fits_of_ofBytes {raw : Bytes} {b : RawBlock} (h : ofBytes raw = .ok b) :
    b.header.Fits ∧ ∀ tx ∈ b.transactions, tx.Fits := by
  obtain ⟨c, hrun⟩ := Wire.exists_run_of_readAll h
  obtain ⟨header, c₁, hheader, hrest⟩ := Wire.run_bind_eq_ok.mp hrun
  obtain ⟨transactions, htransactions, rfl⟩ := Wire.run_map_eq_ok hrest
  exact ⟨BlockHeader.yields_read hheader,
    (Wire.yields_readList Transaction.yields_read htransactions).2⟩

end BlobInscription
