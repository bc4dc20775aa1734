import BlobInscription.Proofs.Wire.Reading

namespace BlobInscription

open Traversal
open Wire (Reads Thrifty Cursor listBytes)

variable {raw : Bytes}

theorem OutPoint.reads_serialize {p : OutPoint} (hid : p.txid.length = 32)
    (h : p.serialize = .ok raw) : Reads OutPoint.read raw p := by
  obtain ⟨vout, hvout, rfl⟩ := map_eq_ok.mp h
  obtain ⟨hnonneg, -⟩ := Wire.unsigned_eq_ok_iff.mp hvout
  have hread : Reads OutPoint.read (p.txid ++ vout) ⟨p.txid, p.vout.toNat⟩ :=
    (Wire.reads_read_of_length hid).bind (Wire.reads_readUnsigned hvout).map
  rwa [Int.toNat_of_nonneg hnonneg] at hread

theorem OutPoint.thrifty_read : Thrifty OutPoint.read OutPoint.serialize := by
  intro c c' p raw hrun hraw
  obtain ⟨txid, c₁, htxid, hvout⟩ := Wire.run_bind_eq_ok.mp hrun
  obtain ⟨vout, hread, rfl⟩ := Wire.run_map_eq_ok hvout
  obtain ⟨hrest, -⟩ := Wire.run_read_eq_ok htxid
  obtain ⟨hfield, -⟩ := Wire.run_readUnsigned_eq_ok hread
  obtain ⟨field, hwritten, rfl⟩ := map_eq_ok.mp hraw
  obtain ⟨-, -, rfl⟩ := Wire.unsigned_eq_ok_iff.mp hwritten
  simp only [hrest, List.length_append, Bytes.length_ofNatLE]
  omega

namespace TxInput

/-- The input without its witness. -/
def bare (i : TxInput) : TxInput :=
  { i with witness := [] }

theorem serialize_eq_ok_iff {i : TxInput} : i.serialize = .ok raw ↔
    ∃ prevout scriptSig sequence, i.prevout.serialize = .ok prevout ∧
      Wire.varBytes i.scriptSig = .ok scriptSig ∧ Wire.unsigned 4 i.sequence = .ok sequence ∧
      prevout ++ scriptSig ++ sequence = raw := by
  simp only [serialize, bind_eq_ok, pure, Except.pure, Except.ok.injEq]
  grind

theorem reads_serialize {i : TxInput} (hid : i.prevout.txid.length = 32)
    (h : i.serialize = .ok raw) : Reads TxInput.read raw i.bare := by
  obtain ⟨prevout, scriptSig, sequence, hprevout, hscriptSig, hsequence, rfl⟩ :=
    serialize_eq_ok_iff.mp h
  obtain ⟨hnonneg, -⟩ := Wire.unsigned_eq_ok_iff.mp hsequence
  have hread : Reads TxInput.read (prevout ++ (scriptSig ++ sequence))
      ⟨i.prevout, i.scriptSig, i.sequence.toNat, []⟩ :=
    (OutPoint.reads_serialize hid hprevout).bind
      ((Wire.reads_readVarBytes hscriptSig).bind (Wire.reads_readUnsigned hsequence).map)
  rwa [Int.toNat_of_nonneg hnonneg, ← List.append_assoc] at hread

theorem thrifty_read : Thrifty TxInput.read TxInput.serialize := by
  intro c c' i raw hrun hraw
  obtain ⟨prevout, c₁, hprevout, hrest⟩ := Wire.run_bind_eq_ok.mp hrun
  obtain ⟨scriptSig, c₂, hscriptSig, hsequence⟩ := Wire.run_bind_eq_ok.mp hrest
  obtain ⟨sequence, hread, rfl⟩ := Wire.run_map_eq_ok hsequence
  obtain ⟨point, script, field, hpoint, hscript, hfield, rfl⟩ := serialize_eq_ok_iff.mp hraw
  have hfirst := OutPoint.thrifty_read hprevout hpoint
  have hsecond := Wire.thrifty_readVarBytes hscriptSig hscript
  obtain ⟨hlast, -⟩ := Wire.run_readUnsigned_eq_ok hread
  obtain ⟨-, -, rfl⟩ := Wire.unsigned_eq_ok_iff.mp hfield
  rw [List.length_append, List.length_append, Bytes.length_ofNatLE]
  omega

theorem serializeWitness_eq_listBytes (i : TxInput) :
    i.serializeWitness = listBytes Wire.varBytes i.witness := rfl

/-- The witness can be counted, and its items measured. -/
@[mk_iff]
structure WitnessFits (i : TxInput) : Prop where
  count : i.witness.length < 2 ^ 64
  items : ∀ item ∈ i.witness, item.length < 2 ^ 64

instance (i : TxInput) : Decidable i.WitnessFits :=
  decidable_of_iff _ i.witnessFits_iff.symm

theorem succeeds_serializeWitness_iff {i : TxInput} :
    Succeeds i.serializeWitness ↔ i.WitnessFits := by
  rw [serializeWitness_eq_listBytes, Wire.succeeds_listBytes_iff, witnessFits_iff]
  simp only [Wire.succeeds_varBytes_iff]

theorem reads_serializeWitness {i : TxInput} (h : i.serializeWitness = .ok raw) :
    Reads (Wire.readList Wire.readVarBytes) raw i.witness := by
  rw [serializeWitness_eq_listBytes] at h
  have hread := Wire.reads_readList (f := id) (fun _ _ _ hitem => Wire.reads_readVarBytes hitem) h
  rwa [List.map_id] at hread

end TxInput

namespace TxOutput

theorem serialize_eq_ok_iff {o : TxOutput} : o.serialize = .ok raw ↔
    ∃ value scriptPubkey, Wire.unsigned 8 o.value = .ok value ∧
      Wire.varBytes o.scriptPubkey = .ok scriptPubkey ∧ value ++ scriptPubkey = raw := by
  simp only [serialize, bind_eq_ok, pure, Except.pure, Except.ok.injEq]
  grind

theorem reads_serialize {o : TxOutput} (h : o.serialize = .ok raw) :
    Reads TxOutput.read raw o := by
  obtain ⟨value, scriptPubkey, hvalue, hscriptPubkey, rfl⟩ := serialize_eq_ok_iff.mp h
  obtain ⟨hnonneg, -⟩ := Wire.unsigned_eq_ok_iff.mp hvalue
  have hread : Reads TxOutput.read (value ++ scriptPubkey) ⟨o.value.toNat, o.scriptPubkey⟩ :=
    (Wire.reads_readUnsigned hvalue).bind (Wire.reads_readVarBytes hscriptPubkey).map
  rwa [Int.toNat_of_nonneg hnonneg] at hread

theorem thrifty_read : Thrifty TxOutput.read TxOutput.serialize := by
  intro c c' o raw hrun hraw
  obtain ⟨value, c₁, hvalue, hscriptPubkey⟩ := Wire.run_bind_eq_ok.mp hrun
  obtain ⟨scriptPubkey, hread, rfl⟩ := Wire.run_map_eq_ok hscriptPubkey
  obtain ⟨field, script, hfield, hscript, rfl⟩ := serialize_eq_ok_iff.mp hraw
  obtain ⟨hfirst, -⟩ := Wire.run_readUnsigned_eq_ok hvalue
  have hsecond := Wire.thrifty_readVarBytes hread hscript
  obtain ⟨-, -, rfl⟩ := Wire.unsigned_eq_ok_iff.mp hfield
  rw [List.length_append, Bytes.length_ofNatLE]
  omega

end TxOutput

namespace Transaction

variable {tx : Transaction}

theorem serializeBody_eq_ok_iff : tx.serializeBody = .ok raw ↔
    ∃ inputs outputs, listBytes TxInput.serialize tx.inputs = .ok inputs ∧
      listBytes TxOutput.serialize tx.outputs = .ok outputs ∧ inputs ++ outputs = raw := by
  simp only [serializeBody, Wire.listBytes_eq_ok_iff, bind_eq_ok, pure, Except.pure,
    Except.ok.injEq]
  constructor
  · rintro ⟨inputCount, hinputCount, inputs, hinputs, outputCount, houtputCount, outputs, houtputs,
      rfl⟩
    exact ⟨_, _, ⟨inputCount, inputs, hinputCount, hinputs, rfl⟩,
      ⟨outputCount, outputs, houtputCount, houtputs, rfl⟩, by simp⟩
  · rintro ⟨_, _, ⟨inputCount, inputs, hinputCount, hinputs, rfl⟩,
      ⟨outputCount, outputs, houtputCount, houtputs, rfl⟩, rfl⟩
    exact ⟨inputCount, hinputCount, inputs, hinputs, outputCount, houtputCount, outputs, houtputs,
      by simp⟩

theorem serializeStripped_eq_ok_iff : tx.serializeStripped = .ok raw ↔
    ∃ version body lockTime, Wire.signed 4 tx.version = .ok version ∧
      tx.serializeBody = .ok body ∧ Wire.unsigned 4 tx.lockTime = .ok lockTime ∧
      version ++ body ++ lockTime = raw := by
  simp only [serializeStripped, bind_eq_ok, pure, Except.pure, Except.ok.injEq]
  grind

theorem serialize_eq_ok_iff_of_witness (h : tx.hasWitness = true) : tx.serialize = .ok raw ↔
    ∃ version body witnesses lockTime, Wire.signed 4 tx.version = .ok version ∧
      tx.serializeBody = .ok body ∧
      tx.inputs.mapM TxInput.serializeWitness = .ok witnesses ∧
      Wire.unsigned 4 tx.lockTime = .ok lockTime ∧
      version ++ witnessMarker ++ body ++ witnesses.flatten ++ lockTime = raw := by
  simp only [serialize, h, if_true, bind_eq_ok, pure, Except.pure, Except.ok.injEq]
  grind

theorem serialize_of_no_witness (h : tx.hasWitness = false) :
    tx.serialize = tx.serializeStripped := by
  rw [serialize, h, if_neg (by decide)]

theorem witness_eq_nil_of_no_witness (h : tx.hasWitness = false) {i : TxInput}
    (hi : i ∈ tx.inputs) : i.witness = [] := by
  have hempty := List.any_eq_false.mp h i hi
  simpa using hempty

theorem succeeds_serialize_iff :
    Succeeds tx.serialize ↔ tx.Fits ∧ ∀ i ∈ tx.inputs, i.WitnessFits := by
  rw [← succeeds_serializeStripped_iff]
  cases hwitness : tx.hasWitness with
  | true =>
      simp only [Succeeds, serialize_eq_ok_iff_of_witness hwitness, serializeStripped_eq_ok_iff]
      have hwitnesses : Succeeds (tx.inputs.mapM TxInput.serializeWitness) ↔
          ∀ i ∈ tx.inputs, i.WitnessFits := by
        simp only [succeeds_mapM, TxInput.succeeds_serializeWitness_iff]
      rw [← hwitnesses]
      constructor
      · rintro ⟨_, version, body, items, lockTime, hversion, hbody, hitems, hlockTime, -⟩
        exact ⟨⟨_, version, body, lockTime, hversion, hbody, hlockTime, rfl⟩, items, hitems⟩
      · rintro ⟨⟨_, version, body, lockTime, hversion, hbody, hlockTime, -⟩, items, hitems⟩
        exact ⟨_, version, body, items, lockTime, hversion, hbody, hitems, hlockTime, rfl⟩
  | false =>
      rw [serialize_of_no_witness hwitness, iff_self_and]
      intro _ i hi
      simp [TxInput.witnessFits_iff, witness_eq_nil_of_no_witness hwitness hi]

theorem succeeds_txidText_iff : Succeeds tx.txidText ↔ tx.Fits := by
  rw [txidText, succeeds_map, succeeds_txid_iff]

theorem succeeds_txidText_of_serialize (h : Succeeds tx.serialize) : Succeeds tx.txidText :=
  succeeds_txidText_iff.mpr (succeeds_serialize_iff.mp h).1

/-- What is read behind the witness marker, or behind the version when there is none. -/
def readUnmarked (version : Int) (marked : Bool) : Wire.Reader Transaction :=
  Wire.readList TxInput.read >>= fun inputs =>
  Wire.readList TxOutput.read >>= fun outputs =>
  (if marked then readWitnesses inputs [] else pure inputs) >>= fun inputs =>
  Wire.readUnsigned 4 >>= fun lockTime =>
  pure { version, inputs, outputs, lockTime }

theorem read_eq_bind : Transaction.read =
    (Wire.readSigned 4 >>= fun version => readMarker >>= readUnmarked version) := by
  refine congrArg _ (funext fun version => congrArg _ (funext fun marked => ?_))
  cases marked with
  | true => rfl
  | false => rfl

theorem run_readMarker (c : Cursor) : readMarker.run c =
    if c.rest.take 2 = witnessMarker then (do let _ ← Wire.read 2; return true).run c
    else .ok (false, c) := by
  have hpeek : c.peek 2 = c.rest.take 2 := by
    simp only [Cursor.peek]
    rw [if_neg (by omega)]
    congr 1
    omega
  rw [← hpeek]
  change (if c.peek 2 = witnessMarker then _ else _ : Wire.Reader Bool).run c = _
  split
  · rfl
  · rfl

theorem reads_readMarker : Reads readMarker witnessMarker true := by
  intro offset rest
  rw [run_readMarker, if_pos (by rfl)]
  exact (Wire.reads_read witnessMarker).map offset rest

theorem run_readMarker_of_unmarked {c : Cursor} (h : c.rest.take 2 ≠ witnessMarker) :
    readMarker.run c = .ok (false, c) := by
  rw [run_readMarker, if_neg h]

theorem reads_readWitnesses {inputs done : List TxInput} {items : List Bytes}
    (h : inputs.mapM TxInput.serializeWitness = .ok items) :
    Reads (readWitnesses (inputs.map TxInput.bare) done) items.flatten
      (done.reverse ++ inputs) := by
  have hitems := mapM_eq_ok_iff.mp h
  clear h
  induction hitems generalizing done with
  | nil =>
      rw [List.append_nil]
      exact .pure done.reverse
  | @cons i raw inputs items hwitness _ ih =>
      refine (TxInput.reads_serializeWitness hwitness).bind ?_
      have hrest : Reads (readWitnesses (inputs.map TxInput.bare) (i :: done)) items.flatten
          ((i :: done).reverse ++ inputs) := ih
      rwa [List.reverse_cons, List.append_assoc] at hrest

theorem reads_readUnmarked {marked : Bool} {body lockTime : Bytes} {witnesses : List Bytes}
    (hids : ∀ i ∈ tx.inputs, i.prevout.txid.length = 32) (hbody : tx.serializeBody = .ok body)
    (hwitnesses : if marked then tx.inputs.mapM TxInput.serializeWitness = .ok witnesses
      else witnesses = [] ∧ ∀ i ∈ tx.inputs, i.witness = [])
    (hlockTime : Wire.unsigned 4 tx.lockTime = .ok lockTime) :
    Reads (readUnmarked tx.version marked) (body ++ (witnesses.flatten ++ lockTime)) tx := by
  obtain ⟨inputs, outputs, hinputs, houtputs, rfl⟩ := serializeBody_eq_ok_iff.mp hbody
  obtain ⟨hnonneg, -⟩ := Wire.unsigned_eq_ok_iff.mp hlockTime
  have hin := Wire.reads_readList (fun i hi _ h => TxInput.reads_serialize (hids i hi) h) hinputs
  have hout := Wire.reads_readList (f := id) (fun _ _ _ h => TxOutput.reads_serialize h) houtputs
  have hfull : Reads (if marked then readWitnesses (tx.inputs.map TxInput.bare) []
      else pure (tx.inputs.map TxInput.bare)) witnesses.flatten tx.inputs := by
    cases marked with
    | true => exact reads_readWitnesses hwitnesses
    | false =>
        obtain ⟨rfl, hempty⟩ := hwitnesses
        have hbare : tx.inputs.map TxInput.bare = tx.inputs := by
          refine (List.map_congr_left fun i hi => ?_).trans (List.map_id _)
          simp [TxInput.bare, ← hempty i hi]
        rw [hbare]
        exact .pure tx.inputs
  have hlast : Reads (Wire.readUnsigned 4 >>= fun lockTime =>
      pure (⟨tx.version, tx.inputs, tx.outputs, lockTime⟩ : Transaction)) lockTime
      ⟨tx.version, tx.inputs, tx.outputs, tx.lockTime.toNat⟩ :=
    (Wire.reads_readUnsigned hlockTime).map
  rw [Int.toNat_of_nonneg hnonneg] at hlast
  rw [List.map_id] at hout
  rw [List.append_assoc]
  exact hin.bind (hout.bind (hfull.bind hlast))

/-- No inputs and one output: without witnesses the counts of both are the witness marker. -/
def Ambiguous (tx : Transaction) : Prop :=
  tx.inputs = [] ∧ tx.outputs.length = 1

theorem take_serializeBody_ne_marker {body : Bytes} (hbody : tx.serializeBody = .ok body)
    (h : ¬ tx.Ambiguous) (rest : Bytes) : (body ++ rest).take 2 ≠ witnessMarker := by
  obtain ⟨_, _, hinputs, houtputs, rfl⟩ := serializeBody_eq_ok_iff.mp hbody
  obtain ⟨inputCount, inputs, hinputCount, hinputItems, rfl⟩ :=
    Wire.listBytes_eq_ok_iff.mp hinputs
  obtain ⟨outputCount, outputs, houtputCount, -, rfl⟩ := Wire.listBytes_eq_ok_iff.mp houtputs
  obtain ⟨first, moreInputs, rfl⟩ :=
    List.exists_cons_of_ne_nil (Wire.ne_nil_of_compactSize hinputCount)
  obtain ⟨second, moreOutputs, rfl⟩ :=
    List.exists_cons_of_ne_nil (Wire.ne_nil_of_compactSize houtputCount)
  intro hmarker
  simp only [List.cons_append, List.take_succ_cons, witnessMarker, List.cons.injEq] at hmarker
  obtain ⟨rfl, hmarker⟩ := hmarker
  have hnone : tx.inputs = [] :=
    List.eq_nil_of_length_eq_zero (Wire.eq_of_compactSize_cons (k := 0) (by decide) hinputCount)
  rw [hnone] at hinputCount hinputItems
  cases hinputCount
  cases hinputItems
  have hsecond : second = 1 := by simpa using hmarker
  subst hsecond
  exact h ⟨hnone, Wire.eq_of_compactSize_cons (k := 1) (by decide) houtputCount⟩

/-- In front of any bytes, the encoding of a transaction is read as this transaction. -/
theorem reads_serialize (hids : ∀ i ∈ tx.inputs, i.prevout.txid.length = 32)
    (hclear : ¬ tx.Ambiguous) (h : tx.serialize = .ok raw) : Reads Transaction.read raw tx := by
  rw [read_eq_bind]
  cases hwitness : tx.hasWitness with
  | true =>
      obtain ⟨version, body, witnesses, lockTime, hversion, hbody, hwitnesses, hlockTime, rfl⟩ :=
        (serialize_eq_ok_iff_of_witness hwitness).mp h
      have hrest : Reads (readUnmarked tx.version true)
          (body ++ (witnesses.flatten ++ lockTime)) tx :=
        reads_readUnmarked hids hbody hwitnesses hlockTime
      have hread : Reads (Wire.readSigned 4 >>= fun v => readMarker >>= readUnmarked v)
          (version ++ (witnessMarker ++ (body ++ (witnesses.flatten ++ lockTime)))) tx :=
        (Wire.reads_readSigned hversion).bind (reads_readMarker.bind hrest)
      simpa only [List.append_assoc] using hread
  | false =>
      rw [serialize_of_no_witness hwitness] at h
      obtain ⟨version, body, lockTime, hversion, hbody, hlockTime, rfl⟩ :=
        serializeStripped_eq_ok_iff.mp h
      have hrest : Reads (readUnmarked tx.version false) (body ++ ([].flatten ++ lockTime)) tx :=
        reads_readUnmarked hids hbody
          ⟨rfl, fun i => witness_eq_nil_of_no_witness hwitness⟩ hlockTime
      rw [List.flatten_nil, List.nil_append] at hrest
      -- the look at the marker takes nothing, so this is no reader of certain bytes
      have hunmarked : Reads (readMarker >>= readUnmarked tx.version) (body ++ lockTime) tx := by
        intro offset rest
        refine Wire.run_bind_eq_ok.mpr ⟨false, _, run_readMarker_of_unmarked ?_, hrest offset rest⟩
        rw [List.append_assoc]
        exact take_serializeBody_ne_marker hbody hclear _
      have hread : Reads (Wire.readSigned 4 >>= fun v => readMarker >>= readUnmarked v)
          (version ++ (body ++ lockTime)) tx :=
        (Wire.reads_readSigned hversion).bind hunmarked
      rwa [← List.append_assoc] at hread

theorem length_of_run_readWitnesses {inputs done filled : List TxInput} {c c' : Cursor}
    (h : (readWitnesses inputs done).run c = .ok (filled, c')) :
    filled.length = done.length + inputs.length := by
  induction inputs generalizing done c with
  | nil =>
      cases h
      exact List.length_reverse
  | cons i inputs ih =>
      obtain ⟨witness, c₁, -, hrest⟩ := Wire.run_bind_eq_ok.mp h
      rw [ih hrest, List.length_cons, List.length_cons]
      omega

/-- The counts of an ambiguous transaction are taken for the witness marker, and what is left is too
short to be the transaction. -/
theorem ofBytes_serialize_ne_of_ambiguous (hambiguous : tx.Ambiguous)
    (h : tx.serialize = .ok raw) : ofBytes raw ≠ .ok tx := by
  obtain ⟨hinputs, houtputs⟩ := hambiguous
  have hwitness : tx.hasWitness = false := by rw [hasWitness, hinputs, List.any_nil]
  rw [serialize_of_no_witness hwitness] at h
  obtain ⟨version, body, lockTime, hversion, hbody, hlockTime, rfl⟩ :=
    serializeStripped_eq_ok_iff.mp h
  obtain ⟨none, some, hnone, hsome, rfl⟩ := serializeBody_eq_ok_iff.mp hbody
  obtain ⟨one, items, hone, -, rfl⟩ := Wire.listBytes_eq_ok_iff.mp hsome
  rw [hinputs] at hnone
  rw [houtputs] at hone
  obtain rfl : [0] = none := Except.ok.inj hnone
  obtain rfl : [1] = one := Except.ok.inj hone
  intro hread
  obtain ⟨c, hrun⟩ := Wire.exists_run_of_readAll hread
  have hstart : version ++ ([0] ++ ([1] ++ items.flatten)) ++ lockTime =
      version ++ (witnessMarker ++ (items.flatten ++ lockTime)) := by
    simp [witnessMarker]
  rw [hstart, read_eq_bind, Cursor.start, (Wire.reads_readSigned hversion).run_bind,
    reads_readMarker.run_bind] at hrun
  obtain ⟨inputs, c₁, hin, hrun⟩ := Wire.run_bind_eq_ok.mp hrun
  obtain ⟨outputs, c₂, hout, hrun⟩ := Wire.run_bind_eq_ok.mp hrun
  obtain ⟨filled, c₃, hfull, hrun⟩ := Wire.run_bind_eq_ok.mp hrun
  obtain ⟨_, hlast, htx⟩ := Wire.run_map_eq_ok hrun
  obtain rfl : filled = [] := (congrArg Transaction.inputs htx).trans hinputs
  obtain rfl : outputs = tx.outputs := congrArg Transaction.outputs htx
  have hempty : inputs = [] := by
    have hlength := length_of_run_readWitnesses hfull
    exact List.eq_nil_of_length_eq_zero (by simpa using hlength.symm)
  subst hempty
  cases hfull
  -- the number of the inputs and that of the outputs have to be written once more
  have hfirst := Wire.thrifty_readList TxInput.thrifty_read hin hnone
  have hsecond := Wire.thrifty_readList TxOutput.thrifty_read hout hsome
  obtain ⟨hthird, -⟩ := Wire.run_readUnsigned_eq_ok hlast
  obtain ⟨-, -, rfl⟩ := Wire.unsigned_eq_ok_iff.mp hlockTime
  simp only [List.length_append, List.length_singleton, Bytes.length_ofNatLE] at hfirst hsecond
  omega

/-- The lengths of the lists and of the byte strings can be written. -/
@[mk_iff]
structure Sized (tx : Transaction) : Prop where
  inputs : tx.inputs.length < 2 ^ 64
  scriptSigs : ∀ i ∈ tx.inputs, i.scriptSig.length < 2 ^ 64
  witnesses : ∀ i ∈ tx.inputs, i.WitnessFits
  outputs : tx.outputs.length < 2 ^ 64
  scriptPubkeys : ∀ o ∈ tx.outputs, o.scriptPubkey.length < 2 ^ 64

instance (tx : Transaction) : Decidable tx.Sized :=
  decidable_of_iff _ tx.sized_iff.symm

/-- A transaction with identifiers and lengths as they should be has an encoding exactly when its
numbers fit their fields. The encoding is read back as the transaction, except when there are no
inputs and exactly one output. -/
theorem ofBytes_serialize_iff (tx : Transaction)
    (hids : ∀ i ∈ tx.inputs, i.prevout.txid.length = 32) (hsized : tx.Sized) :
    (Succeeds tx.serialize ↔
      (-2 ^ 31 ≤ tx.version ∧ tx.version < 2 ^ 31) ∧
      (∀ i ∈ tx.inputs, (0 ≤ i.prevout.vout ∧ i.prevout.vout < 2 ^ 32) ∧
        0 ≤ i.sequence ∧ i.sequence < 2 ^ 32) ∧
      (∀ o ∈ tx.outputs, 0 ≤ o.value ∧ o.value < 2 ^ 64) ∧
      0 ≤ tx.lockTime ∧ tx.lockTime < 2 ^ 32) ∧
    ∀ raw, tx.serialize = .ok raw →
      (ofBytes raw = .ok tx ↔ ¬ (tx.inputs = [] ∧ tx.outputs.length = 1)) := by
  constructor
  · rw [succeeds_serialize_iff]
    constructor
    · rintro ⟨hfits, -⟩
      refine ⟨hfits.version, ?_, ?_, hfits.lockTime⟩
      · intro i hi
        exact ⟨(hfits.inputs i hi).vout, (hfits.inputs i hi).sequence⟩
      · intro o ho
        exact (hfits.outputs o ho).value
    · rintro ⟨hversion, hinputs, houtputs, hlockTime⟩
      refine ⟨⟨hversion, hsized.inputs, ?_, hsized.outputs, ?_, hlockTime⟩, hsized.witnesses⟩
      · intro i hi
        exact ⟨(hinputs i hi).1, hsized.scriptSigs i hi, (hinputs i hi).2⟩
      · intro o ho
        exact ⟨houtputs o ho, hsized.scriptPubkeys o ho⟩
  · intro raw hraw
    constructor
    · intro hread hambiguous
      exact ofBytes_serialize_ne_of_ambiguous hambiguous hraw hread
    · intro hclear
      exact (reads_serialize hids hclear hraw).readAll_eq_ok

theorem ofBytes_serialize_iff_mixed :
    let mixed : Transaction := {
      version := -1
      inputs := [
        { prevout := ⟨List.replicate 32 7, 1⟩, scriptSig := [], witness := [[], [9]] },
        { prevout := ⟨List.replicate 32 8, 0⟩, scriptSig := [0x51], sequence := 0 }]
      outputs := [⟨10000, [0x6a]⟩] }
    let lone : Transaction := { version := 2, inputs := [], outputs := [⟨1, []⟩] }
    ((∀ i ∈ mixed.inputs, i.prevout.txid.length = 32) ∧ mixed.Sized ∧
      ∃ raw, mixed.serialize = .ok raw ∧ ofBytes raw = .ok mixed) ∧
    (∀ i ∈ lone.inputs, i.prevout.txid.length = 32) ∧ lone.Sized ∧
      ∃ raw, lone.serialize = .ok raw ∧ ofBytes raw ≠ .ok lone := by
  intro mixed lone
  have hids : ∀ i ∈ mixed.inputs, i.prevout.txid.length = 32 := by decide +kernel
  have hids' : ∀ i ∈ lone.inputs, i.prevout.txid.length = 32 := by decide +kernel
  have hsized : mixed.Sized := by decide +kernel
  have hsized' : lone.Sized := by decide +kernel
  obtain ⟨hencoded, hread⟩ := ofBytes_serialize_iff mixed hids hsized
  obtain ⟨hencoded', hread'⟩ := ofBytes_serialize_iff lone hids' hsized'
  obtain ⟨raw, hraw⟩ := hencoded.mpr (by decide +kernel)
  obtain ⟨raw', hraw'⟩ := hencoded'.mpr (by decide +kernel)
  refine ⟨⟨hids, hsized, raw, hraw, (hread raw hraw).mpr (by simp [mixed])⟩, hids', hsized', raw',
    hraw', fun h => ?_⟩
  exact (hread' raw' hraw').mp h ⟨rfl, rfl⟩

end Transaction

end BlobInscription
