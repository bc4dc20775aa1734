import BlobInscription.Proofs.Wire.Ranges
import BlobInscription.Proofs.Wire.Record

namespace BlobInscription

open Wire (Takes Reader Cursor Recorder)

theorem OutPoint.takes_read : Takes 36 OutPoint.read :=
  (Wire.takes_read 32).bind fun _ => (Wire.takes_readUnsigned 4).map

namespace TxInput

theorem takes_read : Takes 41 TxInput.read :=
  OutPoint.takes_read.bind fun _ =>
    Wire.takes_readVarBytes.bind fun _ => (Wire.takes_readUnsigned 4).map

/-- Reads an input without its witness, with a record. -/
def record : Recorder TxInput := do
  let prevout ← Recorder.ofReader OutPoint.read
  let scriptSig ← Recorder.varBytes
  let sequence ← Recorder.ofReader (Wire.readUnsigned 4)
  return { prevout, scriptSig, sequence }

theorem records_read : record.Records TxInput.read :=
  (Recorder.records_ofReader _).bind fun _ =>
    Recorder.records_varBytes.bind fun _ =>
      (Recorder.records_ofReader _).bind fun _ => Recorder.records_pure _

theorem meters_record : record.Meters 41 :=
  (Recorder.meters_ofReader OutPoint.takes_read.length_le).bind fun _ =>
    Recorder.meters_varBytes.bind fun _ =>
      (Recorder.meters_readUnsigned 4).bind fun _ => Recorder.meters_pure _

theorem counts_record : record.Counts fun _ => 0 := by
  intro c c' i entries hrun
  obtain ⟨prevout, c₁, first, _, hprevout, htail, rfl⟩ := Recorder.bind_eq_ok.mp hrun
  obtain ⟨script, c₂, second, _, hscript, hlast, rfl⟩ := Recorder.bind_eq_ok.mp htail
  obtain ⟨sequence, c₃, third, _, hsequence, hpure, rfl⟩ := Recorder.bind_eq_ok.mp hlast
  cases hpure
  simp only [List.count_append, List.count_nil, Recorder.counts_ofReader _ hprevout,
    Recorder.counts_varBytes hscript, Recorder.counts_ofReader _ hsequence]

theorem steady_record : record.Steady :=
  (Recorder.steady_ofReader OutPoint.takes_read).bind fun _ =>
    Recorder.steady_varBytes.bind fun _ =>
      (Recorder.steady_ofReader (Wire.takes_readUnsigned 4)).bind fun _ => Recorder.steady_pure _

theorem yields_read_bare : Wire.Yields TxInput.read fun i => i.witness = [] := by
  intro c c' i hrun
  obtain ⟨prevout, c₁, -, hrest⟩ := Wire.run_bind_eq_ok.mp hrun
  obtain ⟨scriptSig, c₂, -, hrest⟩ := Wire.run_bind_eq_ok.mp hrest
  obtain ⟨sequence, -, rfl⟩ := Wire.run_map_eq_ok hrest
  rfl

end TxInput

namespace TxOutput

theorem takes_read : Takes 9 TxOutput.read :=
  (Wire.takes_readUnsigned 8).bind fun _ => Wire.takes_readVarBytes.map

/-- Reads an output, with a record. -/
def record : Recorder TxOutput := do
  let value ← Recorder.ofReader (Wire.readUnsigned 8)
  let scriptPubkey ← Recorder.varBytes
  return { value, scriptPubkey }

theorem records_read : record.Records TxOutput.read :=
  (Recorder.records_ofReader _).bind fun _ =>
    Recorder.records_varBytes.bind fun _ => Recorder.records_pure _

theorem meters_record : record.Meters 9 :=
  (Recorder.meters_readUnsigned 8).bind fun _ =>
    Recorder.meters_varBytes.bind fun _ => Recorder.meters_pure _

theorem counts_record : record.Counts fun _ => 0 := by
  intro c c' o entries hrun
  obtain ⟨value, c₁, first, _, hvalue, hlast, rfl⟩ := Recorder.bind_eq_ok.mp hrun
  obtain ⟨script, c₂, second, _, hscript, hpure, rfl⟩ := Recorder.bind_eq_ok.mp hlast
  cases hpure
  simp only [List.count_append, List.count_nil, Recorder.counts_ofReader _ hvalue,
    Recorder.counts_varBytes hscript]

theorem steady_record : record.Steady :=
  (Recorder.steady_ofReader (Wire.takes_readUnsigned 8)).bind fun _ =>
    Recorder.steady_varBytes.bind fun _ => Recorder.steady_pure _

end TxOutput

namespace Transaction

section Marker

variable {α : Type} {next : Bool → Reader α} {c : Cursor}

theorem run_readMarker_bind_of_marked (h : c.rest.take 2 = witnessMarker) :
    (readMarker >>= next).run c = (next true).run ⟨c.offset + 2, c.rest.drop 2⟩ := by
  have hsplit : c = ⟨c.offset, witnessMarker ++ c.rest.drop 2⟩ := by
    rw [← h, List.take_append_drop]
  rw [hsplit, reads_readMarker.run_bind]
  rfl

theorem run_readMarker_bind_of_unmarked (h : c.rest.take 2 ≠ witnessMarker) :
    (readMarker >>= next).run c = (next false).run c := by
  rw [StateT.run_bind, run_readMarker_of_unmarked h]
  rfl

theorem stop_of_marked (h : c.rest.take 2 = witnessMarker) :
    Cursor.stop ⟨c.offset + 2, c.rest.drop 2⟩ = c.stop := by
  have hlong := congrArg List.length h
  rw [List.length_take] at hlong
  rw [Cursor.stop, Cursor.stop, List.length_drop]
  change min 2 c.rest.length = 2 at hlong
  dsimp only
  omega

theorem takes_readMarker_bind {least : Nat} (hleast : 2 ≤ least)
    (hnext : ∀ marked, Takes least (next marked)) : Takes least (readMarker >>= next) where
  taken {c c' a} hrun := by
    by_cases hmarker : c.rest.take 2 = witnessMarker
    · rw [run_readMarker_bind_of_marked hmarker] at hrun
      obtain ⟨raw, rest, hlong, hrest, rfl, hreads⟩ := (hnext true).taken hrun
      refine ⟨witnessMarker ++ raw, rest, ?_, ?_, ?_, reads_readMarker.bind hreads⟩
      · rw [List.length_append]
        omega
      · rw [List.append_assoc, ← hrest, ← hmarker, List.take_append_drop]
      · rw [List.length_append, ← Nat.add_assoc]
        rfl
    · rw [run_readMarker_bind_of_unmarked hmarker] at hrun
      obtain ⟨raw, rest, hlong, hrest, hend, hreads⟩ := (hnext false).taken hrun
      refine ⟨raw, rest, hlong, hrest, hend, ?_⟩
      intro offset behind
      -- the two bytes that were looked at are among those that were taken
      have hfront : (raw ++ behind).take 2 = c.rest.take 2 := by
        rw [hrest, List.take_append_of_le_length (hleast.trans hlong),
          List.take_append_of_le_length (hleast.trans hlong)]
      rw [run_readMarker_bind_of_unmarked (hfront ▸ hmarker)]
      exact hreads offset behind
  lacking {c e} hrun := by
    by_cases hmarker : c.rest.take 2 = witnessMarker
    · rw [run_readMarker_bind_of_marked hmarker] at hrun
      obtain ⟨wanted, offset, rfl, hoffset, hwanted⟩ := (hnext true).lacking hrun
      rw [stop_of_marked hmarker] at hoffset hwanted
      exact ⟨wanted, offset, rfl, hoffset, hwanted⟩
    · rw [run_readMarker_bind_of_unmarked hmarker] at hrun
      exact (hnext false).lacking hrun

end Marker

section Extent

theorem takes_readWitnesses (inputs done : List TxInput) :
    Takes 0 (readWitnesses inputs done) := by
  induction inputs generalizing done with
  | nil => exact Wire.takes_pure done.reverse
  | cons i inputs ih =>
      have hall : Takes (1 + 0) (readWitnesses (i :: inputs) done) :=
        (Wire.takes_readList Wire.takes_readVarBytes).bind fun _ => ih _
      exact hall.mono (Nat.zero_le _)

theorem takes_readUnmarked (version : Int) (marked : Bool) :
    Takes 6 (readUnmarked version marked) := by
  show Takes (1 + (1 + (0 + 4))) (readUnmarked version marked)
  apply (Wire.takes_readList TxInput.takes_read).bind
  intro inputs
  apply (Wire.takes_readList TxOutput.takes_read).bind
  intro outputs
  have hfilled : Takes 0 (if marked then readWitnesses inputs [] else pure inputs) := by
    split
    · exact takes_readWitnesses inputs []
    · exact Wire.takes_pure inputs
  exact hfilled.bind fun _ => (Wire.takes_readUnsigned 4).map

theorem takes_read : Takes 10 Transaction.read := by
  rw [read_eq_bind]
  show Takes (4 + 6) _
  apply (Wire.takes_readSigned 4).bind
  intro version
  exact takes_readMarker_bind (by decide) (takes_readUnmarked version)

end Extent

section Record

/-- Reads the witness of each input in turn, with a record. -/
def recordWitnesses : List TxInput → (done : List TxInput) → Recorder (List TxInput)
  | [], done => pure done.reverse
  | i :: rest, done => do
      let witness ← Recorder.varBytes.list
      recordWitnesses rest ({ i with witness } :: done)

/-- Fills in the witnesses, when there are any to come. -/
def recordFilled (marked : Bool) (inputs : List TxInput) : Recorder (List TxInput) :=
  if marked then recordWitnesses inputs [] else pure inputs

/-- Reads what stands behind the witness marker, or behind the version when there is none, with a
record. -/
def recordUnmarked (version : Int) (marked : Bool) : Recorder Transaction := do
  let inputs ← TxInput.record.list
  let outputs ← TxOutput.record.list
  let inputs ← recordFilled marked inputs
  let lockTime ← Recorder.ofReader (Wire.readUnsigned 4)
  return { version, inputs, outputs, lockTime }

/-- Reads a transaction, with a record. -/
def record : Recorder Transaction := do
  let version ← Recorder.ofReader (Wire.readSigned 4)
  let marked ← Recorder.ofReader readMarker
  recordUnmarked version marked

/-- The transaction that takes up all the bytes, with the record of its reading. -/
def recorded (raw : Bytes) : Except Wire.ReadError Transaction × List Wire.Entry :=
  record.all "transaction" raw

/-- The number of inputs, outputs and items of witnesses. -/
def elements (tx : Transaction) : Nat :=
  tx.inputs.length + tx.outputs.length + (tx.inputs.map fun i => i.witness.length).sum

theorem records_readWitnesses (inputs done : List TxInput) :
    (recordWitnesses inputs done).Records (readWitnesses inputs done) := by
  induction inputs generalizing done with
  | nil => exact Recorder.records_pure done.reverse
  | cons i inputs ih => exact Recorder.records_varBytes.list.bind fun _ => ih _

theorem records_readUnmarked (version : Int) (marked : Bool) :
    (recordUnmarked version marked).Records (readUnmarked version marked) := by
  apply TxInput.records_read.list.bind
  intro inputs
  apply TxOutput.records_read.list.bind
  intro outputs
  refine Recorder.Records.bind ?_ fun _ =>
    (Recorder.records_ofReader _).bind fun _ => Recorder.records_pure _
  cases marked with
  | true => exact records_readWitnesses inputs []
  | false => exact Recorder.records_pure inputs

theorem records_read : record.Records Transaction.read := by
  rw [read_eq_bind]
  exact (Recorder.records_ofReader _).bind fun version =>
    (Recorder.records_ofReader _).bind fun marked => records_readUnmarked version marked

theorem meters_recordWitnesses (inputs done : List TxInput) :
    (recordWitnesses inputs done).Meters 0 := by
  induction inputs generalizing done with
  | nil => exact Recorder.meters_pure done.reverse
  | cons i inputs ih =>
      have hall : (recordWitnesses (i :: inputs) done).Meters (1 + 0) :=
        Recorder.meters_varBytes.list.bind fun _ => ih _
      exact hall.mono (Nat.zero_le _)

theorem meters_recordTail (version : Int) (marked : Bool) (inputs : List TxInput) :
    Recorder.Meters 5 (do
      let outputs ← TxOutput.record.list
      let inputs ← recordFilled marked inputs
      let lockTime ← Recorder.ofReader (Wire.readUnsigned 4)
      return ({ version, inputs, outputs, lockTime } : Transaction)) := by
  show Recorder.Meters (1 + (0 + (4 + 0))) _
  apply (TxOutput.meters_record.mono (by decide)).list.bind
  intro outputs
  refine Recorder.Meters.bind ?_ fun _ =>
    (Recorder.meters_readUnsigned 4).bind fun _ => Recorder.meters_pure _
  cases marked with
  | true => exact meters_recordWitnesses inputs []
  | false => exact Recorder.meters_pure inputs

theorem meters_recordUnmarked (version : Int) (marked : Bool) :
    (recordUnmarked version marked).Meters 6 := by
  show (recordUnmarked version marked).Meters (1 + 5)
  exact (TxInput.meters_record.mono (by decide)).list.bind (meters_recordTail version marked)

theorem length_le_of_run_readMarker {c c' : Cursor} {marked : Bool}
    (h : readMarker.run c = .ok (marked, c')) : 0 + c'.rest.length ≤ c.rest.length := by
  rw [run_readMarker] at h
  split at h
  · obtain ⟨_, hread, -⟩ := Wire.run_map_eq_ok h
    have hlength := (Wire.takes_read 2).length_le hread
    omega
  · cases h
    exact Nat.le_of_eq (Nat.zero_add _)

theorem meters_record : record.Meters 10 := by
  show record.Meters (4 + (0 + 6))
  apply (Recorder.meters_ofReader (Wire.takes_readSigned 4).length_le).bind
  intro version
  apply (Recorder.meters_ofReader length_le_of_run_readMarker).bind
  intro marked
  exact meters_recordUnmarked version marked

theorem counts_recordWitnesses {inputs done filled : List TxInput} {c c' : Cursor}
    {entries : List Wire.Entry} (h : recordWitnesses inputs done c = (.ok (filled, c'), entries)) :
    entries.count .element + (done.map fun i => i.witness.length).sum =
      (filled.map fun i => i.witness.length).sum := by
  induction inputs generalizing done c entries with
  | nil =>
      cases h
      simp [List.sum_reverse]
  | cons i inputs ih =>
      obtain ⟨witness, c₁, first, later, hwitness, hrest, rfl⟩ := Recorder.bind_eq_ok.mp h
      have hitems := Recorder.counts_varBytes.list_plain hwitness
      have hmore := ih hrest
      rw [List.map_cons, List.sum_cons] at hmore
      rw [List.count_append, hitems]
      dsimp only at hmore
      omega

theorem counts_recordFilled {marked : Bool} {inputs filled : List TxInput} {c c' : Cursor}
    {entries : List Wire.Entry} (hbare : ∀ i ∈ inputs, i.witness = [])
    (h : recordFilled marked inputs c = (.ok (filled, c'), entries)) :
    filled.length = inputs.length ∧
      entries.count .element = (filled.map fun i => i.witness.length).sum := by
  cases marked with
  | true =>
      have hrun := records_readWitnesses inputs [] c
      change recordWitnesses inputs [] c = _ at h
      rw [h] at hrun
      have hlength := length_of_run_readWitnesses hrun.symm
      have hcount := counts_recordWitnesses h
      rw [List.length_nil, Nat.zero_add] at hlength
      rw [List.map_nil, List.sum_nil, Nat.add_zero] at hcount
      exact ⟨hlength, hcount⟩
  | false =>
      cases h
      refine ⟨rfl, (List.sum_eq_zero_iff_forall_eq_nat.mpr ?_).symm⟩
      intro n hn
      obtain ⟨i, hi, rfl⟩ := List.mem_map.mp hn
      rw [hbare i hi, List.length_nil]

theorem counts_recordUnmarked (version : Int) (marked : Bool) :
    (recordUnmarked version marked).Counts elements := by
  intro c c' tx entries hrun
  obtain ⟨inputs, c₁, first, _, hinputs, htail, rfl⟩ := Recorder.bind_eq_ok.mp hrun
  obtain ⟨outputs, c₂, second, _, houtputs, htail', rfl⟩ := Recorder.bind_eq_ok.mp htail
  obtain ⟨filled, c₃, third, _, hfilled, htail'', rfl⟩ := Recorder.bind_eq_ok.mp htail'
  obtain ⟨lockTime, c₄, fourth, _, hlockTime, hpure, rfl⟩ := Recorder.bind_eq_ok.mp htail''
  cases hpure
  have hin := TxInput.counts_record.list_plain hinputs
  have hout := TxOutput.counts_record.list_plain houtputs
  have hlast := Recorder.counts_ofReader _ hlockTime
  have hrun := TxInput.records_read.list c
  rw [hinputs] at hrun
  have hbare := (Wire.yields_readList TxInput.yields_read_bare hrun.symm).2
  obtain ⟨hlength, hitems⟩ := counts_recordFilled hbare hfilled
  simp only [List.count_append, List.count_nil, hin, hout, hlast, hitems, elements, hlength]
  omega

theorem counts_record : record.Counts elements := by
  intro c c' tx entries hrun
  obtain ⟨version, c₁, first, _, hversion, htail, rfl⟩ := Recorder.bind_eq_ok.mp hrun
  obtain ⟨marked, c₂, second, _, hmarked, hrest, rfl⟩ := Recorder.bind_eq_ok.mp htail
  simp only [List.count_append, Recorder.counts_ofReader _ hversion,
    Recorder.counts_ofReader _ hmarked, counts_recordUnmarked version marked hrest, Nat.zero_add]

theorem steady_recordWitnesses (inputs done : List TxInput) :
    (recordWitnesses inputs done).Steady := by
  induction inputs generalizing done with
  | nil => exact Recorder.steady_pure done.reverse
  | cons i inputs ih => exact Recorder.steady_varBytes.list.bind fun _ => ih _

theorem steady_recordUnmarked (version : Int) (marked : Bool) :
    (recordUnmarked version marked).Steady := by
  apply TxInput.steady_record.list.bind
  intro inputs
  apply TxOutput.steady_record.list.bind
  intro outputs
  refine Recorder.Steady.bind ?_ fun _ =>
    (Recorder.steady_ofReader (Wire.takes_readUnsigned 4)).bind fun _ => Recorder.steady_pure _
  cases marked with
  | true => exact steady_recordWitnesses inputs []
  | false => exact Recorder.steady_pure inputs

theorem recordMarker_of_unmarked {c : Cursor} (h : c.rest.take 2 ≠ witnessMarker) :
    Recorder.ofReader readMarker c = (.ok (false, c), []) := by
  rw [Recorder.ofReader, run_readMarker_of_unmarked h]

/-- Of two bytes and more the marker tells the same whatever lies behind. -/
theorem exists_recordMarker {c : Cursor} (hlong : 2 ≤ c.rest.length) :
    ∃ (marked : Bool) (c' : Cursor), ∀ behind,
      Recorder.ofReader readMarker (c.extend behind) = (.ok (marked, c'.extend behind), []) := by
  have hfront : ∀ behind, (c.extend behind).rest.take 2 = c.rest.take 2 :=
    fun behind => List.take_append_of_le_length hlong
  by_cases hmarker : c.rest.take 2 = witnessMarker
  · refine ⟨true, ⟨c.offset + 2, c.rest.drop 2⟩, ?_⟩
    intro behind
    have hsplit : c.extend behind = ⟨c.offset, witnessMarker ++ (c.rest.drop 2 ++ behind)⟩ := by
      rw [← hmarker, ← List.append_assoc, List.take_append_drop]
      rfl
    rw [Recorder.ofReader, hsplit, reads_readMarker]
    rfl
  · refine ⟨false, c, ?_⟩
    intro behind
    exact recordMarker_of_unmarked (by rwa [hfront])

/-- Less than two bytes have no marker, but no element either. -/
theorem steady_readMarker_bind (version : Int) :
    (Recorder.ofReader readMarker >>= recordUnmarked version).Steady where
  taken {c c' tx entries} behind hrun := by
    obtain ⟨marked, c₁, first, later, hfirst, hlater, rfl⟩ := Recorder.bind_eq_ok.mp hrun
    have hlong : 2 ≤ c.rest.length := by
      have hmarker := (Recorder.meters_ofReader length_le_of_run_readMarker).taken hfirst
      have htaken := (meters_recordUnmarked version marked).taken hlater
      omega
    obtain ⟨marked', c₂, hmarker⟩ := exists_recordMarker hlong
    have hstart := hmarker []
    rw [Cursor.extend_nil, Cursor.extend_nil, hfirst] at hstart
    cases hstart
    exact Recorder.bind_eq_ok.mpr ⟨marked, c₁.extend behind, [], later, hmarker behind,
      (steady_recordUnmarked version marked).taken behind hlater, rfl⟩
  grows c behind := by
    rcases Nat.lt_or_ge c.rest.length 2 with hshort | hlong
    · have hunmarked : c.rest.take 2 ≠ witnessMarker := by
        intro hmarker
        have hlength := congrArg List.length hmarker
        rw [List.length_take] at hlength
        change min 2 c.rest.length = 2 at hlength
        omega
      have hnone : (recordUnmarked version false c).2.count .element = 0 :=
        (TxInput.meters_record.mono (by decide)).count_list_bind_of_short
          (fun inputs => (meters_recordTail version false inputs).mono (Nat.zero_le _))
          (Nat.le_of_lt_succ hshort)
      rw [Recorder.bind_apply, recordMarker_of_unmarked hunmarked]
      dsimp only [List.nil_append]
      rw [hnone]
      exact Nat.zero_le _
    · obtain ⟨marked, c', hmarker⟩ := exists_recordMarker hlong
      have hstart := hmarker []
      rw [Cursor.extend_nil, Cursor.extend_nil] at hstart
      rw [Recorder.bind_apply, Recorder.bind_apply, hstart, hmarker behind]
      exact (steady_recordUnmarked version marked).grows c' behind

theorem steady_record : record.Steady :=
  (Recorder.steady_ofReader (Wire.takes_readSigned 4)).bind steady_readMarker_bind

end Record

end Transaction

end BlobInscription
