import BlobInscription.Proofs.Transaction.Extent
import BlobInscription.Proofs.Wire.Spelling

/-!
Which of the strings that are read as a transaction is the one that is written for it. The reader
takes longer forms of compact sizes, and a witness marker in front of inputs without witnesses; the
string that is written is the shortest of all.
-/

namespace BlobInscription

open Traversal
open Wire (Recorder Cursor Condenses Entry listBytes)

variable {c c' : Cursor} {entries : List Entry}

theorem OutPoint.exists_of_run_read {p : OutPoint} (h : OutPoint.read.run c = .ok (p, c')) :
    ∃ raw, c.rest = raw ++ c'.rest ∧ p.serialize = .ok raw := by
  obtain ⟨txid, c₁, htxid, hvout⟩ := Wire.run_bind_eq_ok.mp h
  obtain ⟨vout, hread, rfl⟩ := Wire.run_map_eq_ok hvout
  obtain ⟨hrest, -⟩ := Wire.run_read_eq_ok htxid
  obtain ⟨raw, hmore, hraw⟩ := Wire.exists_of_run_readUnsigned hread
  refine ⟨txid ++ raw, ?_, map_eq_ok.mpr ⟨raw, hraw, rfl⟩⟩
  rw [hrest, hmore, List.append_assoc]

theorem TxInput.yields_read_id : Wire.Yields TxInput.read fun i => i.prevout.txid.length = 32 := by
  intro c c' i hrun
  obtain ⟨prevout, c₁, hprevout, hrest⟩ := Wire.run_bind_eq_ok.mp hrun
  obtain ⟨scriptSig, c₂, -, hrest⟩ := Wire.run_bind_eq_ok.mp hrest
  obtain ⟨sequence, -, rfl⟩ := Wire.run_map_eq_ok hrest
  obtain ⟨txid, c₃, htxid, hvout⟩ := Wire.run_bind_eq_ok.mp hprevout
  obtain ⟨vout, -, rfl⟩ := Wire.run_map_eq_ok hvout
  exact (Wire.run_read_eq_ok htxid).2

theorem TxInput.writes_record : record.Writes TxInput.serialize := by
  intro c c' i entries hrun
  obtain ⟨prevout, c₁, first, _, hprevout, htail, rfl⟩ := Recorder.bind_eq_ok.mp hrun
  obtain ⟨script, c₂, second, _, hscript, hlast, rfl⟩ := Recorder.bind_eq_ok.mp htail
  obtain ⟨sequence, c₃, third, _, hsequence, hpure, rfl⟩ := Recorder.bind_eq_ok.mp hlast
  cases hpure
  obtain ⟨hpoint, rfl⟩ := Prod.mk.inj hprevout
  obtain ⟨hfield, rfl⟩ := Prod.mk.inj hsequence
  obtain ⟨point, hrest, hpoint⟩ := OutPoint.exists_of_run_read hpoint
  obtain ⟨raw, own, hrest', hown, hcondenses⟩ := Recorder.writes_varBytes hscript
  obtain ⟨field, hrest'', hfield⟩ := Wire.exists_of_run_readUnsigned hfield
  refine ⟨point ++ raw ++ field, point ++ own ++ field, ?_, ?_, ?_⟩
  · rw [hrest, hrest', hrest'']
    simp only [List.append_assoc]
  · exact serialize_eq_ok_iff.mpr ⟨point, own, field, hpoint, hown, hfield, rfl⟩
  · have hall := ((Wire.condenses_refl point).append hcondenses).append (Wire.condenses_refl field)
    simpa using hall

theorem TxOutput.writes_record : record.Writes TxOutput.serialize := by
  intro c c' o entries hrun
  obtain ⟨value, c₁, first, _, hvalue, hlast, rfl⟩ := Recorder.bind_eq_ok.mp hrun
  obtain ⟨script, c₂, second, _, hscript, hpure, rfl⟩ := Recorder.bind_eq_ok.mp hlast
  cases hpure
  obtain ⟨hfield, rfl⟩ := Prod.mk.inj hvalue
  obtain ⟨field, hrest, hfield⟩ := Wire.exists_of_run_readUnsigned hfield
  obtain ⟨raw, own, hrest', hown, hcondenses⟩ := Recorder.writes_varBytes hscript
  refine ⟨field ++ raw, field ++ own, ?_, ?_, ?_⟩
  · rw [hrest, hrest', List.append_assoc]
  · exact serialize_eq_ok_iff.mpr ⟨field, own, hfield, hown, rfl⟩
  · have hall := (Wire.condenses_refl field).append hcondenses
    simpa using hall

namespace Transaction

theorem writes_recordWitnesses {inputs done filled : List TxInput}
    (h : recordWitnesses inputs done c = (.ok (filled, c'), entries)) :
    ∃ more raw items, filled = done.reverse ++ more ∧
      more.map TxInput.bare = inputs.map TxInput.bare ∧ c.rest = raw ++ c'.rest ∧
      more.mapM TxInput.serializeWitness = .ok items ∧ Condenses entries raw items.flatten := by
  induction inputs generalizing done c entries with
  | nil =>
      cases h
      exact ⟨[], [], [], (List.append_nil _).symm, rfl, rfl, rfl, Wire.condenses_refl []⟩
  | cons i inputs ih =>
      obtain ⟨witness, c₁, first, later, hwitness, hlater, rfl⟩ := Recorder.bind_eq_ok.mp h
      obtain ⟨raw, own, hrest, hown, hcondenses⟩ := Recorder.writes_varBytes.list hwitness
      obtain ⟨more, raw', items, rfl, hbare, hrest', hitems, hcondenses'⟩ := ih hlater
      refine ⟨{ i with witness } :: more, raw ++ raw', own :: items, by simp, ?_, ?_, ?_, ?_⟩
      · rw [List.map_cons, List.map_cons, hbare]
        rfl
      · rw [hrest, hrest', List.append_assoc]
      · exact mapM_eq_ok_iff.mpr (.cons hown (mapM_eq_ok_iff.mp hitems))
      · rw [List.flatten_cons]
        exact hcondenses.append hcondenses'

theorem listBytes_serialize_congr {inputs filled : List TxInput}
    (h : filled.map TxInput.bare = inputs.map TxInput.bare) :
    listBytes TxInput.serialize filled = listBytes TxInput.serialize inputs := by
  have hbare : ∀ l : List TxInput, listBytes TxInput.serialize (l.map TxInput.bare) =
      listBytes TxInput.serialize l := by
    intro l
    rw [listBytes, listBytes, List.mapM_map, List.length_map]
    rfl
  rw [← hbare filled, h, hbare inputs]

theorem writes_recordFilled {marked : Bool} {inputs filled : List TxInput}
    (hinputs : ∀ i ∈ inputs, i.witness = [])
    (h : recordFilled marked inputs c = (.ok (filled, c'), entries)) :
    filled.map TxInput.bare = inputs.map TxInput.bare ∧
      ∃ raw own, c.rest = raw ++ c'.rest ∧ Condenses entries raw own ∧
        if marked then ∃ items, filled.mapM TxInput.serializeWitness = .ok items ∧
            items.flatten = own
          else raw = [] ∧ ∀ i ∈ filled, i.witness = [] := by
  cases marked with
  | true =>
      obtain ⟨more, raw, items, rfl, hbare, hrest, hitems, hcondenses⟩ := writes_recordWitnesses h
      exact ⟨hbare, raw, items.flatten, hrest, hcondenses, items, hitems, rfl⟩
  | false =>
      cases h
      exact ⟨rfl, [], [], rfl, Wire.condenses_refl [], rfl, hinputs⟩

theorem exists_of_run_recordUnmarked {version : Int} {marked : Bool} {tx : Transaction}
    (h : recordUnmarked version marked c = (.ok (tx, c'), entries)) :
    tx.version = version ∧ (∀ i ∈ tx.inputs, i.prevout.txid.length = 32) ∧
      ∃ first later raw body raw' own lockTime,
      entries = first ++ later ∧ c.rest = raw ++ raw' ++ lockTime ++ c'.rest ∧
      tx.serializeBody = .ok body ∧ Condenses first raw body ∧ Condenses later raw' own ∧
      Wire.unsigned 4 tx.lockTime = .ok lockTime ∧
      if marked then ∃ items, tx.inputs.mapM TxInput.serializeWitness = .ok items ∧
          items.flatten = own
        else raw' = [] ∧ ∀ i ∈ tx.inputs, i.witness = [] := by
  obtain ⟨inputs, c₁, first, _, hinputs, htail, rfl⟩ := Recorder.bind_eq_ok.mp h
  obtain ⟨outputs, c₂, second, _, houtputs, htail', rfl⟩ := Recorder.bind_eq_ok.mp htail
  obtain ⟨filled, c₃, third, _, hfilled, htail'', rfl⟩ := Recorder.bind_eq_ok.mp htail'
  obtain ⟨lockTime, c₄, fourth, _, hlockTime, hpure, rfl⟩ := Recorder.bind_eq_ok.mp htail''
  cases hpure
  obtain ⟨hfield, rfl⟩ := Prod.mk.inj hlockTime
  obtain ⟨raw, own, hrest, hown, hcondenses⟩ := TxInput.writes_record.list hinputs
  obtain ⟨raw', own', hrest', hown', hcondenses'⟩ := TxOutput.writes_record.list houtputs
  have hrun := TxInput.records_read.list c
  rw [hinputs] at hrun
  have hempty := (Wire.yields_readList TxInput.yields_read_bare hrun.symm).2
  have hids := (Wire.yields_readList TxInput.yields_read_id hrun.symm).2
  obtain ⟨hbare, raw'', own'', hrest'', hcondenses'', hwitnesses⟩ :=
    writes_recordFilled hempty hfilled
  obtain ⟨field, hlast, hfield⟩ := Wire.exists_of_run_readUnsigned hfield
  refine ⟨rfl, ?_, first ++ second, third, raw ++ raw', own ++ own', raw'', own'', field, ?_, ?_,
    ?_, hcondenses.append hcondenses', hcondenses'', hfield, hwitnesses⟩
  · intro i hi
    have hmem : i.bare ∈ inputs.map TxInput.bare := hbare ▸ List.mem_map_of_mem hi
    obtain ⟨j, hj, hsame⟩ := List.mem_map.mp hmem
    have hprevout : j.bare.prevout = i.bare.prevout := congrArg TxInput.prevout hsame
    change j.prevout = i.prevout at hprevout
    rw [← hprevout]
    exact hids j hj
  · simp
  · rw [hrest, hrest', hrest'', hlast]
    simp only [List.append_assoc]
  · refine serializeBody_eq_ok_iff.mpr ⟨own, own', ?_, hown', rfl⟩
    rw [listBytes_serialize_congr hbare]
    exact hown

/-- The string that is written for a transaction: every compact size has its shortest form, and the
witness marker stands only where there is a witness. -/
@[mk_iff]
structure Canonical (tx : Transaction) (entries : List Entry) (raw : Bytes) : Prop where
  shortest : ∀ entry ∈ entries, entry.Shortest
  marker : (raw.drop 4).take 2 = witnessMarker → tx.hasWitness = true

instance (tx : Transaction) (entries : List Entry) (raw : Bytes) :
    Decidable (tx.Canonical entries raw) :=
  decidable_of_iff _ (canonical_iff tx entries raw).symm

/-- The transaction can be written: as the string it was read from if that is canonical, and as a
shorter one if not. -/
def Condensed (tx : Transaction) (entries : List Entry) (raw : Bytes) : Prop :=
  ∃ own, tx.serialize = .ok own ∧ (tx.Canonical entries raw → own = raw) ∧
    (¬ tx.Canonical entries raw → own.length < raw.length)

theorem hasWitness_eq_false {tx : Transaction} (h : ∀ i ∈ tx.inputs, i.witness = []) :
    tx.hasWitness = false := by
  refine List.any_eq_false.mpr fun i hi => ?_
  simp [h i hi]

theorem cases_of_run_readMarker {marked : Bool} (h : readMarker.run c = .ok (marked, c')) :
    (marked = true ∧ c.rest = witnessMarker ++ c'.rest) ∨
      (marked = false ∧ c' = c ∧ c.rest.take 2 ≠ witnessMarker) := by
  rw [run_readMarker] at h
  split at h
  · rename_i hmarker
    obtain ⟨chunk, hread, rfl⟩ := Wire.run_map_eq_ok h
    obtain ⟨hrest, hlength⟩ := Wire.run_read_eq_ok hread
    have hchunk : c.rest.take 2 = chunk := by rw [hrest, ← hlength, List.take_left]
    rw [hchunk] at hmarker
    exact .inl ⟨rfl, by rw [hrest, hmarker]⟩
  · rename_i hmarker
    cases h
    exact .inr ⟨rfl, rfl, hmarker⟩

section Forms

variable {tx : Transaction} {version raw body raw' own lockTime : Bytes}
  {first later : List Entry}

/-- Behind a marker, the bytes are those that are written if there is a witness. Without one the
marker is left out. -/
theorem condensed_of_marked {items : List Bytes}
    (hversion : Wire.signed 4 tx.version = .ok version) (hbody : tx.serializeBody = .ok body)
    (hcondenses : Condenses first raw body)
    (hitems : tx.inputs.mapM TxInput.serializeWitness = .ok items)
    (hcondenses' : Condenses later raw' items.flatten)
    (hlockTime : Wire.unsigned 4 tx.lockTime = .ok lockTime) :
    tx.Condensed (first ++ later) (version ++ witnessMarker ++ raw ++ raw' ++ lockTime) := by
  obtain ⟨hlength, -⟩ := Wire.signed_eq_ok hversion
  have hfront : ((version ++ witnessMarker ++ raw ++ raw' ++ lockTime).drop 4).take 2 =
      witnessMarker := by
    simp only [List.append_assoc]
    rw [← hlength, List.drop_left]
    rfl
  cases hwitness : tx.hasWitness with
  | true =>
      have hall := (((Wire.condenses_refl (version ++ witnessMarker)).append hcondenses).append
        hcondenses').append (Wire.condenses_refl lockTime)
      rw [List.nil_append, List.append_nil] at hall
      refine ⟨_, (serialize_eq_ok_iff_of_witness hwitness).mpr
        ⟨version, body, items, lockTime, hversion, hbody, hitems, hlockTime, rfl⟩, ?_, ?_⟩
      · intro hcanonical
        exact hall.same hcanonical.shortest
      · intro hlong
        refine hall.shorter fun hshortest => hlong ⟨hshortest, fun _ => hwitness⟩
  | false =>
      refine ⟨version ++ body ++ lockTime, ?_, ?_, ?_⟩
      · rw [serialize_of_no_witness hwitness]
        exact serializeStripped_eq_ok_iff.mpr
          ⟨version, body, lockTime, hversion, hbody, hlockTime, rfl⟩
      · intro hcanonical
        rw [hcanonical.marker hfront] at hwitness
        cases hwitness
      · intro _
        have hle := hcondenses.length_le
        have hmarker : witnessMarker.length = 2 := rfl
        simp only [List.length_append, hmarker]
        omega

theorem condensed_of_unmarked (hversion : Wire.signed 4 tx.version = .ok version)
    (hbody : tx.serializeBody = .ok body) (hcondenses : Condenses first raw body)
    (hempty : ∀ i ∈ tx.inputs, i.witness = []) (hcondenses' : Condenses later [] own)
    (hlockTime : Wire.unsigned 4 tx.lockTime = .ok lockTime)
    (hfront : (raw ++ lockTime).take 2 ≠ witnessMarker) :
    tx.Condensed (first ++ later) (version ++ raw ++ lockTime) := by
  obtain ⟨hlength, -⟩ := Wire.signed_eq_ok hversion
  have hlater : ∀ entry ∈ later, entry.Shortest := by
    by_contra hlong
    exact absurd (hcondenses'.shorter hlong) (Nat.not_lt_zero _)
  have hunmarked : ((version ++ raw ++ lockTime).drop 4).take 2 ≠ witnessMarker := by
    rwa [List.append_assoc, ← hlength, List.drop_left]
  have hall := ((Wire.condenses_refl version).append hcondenses).append
    (Wire.condenses_refl lockTime)
  rw [List.nil_append, List.append_nil] at hall
  refine ⟨version ++ body ++ lockTime, ?_, ?_, ?_⟩
  · rw [serialize_of_no_witness (hasWitness_eq_false hempty)]
    exact serializeStripped_eq_ok_iff.mpr ⟨version, body, lockTime, hversion, hbody, hlockTime, rfl⟩
  · intro hcanonical
    exact hall.same (List.forall_mem_append.mp hcanonical.shortest).1
  · intro hlong
    refine hall.shorter fun hshortest => hlong ⟨?_, fun hmarker => absurd hmarker hunmarked⟩
    exact List.forall_mem_append.mpr ⟨hshortest, hlater⟩

end Forms

theorem condensed_of_record {tx : Transaction} (h : record c = (.ok (tx, c'), entries)) :
    (∀ i ∈ tx.inputs, i.prevout.txid.length = 32) ∧
      ∃ raw, c.rest = raw ++ c'.rest ∧ tx.Condensed entries raw := by
  obtain ⟨version, c₁, _, _, hversion, htail, rfl⟩ := Recorder.bind_eq_ok.mp h
  obtain ⟨marked, c₂, _, _, hmarked, hunmarked, rfl⟩ := Recorder.bind_eq_ok.mp htail
  obtain ⟨hsigned, rfl⟩ := Prod.mk.inj hversion
  obtain ⟨hlook, rfl⟩ := Prod.mk.inj hmarked
  have hsigned : (Wire.readSigned (3 + 1)).run c = .ok (version, c₁) := hsigned
  obtain ⟨field, hrest, hfield⟩ := Wire.exists_of_run_readSigned hsigned
  obtain ⟨rfl, hids, first, later, raw, body, raw', own, lockTime, rfl, hrest', hbody, hcondenses,
    hcondenses', hlockTime, hwitnesses⟩ := exists_of_run_recordUnmarked hunmarked
  refine ⟨hids, ?_⟩
  rcases cases_of_run_readMarker hlook with ⟨rfl, hmarker⟩ | ⟨rfl, rfl, hmarker⟩
  · obtain ⟨items, hitems, rfl⟩ := hwitnesses
    have hcondensed := condensed_of_marked hfield hbody hcondenses hitems hcondenses' hlockTime
    refine ⟨_, ?_, hcondensed⟩
    rw [hrest, hmarker, hrest']
    simp only [List.append_assoc]
  · obtain ⟨rfl, hempty⟩ := hwitnesses
    rw [List.append_nil] at hrest'
    -- the lock time alone is longer than the marker, so the look went no further than the
    -- transaction
    have hfront : (raw ++ lockTime).take 2 ≠ witnessMarker := by
      obtain ⟨-, -, rfl⟩ := Wire.unsigned_eq_ok_iff.mp hlockTime
      rw [hrest', List.take_append_of_le_length] at hmarker
      · exact hmarker
      · rw [List.length_append, Bytes.length_ofNatLE]
        omega
    have hcondensed :=
      condensed_of_unmarked hfield hbody hcondenses hempty hcondenses' hlockTime hfront
    refine ⟨_, ?_, hcondensed⟩
    rw [hrest, hrest']
    simp only [List.append_assoc]

/-- Whatever string is read as a transaction, the transaction can be written. What is written is
that string exactly when it is canonical, and otherwise a shorter one. It is read as the same
transaction again, except when it starts like one with witnesses without being one. -/
theorem serialize_of_ofBytes (raw : Bytes) (tx : Transaction) (h : ofBytes raw = .ok tx) :
    ∃ own, tx.serialize = .ok own ∧
      (own = raw ↔ tx.Canonical (recorded raw).2 raw) ∧
      (own ≠ raw → own.length < raw.length) ∧
      (ofBytes own = .ok tx ↔ ¬ tx.Ambiguous) := by
  have hrecorded : (recorded raw).1 = .ok tx := (records_read.all "transaction" raw).trans h
  obtain ⟨c, hrun, hend⟩ := Recorder.exists_run_of_all hrecorded
  change record (Cursor.start raw) = (.ok (tx, c), (recorded raw).2) at hrun
  obtain ⟨hids, spelled, hrest, own, hown, hsame, hshorter⟩ := condensed_of_record hrun
  obtain rfl : raw = spelled := by
    rw [hend, List.append_nil] at hrest
    exact hrest
  refine ⟨own, hown, ⟨?_, hsame⟩, ?_, ?_, ?_⟩
  · rintro rfl
    by_contra hlong
    exact absurd (hshorter hlong) (lt_irrefl _)
  · intro hne
    exact hshorter (mt hsame hne)
  · intro hread hambiguous
    exact ofBytes_serialize_ne_of_ambiguous hambiguous hown hread
  · intro hclear
    exact (reads_serialize hids hclear hown).readAll_eq_ok

theorem serialize_of_ofBytes_spend :
    let tx : Transaction := {
      version := 2
      inputs := [{ prevout := ⟨List.replicate 32 7, 1⟩, witness := [[9]] }]
      outputs := [] }
    let raw : Bytes → Bytes := fun size => [2, 0, 0, 0, 0, 1, 1] ++ List.replicate 32 7 ++
      [1, 0, 0, 0] ++ size ++ [255, 255, 255, 255, 0, 1, 1, 9, 0, 0, 0, 0]
    ofBytes (raw [0]) = .ok tx ∧ tx.serialize = .ok (raw [0]) ∧
      ofBytes (raw [253, 0, 0]) = .ok tx ∧
      ∃ own, tx.serialize = .ok own ∧ own.length < (raw [253, 0, 0]).length ∧
        ofBytes own = .ok tx := by
  intro tx raw
  have hread : ofBytes (raw [0]) = .ok tx := by decide +kernel
  have hread' : ofBytes (raw [253, 0, 0]) = .ok tx := by decide +kernel
  have hcanonical : tx.Canonical (recorded (raw [0])).2 (raw [0]) := by decide +kernel
  have hlong : ¬ tx.Canonical (recorded (raw [253, 0, 0])).2 (raw [253, 0, 0]) := by decide +kernel
  have hclear : ¬ tx.Ambiguous := by simp [Ambiguous, tx]
  obtain ⟨own, hown, hsame, -⟩ := serialize_of_ofBytes (raw [0]) tx hread
  obtain rfl := hsame.mpr hcanonical
  obtain ⟨own', hown', hsame', hshorter, hagain⟩ := serialize_of_ofBytes _ tx hread'
  exact ⟨hread, hown, hread', own', hown', hshorter (mt hsame'.mp hlong), hagain.mpr hclear⟩

/-- One payment is read from three strings: the one that is written for it, one that spells the
number of its inputs in three bytes, and one with the witness marker and an empty witness. -/
theorem serialize_ne_of_ofBytes_pay :
    let tx : Transaction := {
      version := 2
      inputs := [{ prevout := ⟨List.replicate 32 7, 1⟩ }]
      outputs := [⟨1000, [81]⟩] }
    let raw : Bytes → Bytes → Bytes := fun front behind => [2, 0, 0, 0] ++ front ++
      List.replicate 32 7 ++ [1, 0, 0, 0, 0, 255, 255, 255, 255] ++
      [1, 232, 3, 0, 0, 0, 0, 0, 0, 1, 81] ++ behind ++ [0, 0, 0, 0]
    tx.serialize = .ok (raw [1] []) ∧ ofBytes (raw [1] []) = .ok tx ∧
      ofBytes (raw [253, 1, 0] []) = .ok tx ∧ tx.serialize ≠ .ok (raw [253, 1, 0] []) ∧
      ofBytes (raw [0, 1, 1] [0]) = .ok tx ∧ tx.serialize ≠ .ok (raw [0, 1, 1] [0]) := by
  decide +kernel

end Transaction

end BlobInscription
