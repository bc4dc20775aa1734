import BlobInscription.Proofs.Envelope.Grammar
import BlobInscription.Proofs.Script.Stream

namespace BlobInscription.Envelope

open Script (Instruction Item)
open Traversal

/-- An envelope to be put into a script: for whom, with which nonce, bound to which key, and in
pieces of which size. -/
structure Parcel where
  rollup : String
  content : Envelope
  nonce : Bytes
  revealKey? : Option Bytes := none
  chunkSize : Int := Script.maxElementSize

namespace Parcel

def script (p : Parcel) : Except BuildError Bytes :=
  toScript p.rollup p.content p.nonce p.revealKey? p.chunkSize

/-- The items that the script is assembled from. -/
def parts (p : Parcel) : List Item :=
  guardItems p.revealKey? ++ items p.rollup p.content p.nonce p.chunkSize.toNat

end Parcel

section Pieces

variable {size bound : Nat} {body : Bytes}

theorem flatten_chunksWithin (hsize : 0 < size) (hbound : body.length ≤ bound) :
    (chunksWithin size bound body).flatten = body := by
  induction bound generalizing body with
  | zero =>
      rw [List.eq_nil_of_length_eq_zero (Nat.le_zero.mp hbound)]
      rfl
  | succ bound ih =>
      cases body with
      | nil => rfl
      | cons b body =>
          have hrest : ((b :: body).drop size).length ≤ bound := by
            simp only [List.length_drop, List.length_cons] at hbound ⊢
            omega
          simp only [chunksWithin, List.isEmpty_cons, Bool.false_eq_true, if_false,
            List.flatten_cons, ih hrest, List.take_append_drop]

theorem flatten_chunks (hsize : 0 < size) : (chunks size body).flatten = body :=
  flatten_chunksWithin hsize (Nat.le_refl _)

theorem length_of_mem_chunksWithin (hsize : 0 < size) {chunk : Bytes}
    (h : chunk ∈ chunksWithin size bound body) : chunk ≠ [] ∧ chunk.length ≤ size := by
  induction bound generalizing body with
  | zero => simp [chunksWithin] at h
  | succ bound ih =>
      cases body with
      | nil => simp [chunksWithin] at h
      | cons b body =>
          simp only [chunksWithin, List.isEmpty_cons, Bool.false_eq_true, if_false,
            List.mem_cons] at h
          rcases h with rfl | h
          · refine ⟨?_, List.length_take_le _ _⟩
            rw [ne_eq, List.take_eq_nil_iff]
            simp
            omega
          · exact ih h

end Pieces

namespace Parcel

variable {p : Parcel}

theorem succeeds_assemble_parts_iff (hsize : 0 < p.chunkSize)
    (hlimit : p.chunkSize ≤ Script.maxElementSize)
    (hkey : ∀ key, p.revealKey? = some key → key.length = 32) :
    Succeeds (Script.assemble p.parts) ↔
      (Bytes.ofText p.rollup).length ≤ Script.maxElementSize ∧
      p.content.signature.length ≤ Script.maxElementSize ∧
      p.content.publicKey.length ≤ Script.maxElementSize ∧
      p.nonce.length ≤ Script.maxElementSize := by
  have hguard : ∀ item ∈ guardItems p.revealKey?, Succeeds item.assemble := by
    cases hreveal : p.revealKey? with
    | none => simp [guardItems]
    | some key =>
        have hlength : key.length ≤ Script.maxElementSize := by
          rw [hkey key hreveal]
          decide
        simp only [guardItems, List.forall_mem_cons, Item.succeeds_assemble_data_iff,
          Item.succeeds_assemble_opcode, hlength, List.not_mem_nil, false_imp_iff, implies_true,
          and_self]
  have hchunks : ∀ chunk ∈ chunks p.chunkSize.toNat p.content.body,
      chunk.length ≤ Script.maxElementSize := by
    intro chunk hchunk
    have hlength := (length_of_mem_chunksWithin (by omega) hchunk).2
    omega
  have htags : ∀ tag ∈ [bodyTag, nameTag, signatureTag, publicKeyTag, nonceTag],
      tag.length ≤ Script.maxElementSize := by
    decide
  simp only [List.forall_mem_cons] at htags
  rw [Script.succeeds_assemble_iff, parts]
  simp only [items, List.forall_mem_append, List.forall_mem_cons, List.forall_mem_map,
    Item.succeeds_assemble_data_iff, Item.succeeds_assemble_opcode, List.not_mem_nil,
    false_imp_iff, implies_true, htags, and_true, true_and]
  exact ⟨fun h => h.2.1, fun h => ⟨hguard, h, hchunks⟩⟩

theorem script_eq_ok_iff {script : Bytes} : p.script = .ok script ↔
    (0 < p.chunkSize ∧ p.chunkSize ≤ Script.maxElementSize) ∧
      (∀ key, p.revealKey? = some key → key.length = 32) ∧
      Script.assemble p.parts = .ok script := by
  rw [Parcel.script, toScript, parts]
  by_cases hsize : 0 < p.chunkSize ∧ p.chunkSize ≤ Script.maxElementSize
  · rw [if_pos hsize]
    cases p.revealKey? with
    | none => simp [hsize, mapError_eq_ok]
    | some key =>
        by_cases hkey : key.length = 32
        · simp [hsize, hkey, mapError_eq_ok]
        · simp [hkey, bind, Except.bind, throw, throwThe, MonadExceptOf.throw]
  · rw [if_neg hsize]
    simp [hsize, bind, Except.bind, throw, throwThe, MonadExceptOf.throw]

theorem succeeds_script_iff : Succeeds p.script ↔
    (0 < p.chunkSize ∧ p.chunkSize ≤ Script.maxElementSize) ∧
      (∀ key, p.revealKey? = some key → key.length = 32) ∧
      (Bytes.ofText p.rollup).length ≤ Script.maxElementSize ∧
      p.content.signature.length ≤ Script.maxElementSize ∧
      p.content.publicKey.length ≤ Script.maxElementSize ∧
      p.nonce.length ≤ Script.maxElementSize := by
  simp only [Succeeds, script_eq_ok_iff, exists_and_left]
  refine and_congr_right fun hsize => and_congr_right fun hkey => ?_
  exact succeeds_assemble_parts_iff hsize.1 hsize.2 hkey

end Parcel

section Scan

variable {name other : Bytes} {rest : List Instruction}

theorem findWithin_eq_find? {bound : Nat} {stream : List Instruction}
    (h : stream.length ≤ bound) : findWithin name bound stream = find? name stream := by
  symm
  rw [find?_eq_iff_machine]
  exact machine_findWithin (i := 0) (by omega)

theorem find?_cons_of_plain {i : Instruction} (h : i.pushed? ≠ some []) :
    find? name (i :: rest) = find? name rest := by
  have hskip : (i :: rest).dropWhile (fun x => x.pushed? != some bodyTag) =
      rest.dropWhile (fun x => x.pushed? != some bodyTag) := by
    rw [List.dropWhile_cons_of_pos (by simpa [bodyTag] using h)]
  rw [find?, List.length_cons, findWithin, hskip, ← findWithin_eq_find? (Nat.le_succ rest.length),
    findWithin]

theorem find?_append_of_plain {plain : List Instruction}
    (h : ∀ i ∈ plain, i.pushed? ≠ some []) : find? name (plain ++ rest) = find? name rest := by
  induction plain with
  | nil => rfl
  | cons i plain ih =>
      obtain ⟨hi, hplain⟩ := List.forall_mem_cons.mp h
      rw [List.cons_append, find?_cons_of_plain hi, ih hplain]

theorem find?_cons_of_marker {i : Instruction} (h : i.pushed? = some []) :
    find? name (i :: rest) =
      ((afterMarker name).run rest).1.or (find? name ((afterMarker name).run rest).2) := by
  have hstop : (i :: rest).dropWhile (fun x => x.pushed? != some bodyTag) = i :: rest := by
    rw [List.dropWhile_cons_of_neg (by simp [bodyTag, h])]
  have hsettles := settles_afterMarker name rest 0
  rw [List.drop_zero] at hsettles
  rw [find?, List.length_cons, findWithin, hstop]
  cases hrun : (afterMarker name).run rest with
  | mk e? left =>
      cases e? with
      | some e => simp [hrun]
      | none =>
          rw [hrun] at hsettles
          obtain ⟨j, -, rfl⟩ := hsettles
          simp only [hrun, Option.none_or]
          exact findWithin_eq_find? (by simp)

theorem run_afterMarker_of_not_if {i : Instruction} (h : i ≠ .op Opcode.ifOp) :
    (afterMarker name).run (i :: rest) = (none, rest) := by
  have hop : i.isOp Opcode.ifOp = false := by
    rw [Bool.eq_false_iff, ne_eq, isOp_iff]
    exact h
  simp [afterMarker, Attempt.opcode, Attempt.run_one_bind_cons, hop]

theorem run_afterMarker_of_foreign {c d : Opcode} (h : other ≠ name) :
    (afterMarker name).run (.op Opcode.ifOp :: .push c nameTag :: .push d other :: rest) =
      (none, rest) := by
  simp [afterMarker, Attempt.opcode, Attempt.pushOf, Attempt.run_one_bind_cons, Instruction.isOp,
    Instruction.pushed?, h]

/-- An empty push that is not followed by IF takes the next instruction with it. -/
theorem find?_marker_cons {i j : Instruction} (hi : i.pushed? = some [])
    (hj : j ≠ .op Opcode.ifOp) : find? name (i :: j :: rest) = find? name rest := by
  rw [find?_cons_of_marker hi, run_afterMarker_of_not_if hj, Option.none_or]

theorem find?_push_cons {i j : Instruction} (hj : j.pushed? ≠ some [])
    (hop : j ≠ .op Opcode.ifOp) : find? name (i :: j :: rest) = find? name rest := by
  by_cases hi : i.pushed? = some []
  · exact find?_marker_cons hi hop
  · rw [find?_cons_of_plain hi, find?_cons_of_plain hj]

theorem takeChunks_pushes (pieces done : List Bytes) :
    takeChunks (pieces.map (fun data => Instruction.push (Script.pushOpcode data) data) ++
        .op Opcode.endIf :: rest) done =
      (some (done.reverse.flatten ++ pieces.flatten), rest) := by
  induction pieces generalizing done with
  | nil => simp [takeChunks, Instruction.pushed?, Instruction.isOp]
  | cons data pieces ih =>
      simp only [List.map_cons, List.cons_append, takeChunks, Instruction.pushed?, ih,
        List.reverse_cons, List.flatten_append, List.flatten_cons, List.flatten_nil,
        List.append_nil, List.append_assoc]

theorem find?_push_marker_append {c d : Opcode} {data : Bytes} {closing : List Instruction}
    (hne : closing ≠ []) (hplain : ∀ i ∈ closing, i.pushed? ≠ some [] ∧ i ≠ .op Opcode.ifOp) :
    find? name (.push c data :: .push d bodyTag :: closing ++ rest) = find? name rest := by
  by_cases hdata : data = []
  · rw [List.cons_append, List.cons_append, find?_marker_cons (by simp [Instruction.pushed?, hdata])
      (by simp), find?_append_of_plain fun i hi => (hplain i hi).1]
  · obtain ⟨i, closing, rfl⟩ := List.exists_cons_of_ne_nil hne
    obtain ⟨hi, hclosing⟩ := List.forall_mem_cons.mp hplain
    rw [List.cons_append, List.cons_append, List.cons_append,
      find?_cons_of_plain (by simp [Instruction.pushed?, hdata]), find?_marker_cons rfl hi.2,
      find?_append_of_plain fun i hi => (hclosing i hi).1]

end Scan

section Passing

variable {name : Bytes} {rollup : String} {e : Envelope} {nonce : Bytes} {size : Nat}
  {rest : List Instruction}

/-- The instructions of a body and of the ENDIF behind it. -/
def closing (size : Nat) (body : Bytes) : List Instruction :=
  (chunks size body).map (fun data => .push (Script.pushOpcode data) data) ++ [.op Opcode.endIf]

theorem map_instruction_items : (items rollup e nonce size).map Item.instruction =
    [.push 0 bodyTag, .op Opcode.ifOp,
      .push 1 nameTag, .push (Script.pushOpcode (Bytes.ofText rollup)) (Bytes.ofText rollup),
      .push 1 signatureTag, .push (Script.pushOpcode e.signature) e.signature,
      .push 1 publicKeyTag, .push (Script.pushOpcode e.publicKey) e.publicKey,
      .push 1 nonceTag, .push (Script.pushOpcode nonce) nonce,
      .push 0 bodyTag] ++ closing size e.body := by
  rw [items, closing, List.map_append, List.map_append, List.map_map, List.append_assoc]
  rfl

theorem closing_plain (hsize : 0 < size) {body : Bytes} {i : Instruction}
    (h : i ∈ closing size body) : i.pushed? ≠ some [] ∧ i ≠ .op Opcode.ifOp := by
  rw [closing, List.mem_append, List.mem_map, List.mem_singleton] at h
  rcases h with ⟨data, hdata, rfl⟩ | rfl
  · have hne : data ≠ [] := (length_of_mem_chunksWithin hsize hdata).1
    simp [Instruction.pushed?, hne]
  · decide

/-- An envelope for someone else is passed over whole, even where its fields are empty pushes. -/
theorem find?_items_of_foreign (hsize : 0 < size) (hforeign : Bytes.ofText rollup ≠ name) :
    find? name ((items rollup e nonce size).map Item.instruction ++ rest) = find? name rest := by
  have hne : closing size e.body ≠ [] := by simp [closing]
  rw [map_instruction_items, List.append_assoc]
  simp only [List.cons_append, List.nil_append]
  -- behind the name that does not fit, each field goes together with the tag behind it
  rw [find?_cons_of_marker rfl, run_afterMarker_of_foreign hforeign, Option.none_or,
    find?_cons_of_plain (by decide), find?_push_cons (by decide) (by decide),
    find?_push_cons (by decide) (by decide)]
  exact find?_push_marker_append hne fun _ => closing_plain hsize

theorem find?_items_of_own (hsize : 0 < size) :
    find? (Bytes.ofText rollup) ((items rollup e nonce size).map Item.instruction ++ rest) =
      some e := by
  have hbody : takeChunks (closing size e.body ++ rest) [] = (some e.body, rest) := by
    rw [closing, List.append_assoc, List.singleton_append, takeChunks_pushes, flatten_chunks hsize]
    rfl
  rw [map_instruction_items, List.append_assoc]
  simp only [List.cons_append, List.nil_append]
  rw [find?_cons_of_marker rfl]
  simp only [afterMarker, Attempt.opcode, Attempt.pushOf, Attempt.anyPush,
    Attempt.run_one_bind_cons, Attempt.chunks_bind, Instruction.isOp, Instruction.pushed?,
    beq_self_eq_true, if_true, hbody, Option.map_some, Option.some_or]

end Passing

namespace Parcel

/-- The instructions of the script. -/
def stream (p : Parcel) : List Instruction :=
  p.parts.map Item.instruction

variable {p : Parcel} {name : Bytes} {rest : List Instruction}

theorem closed_of_mem_parts : ∀ item ∈ p.parts, item.Closed := by
  have hif : (Item.opcode Opcode.ifOp.toNat).Closed := .inr (by decide)
  have hendIf : (Item.opcode Opcode.endIf.toNat).Closed := .inr (by decide)
  have hguard : ∀ item ∈ guardItems p.revealKey?, item.Closed := by
    cases p.revealKey? with
    | none => simp [guardItems]
    | some key =>
        have hcheckSig : (Item.opcode Opcode.checkSig.toNat).Closed := .inr (by decide)
        simp [guardItems, hcheckSig]
  simp only [parts, items, List.forall_mem_append, List.forall_mem_cons, List.forall_mem_map,
    Item.closed_data, hif, hendIf, List.not_mem_nil, false_imp_iff, implies_true, and_true]
  exact hguard

theorem find?_stream (hscript : Succeeds p.script) :
    find? name (p.stream ++ rest) =
      if Bytes.ofText p.rollup = name then some p.content else find? name rest := by
  obtain ⟨⟨hsize, -⟩, hkey, -⟩ := succeeds_script_iff.mp hscript
  have hguard : ∀ i ∈ (guardItems p.revealKey?).map Item.instruction, i.pushed? ≠ some [] := by
    cases hreveal : p.revealKey? with
    | none => simp [guardItems]
    | some key =>
        have hne : key ≠ [] := by
          rintro rfl
          simpa using hkey [] hreveal
        have hguard : (guardItems (some key)).map Item.instruction =
            [.push (Script.pushOpcode key) key, .op Opcode.checkSig] := rfl
        simp [hguard, Instruction.pushed?, hne]
  rw [stream, parts, List.map_append, List.append_assoc, find?_append_of_plain hguard]
  have hpositive : 0 < p.chunkSize.toNat := by omega
  split
  · rename_i hown
    subst hown
    exact find?_items_of_own hpositive
  · rename_i hforeign
    exact find?_items_of_foreign hpositive hforeign

theorem find?_streams {parcels : List Parcel} (h : ∀ p ∈ parcels, Succeeds p.script)
    (rollup : String) :
    find? (Bytes.ofText rollup) ((parcels.map stream).flatten ++ rest) =
      match parcels.find? (·.rollup = rollup) with
      | some p => some p.content
      | none => find? (Bytes.ofText rollup) rest := by
  induction parcels with
  | nil => rfl
  | cons p parcels ih =>
      obtain ⟨hp, hparcels⟩ := List.forall_mem_cons.mp h
      rw [List.map_cons, List.flatten_cons, List.append_assoc, find?_stream hp]
      by_cases hown : p.rollup = rollup
      · simp [hown]
      · have hforeign : Bytes.ofText p.rollup ≠ Bytes.ofText rollup :=
          Bytes.ofText_injective.ne hown
        rw [if_neg hforeign, ih hparcels, List.find?_cons_of_neg (by simpa using hown)]

theorem instructions_scripts {parcels : List Parcel} {scripts : List Bytes}
    (h : List.Forall₂ (fun p script => p.script = .ok script) parcels scripts) (rest : Bytes) :
    Script.instructions (scripts.flatten ++ rest) =
      (parcels.map stream).flatten ++ Script.instructions rest := by
  induction h with
  | nil => simp
  | cons hscript hscripts ih =>
      obtain ⟨-, -, hassemble⟩ := script_eq_ok_iff.mp hscript
      rw [List.flatten_cons, List.append_assoc,
        Script.instructions_assemble_append closed_of_mem_parts hassemble, ih,
        List.map_cons, List.flatten_cons, List.append_assoc]
      rfl

theorem ofScript_script {script : Bytes} (h : p.script = .ok script) :
    ofScript script p.rollup = .ok p.content := by
  have hinstructions := instructions_scripts (.cons h .nil) []
  simp only [List.map_cons, List.map_nil, List.flatten_cons, List.flatten_nil, List.append_nil]
    at hinstructions
  rw [ofScript, hinstructions, find?_stream ⟨script, h⟩, if_pos rfl]

end Parcel

/-- An envelope can be put into a script exactly when its chunks, its reveal key and its fields have
the lengths that scripts allow. Among envelopes in a row, behind instructions that are whole and no
empty pushes, the reader finds the first one that is addressed to it, and fails when there is none
and nothing follows. -/
theorem ofScript_parcels :
    (∀ p : Parcel, Succeeds p.script ↔
      (1 ≤ p.chunkSize ∧ p.chunkSize ≤ 520) ∧
        (∀ key, p.revealKey? = some key → key.length = 32) ∧
        (Bytes.ofText p.rollup).length ≤ 520 ∧ p.content.signature.length ≤ 520 ∧
        p.content.publicKey.length ≤ 520 ∧ p.nonce.length ≤ 520) ∧
    ∀ (lead : Bytes) (parcels : List Parcel) (scripts : List Bytes) (rollup : String),
      (∀ i ∈ Script.instructions lead, i.pushed? ≠ some [] ∧ ∀ c, i ≠ .truncated c) →
      parcels.mapM Parcel.script = .ok scripts →
      match parcels.find? (·.rollup = rollup) with
      | some p => ∀ trailing, ofScript (lead ++ scripts.flatten ++ trailing) rollup = .ok p.content
      | none => ofScript (lead ++ scripts.flatten) rollup = .error (.noEnvelope rollup) := by
  refine ⟨fun p => Parcel.succeeds_script_iff, ?_⟩
  intro lead parcels scripts rollup hlead hscripts
  have hplain : ∀ i ∈ Script.instructions lead, i.pushed? ≠ some [] := fun i hi => (hlead i hi).1
  have hwhole : Script.Whole lead := fun i hi => (hlead i hi).2
  have hbuilt : ∀ p ∈ parcels, Succeeds p.script := succeeds_mapM.mp ⟨scripts, hscripts⟩
  have hfound : ∀ trailing, find? (Bytes.ofText rollup)
      (Script.instructions (lead ++ scripts.flatten ++ trailing)) =
        match parcels.find? (·.rollup = rollup) with
        | some p => some p.content
        | none => find? (Bytes.ofText rollup) (Script.instructions trailing) := by
    intro trailing
    rw [List.append_assoc, Script.instructions_append hwhole, find?_append_of_plain hplain,
      Parcel.instructions_scripts (mapM_eq_ok_iff.mp hscripts), Parcel.find?_streams hbuilt]
  cases hfirst : parcels.find? (·.rollup = rollup) with
  | some p =>
      intro trailing
      rw [ofScript, hfound trailing, hfirst]
  | none =>
      have hnone := hfound []
      rw [hfirst, List.append_nil, Script.instructions_nil] at hnone
      rw [ofScript, hnone]
      rfl

theorem ofScript_parcels_pair :
    let foreign : Parcel := { rollup := "q", content := ⟨[], [], []⟩, nonce := [] }
    let own : Parcel :=
      { rollup := "r", content := ⟨[7, 8, 9], [1], [2]⟩, nonce := [3], chunkSize := 2 }
    let lead : Bytes := [0x51]
    let scripts : List Bytes :=
      [[0, 0x63, 1, 1, 1, 0x71, 1, 2, 0, 1, 3, 0, 1, 4, 0, 0, 0x68],
        [0, 0x63, 1, 1, 1, 0x72, 1, 2, 1, 1, 1, 3, 1, 2, 1, 4, 1, 3, 0, 2, 7, 8, 1, 9, 0x68]]
    (∀ i ∈ Script.instructions lead, i.pushed? ≠ some [] ∧ ∀ c, i ≠ .truncated c) ∧
    [foreign, own].mapM Parcel.script = .ok scripts ∧
    ∀ trailing, ofScript (lead ++ scripts.flatten ++ trailing) "r" = .ok own.content := by
  intro foreign own lead scripts
  have hlead : ∀ i ∈ Script.instructions lead,
      i.pushed? ≠ some [] ∧ ∀ c, i ≠ .truncated c := by
    have hinstructions : Script.instructions lead = [.op Opcode.one] := by decide +kernel
    simp [hinstructions, Instruction.pushed?]
  have hscripts : [foreign, own].mapM Parcel.script = .ok scripts := by decide +kernel
  have hfirst : [foreign, own].find? (·.rollup = "r") = some own := rfl
  have hread := ofScript_parcels.2 lead [foreign, own] scripts "r" hlead hscripts
  rw [hfirst] at hread
  exact ⟨hlead, hscripts, hread⟩

end BlobInscription.Envelope
