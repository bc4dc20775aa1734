import BlobInscription.Bytes.Lemmas
import BlobInscription.Proofs.Traversal
import BlobInscription.Script

/-!
Instruction streams. Behind an opcode there is nothing that belongs to it, or the data of a push, or
a part of what a push announces. The instructions of joined scripts are those of the parts, as long
as the first part does not break off inside a push, and an assembled script has the instructions of
its items.
-/

namespace BlobInscription.Script

open Traversal

/-- The script does not break off inside a push. -/
def Whole (script : Bytes) : Prop :=
  ∀ i ∈ instructions script, ∀ c, i ≠ .truncated c

@[simp] theorem instructions_nil : instructions [] = [] := by
  rw [instructions]

theorem instructions_cons (c : Opcode) (rest : Bytes) :
    instructions (c :: rest) = (next c rest).1 :: instructions (next c rest).2 := by
  rw [instructions]

theorem whole_nil : Whole [] := by
  simp [Whole]

theorem whole_cons_iff {c : Opcode} {rest : Bytes} :
    Whole (c :: rest) ↔ (∀ d, (next c rest).1 ≠ .truncated d) ∧ Whole (next c rest).2 := by
  rw [Whole, instructions_cons, List.forall_mem_cons, Whole]

section Opening

/-- The opcodes whose push has a length field, with the width of the field. -/
def lengthFields : List (Opcode × Nat) :=
  [(0x4c, 1), (0x4d, 2), (0x4e, 4)]

/-- Behind the opcode of a push, `field` says how many bytes of data follow. Up to 75 the opcode
says so itself. -/
inductive Announces : Opcode → (field : Bytes) → (size : Nat) → Prop
  | opcode {c : Opcode} (hdirect : c.toNat ≤ 75) : Announces c [] c.toNat
  | field {c : Opcode} {field : Bytes} (hwidth : (c, field.length) ∈ lengthFields) :
      Announces c field (Bytes.toNatLE field)

theorem announces_ofNat {n : Nat} (h : n ≤ 75) : Announces (UInt8.ofNat n) [] n := by
  have hbyte : (UInt8.ofNat n).toNat = n := by
    rw [UInt8.toNat_ofNat']
    omega
  have hannounces : Announces (UInt8.ofNat n) [] (UInt8.ofNat n).toNat :=
    .opcode (by rwa [hbyte])
  rwa [hbyte] at hannounces

theorem announces_ofNatLE {c : Opcode} {width n : Nat} (hmem : (c, width) ∈ lengthFields)
    (h : n < 256 ^ width) : Announces c (Bytes.ofNatLE width n) n := by
  have hannounces : Announces c (Bytes.ofNatLE width n)
      (Bytes.toNatLE (Bytes.ofNatLE width n)) :=
    .field (by rwa [Bytes.length_ofNatLE])
  rwa [Bytes.toNatLE_ofNatLE, Nat.mod_eq_of_lt h] at hannounces

theorem opcode_cases (c : Opcode) :
    0x4f ≤ c.toNat ∨ c.toNat ≤ 75 ∨ ∃ width, (c, width) ∈ lengthFields := by
  by_cases hplain : 0x4f ≤ c.toNat
  · exact .inl hplain
  · by_cases hdirect : c.toNat ≤ 75
    · exact .inr (.inl hdirect)
    · have hcode : c.toNat = 0x4c ∨ c.toNat = 0x4d ∨ c.toNat = 0x4e := by omega
      refine .inr (.inr ?_)
      rcases hcode with hcode | hcode | hcode
      · exact ⟨1, by simp [lengthFields, ← UInt8.toNat_inj, hcode]⟩
      · exact ⟨2, by simp [lengthFields, ← UInt8.toNat_inj, hcode]⟩
      · exact ⟨4, by simp [lengthFields, ← UInt8.toNat_inj, hcode]⟩

theorem lengthWidth?_eq_zero {c : Opcode} (h : c.toNat ≤ 75) : lengthWidth? c = some 0 := by
  have hlt : c < Opcode.pushData1 := by
    rw [UInt8.lt_iff_toNat_lt]
    exact Nat.lt_succ_of_le h
  simp [lengthWidth?, hlt]

theorem lengthWidth?_eq_none {c : Opcode} (h : 0x4f ≤ c.toNat) : lengthWidth? c = none := by
  have hdirect : ¬ c < Opcode.pushData1 := by
    rw [UInt8.lt_iff_toNat_lt, Nat.not_lt]
    exact Nat.le_trans (by decide) h
  have hne : ∀ d : Opcode, d.toNat < 0x4f → c ≠ d := by
    rintro d hd rfl
    omega
  simp [lengthWidth?, hdirect, hne Opcode.pushData1 (by decide), hne Opcode.pushData2 (by decide),
    hne Opcode.pushData4 (by decide)]

theorem lengthWidth?_of_mem {c : Opcode} {width : Nat} (h : (c, width) ∈ lengthFields) :
    lengthWidth? c = some width ∧ width ≠ 0 := by
  simp only [lengthFields, List.mem_cons, Prod.mk.injEq, List.not_mem_nil, or_false] at h
  rcases h with ⟨rfl, rfl⟩ | ⟨rfl, rfl⟩ | ⟨rfl, rfl⟩ <;> decide

theorem next_plain {c : Opcode} (h : 0x4f ≤ c.toNat) (rest : Bytes) :
    next c rest = (.op c, rest) := by
  simp only [next, lengthWidth?_eq_none h]

theorem next_of_mem {c : Opcode} {width : Nat} (h : (c, width) ∈ lengthFields) (rest : Bytes) :
    next c rest = if rest.length < width then (.truncated c, [])
      else takePush c (Bytes.toNatLE (rest.take width)) (rest.drop width) := by
  obtain ⟨hwidth, hne⟩ := lengthWidth?_of_mem h
  obtain ⟨width, rfl⟩ := Nat.exists_eq_succ_of_ne_zero hne
  simp only [next, hwidth, List.length_take, Nat.succ_eq_add_one, inf_lt_left, not_le]

theorem next_of_announces {c : Opcode} {field : Bytes} {size : Nat} (h : Announces c field size)
    (rest : Bytes) : next c (field ++ rest) = takePush c size rest := by
  cases h with
  | opcode hdirect => simp only [next, lengthWidth?_eq_zero hdirect, List.nil_append]
  | field hmem => rw [next_of_mem hmem, if_neg (by simp), List.take_left, List.drop_left]

theorem next_push {c : Opcode} {field data : Bytes} (h : Announces c field data.length)
    (rest : Bytes) : next c (field ++ data ++ rest) = (.push c data, rest) := by
  rw [List.append_assoc, next_of_announces h]
  simp [takePush]

theorem next_missing {c : Opcode} {field rest missing : Bytes} (hmissing : missing ≠ [])
    (h : Announces c field (rest ++ missing).length) :
    next c (field ++ rest) = (.truncated c, []) := by
  have hpos : 0 < missing.length := List.length_pos_iff.mpr hmissing
  rw [next_of_announces h]
  simp [takePush, hpos]

theorem cut_cases (size : Nat) (rest : Bytes) :
    (∃ front back, front.length = size ∧ rest = front ++ back) ∨
      ∃ missing, missing ≠ [] ∧ (rest ++ missing).length = size := by
  by_cases hsize : size ≤ rest.length
  · refine .inl ⟨rest.take size, rest.drop size, ?_, (List.take_append_drop size rest).symm⟩
    exact List.length_take_of_le hsize
  · refine .inr ⟨List.replicate (size - rest.length) 0, ?_, ?_⟩
    · rw [Ne, List.replicate_eq_nil_iff]
      omega
    · rw [List.length_append, List.length_replicate]
      omega

theorem next_cases_of_announces {c : Opcode} {field : Bytes} {size : Nat}
    (h : Announces c field size) (rest : Bytes) :
    (∃ data back, Announces c field data.length ∧ rest = data ++ back ∧
        next c (field ++ rest) = (.push c data, back)) ∨
      ∃ missing, missing ≠ [] ∧ Announces c field (rest ++ missing).length ∧
        next c (field ++ rest) = (.truncated c, []) := by
  rcases cut_cases size rest with ⟨data, back, rfl, rfl⟩ | ⟨missing, hmissing, rfl⟩
  · refine .inl ⟨data, back, h, rfl, ?_⟩
    rw [← List.append_assoc, next_push h]
  · exact .inr ⟨missing, hmissing, h, next_missing hmissing h⟩

/-- All that can be found behind an opcode: nothing that belongs to it, a whole push, or a push of
which bytes are missing. -/
theorem next_cases (c : Opcode) (rest : Bytes) :
    (0x4f ≤ c.toNat ∧ next c rest = (.op c, rest)) ∨
      (∃ field data back, Announces c field data.length ∧ rest = field ++ data ++ back ∧
        next c rest = (.push c data, back)) ∨
      ∃ missing field data, missing ≠ [] ∧ Announces c field data.length ∧
        rest ++ missing = field ++ data ∧ next c rest = (.truncated c, []) := by
  rcases opcode_cases c with hplain | hdirect | ⟨width, hmem⟩
  · exact .inl ⟨hplain, next_plain hplain rest⟩
  · refine .inr ?_
    rcases next_cases_of_announces (.opcode hdirect) rest with
      ⟨data, back, hsize, hrest, hnext⟩ | ⟨missing, hmissing, hsize, hnext⟩
    · exact .inl ⟨[], data, back, hsize, hrest, hnext⟩
    · exact .inr ⟨missing, [], rest ++ missing, hmissing, hsize, rfl, hnext⟩
  · refine .inr ?_
    rcases cut_cases width rest with ⟨field, behind, rfl, rfl⟩ | ⟨missing, hmissing, rfl⟩
    · rcases next_cases_of_announces (.field hmem) behind with
        ⟨data, back, hsize, rfl, hnext⟩ | ⟨missing, hmissing, hsize, hnext⟩
      · exact .inl ⟨field, data, back, hsize, (List.append_assoc ..).symm, hnext⟩
      · exact .inr ⟨missing, field, behind ++ missing, hmissing, hsize, List.append_assoc .., hnext⟩
    · -- whatever completes the length field, the data are missing behind it
      have hannounces := Announces.field hmem
      let data : Bytes := List.replicate (Bytes.toNatLE (rest ++ missing)) 0
      have hsize : data.length = Bytes.toNatLE (rest ++ missing) := List.length_replicate
      rw [← hsize] at hannounces
      refine .inr ⟨missing ++ data, rest ++ missing, data, by simp [hmissing], hannounces,
        (List.append_assoc ..).symm, ?_⟩
      have hpos : 0 < missing.length := List.length_pos_iff.mpr hmissing
      rw [next_of_mem hmem, if_pos (by rw [List.length_append]; omega)]

end Opening

theorem next_append {c : Opcode} {rest : Bytes} (h : ∀ d, (next c rest).1 ≠ .truncated d)
    (more : Bytes) : next c (rest ++ more) = ((next c rest).1, (next c rest).2 ++ more) := by
  rcases next_cases c rest with ⟨hplain, hnext⟩ | ⟨field, data, back, hsize, rfl, hnext⟩ |
    ⟨_, _, _, -, -, -, hnext⟩
  · rw [next_plain hplain, next_plain hplain]
  · rw [hnext, List.append_assoc, next_push hsize]
  · exact absurd (congrArg Prod.fst hnext) (h c)

theorem instructions_append {script : Bytes} (h : Whole script) (more : Bytes) :
    instructions (script ++ more) = instructions script ++ instructions more := by
  induction script using instructions.induct with
  | case1 => simp
  | case2 c rest ih =>
      obtain ⟨hfirst, hrest⟩ := whole_cons_iff.mp h
      rw [List.cons_append, instructions_cons, instructions_cons, next_append hfirst, ih hrest,
        List.cons_append]

/-- The opcode of the shortest push of a byte string. -/
def pushOpcode (data : Bytes) : Opcode :=
  if data.length < 0x4c then UInt8.ofNat data.length
  else if data.length ≤ 0xff then Opcode.pushData1
  else Opcode.pushData2

theorem succeeds_push_iff {data : Bytes} :
    Succeeds (push data) ↔ data.length ≤ maxElementSize := by
  rw [push]
  split
  · rename_i hlarge
    simpa using hlarge
  · rename_i hsmall
    simp only [Nat.le_of_not_lt hsmall, iff_true]
    split
    · exact succeeds_ok _
    · split
      · exact succeeds_ok _
      · split
        · exact succeeds_ok _
        · exact succeeds_ok _

theorem exists_field_of_push {data bytes : Bytes} (h : push data = .ok bytes) :
    ∃ field, Announces (pushOpcode data) field data.length ∧
      bytes = pushOpcode data :: (field ++ data) := by
  have hsize : data.length ≤ maxElementSize := succeeds_push_iff.mp ⟨bytes, h⟩
  rw [maxElementSize] at hsize
  rw [push, if_neg (by rw [maxElementSize]; omega)] at h
  rw [pushOpcode]
  by_cases hdirect : data.length < 0x4c
  · rw [if_pos hdirect] at h ⊢
    refine ⟨[], announces_ofNat (by omega), ?_⟩
    by_cases hempty : data.length = 0
    · rw [if_pos hempty] at h
      cases h
      rw [List.eq_nil_of_length_eq_zero hempty]
      rfl
    · rw [if_neg hempty] at h
      cases h
      rfl
  · rw [if_neg (by omega), if_neg hdirect] at h
    rw [if_neg hdirect]
    by_cases hbyte : data.length ≤ 0xff
    · rw [if_pos hbyte] at h ⊢
      cases h
      exact ⟨Bytes.ofNatLE 1 data.length, announces_ofNatLE (by decide) (by omega), rfl⟩
    · rw [if_neg hbyte] at h ⊢
      cases h
      exact ⟨Bytes.ofNatLE 2 data.length, announces_ofNatLE (by decide) (by omega), rfl⟩

theorem instructions_push_append {data bytes : Bytes} (h : push data = .ok bytes) (rest : Bytes) :
    instructions (bytes ++ rest) = .push (pushOpcode data) data :: instructions rest := by
  obtain ⟨field, hsize, rfl⟩ := exists_field_of_push h
  rw [List.cons_append, instructions_cons, next_push hsize]

namespace Item

/-- No opcode that pushes the bytes after it. -/
def Closed : Item → Prop
  | opcode code => code = 0 ∨ 0x4f ≤ code
  | data _ => True

@[simp] theorem closed_data (bytes : Bytes) : (data bytes).Closed :=
  trivial

/-- The instruction that an item stands for. -/
def instruction : Item → Instruction
  | opcode code => if code = 0 then .push 0 [] else .op (UInt8.ofNat code.toNat)
  | data bytes => .push (pushOpcode bytes) bytes

@[simp] theorem succeeds_assemble_data_iff {bytes : Bytes} :
    Succeeds (data bytes).assemble ↔ bytes.length ≤ maxElementSize :=
  succeeds_push_iff

@[simp] theorem succeeds_assemble_opcode (c : Opcode) : Succeeds (opcode c.toNat).assemble := by
  have hlt : c.toNat < 256 := c.toNat_lt
  rw [assemble, if_pos (by omega)]
  exact succeeds_ok _

theorem instructions_assemble_append {item : Item} {bytes : Bytes} (hclosed : item.Closed)
    (h : item.assemble = .ok bytes) (rest : Bytes) :
    instructions (bytes ++ rest) = item.instruction :: instructions rest := by
  cases item with
  | data payload => exact instructions_push_append h rest
  | opcode code =>
      rw [assemble] at h
      split at h
      · rename_i hrange
        cases h
        rw [List.singleton_append, instructions_cons, instruction]
        split
        · rename_i hzero
          rw [hzero]
          rfl
        · rename_i hzero
          have hlarge : 0x4f ≤ code := hclosed.resolve_left hzero
          have hcode : (UInt8.ofNat code.toNat).toNat = code.toNat := by
            rw [UInt8.toNat_ofNat']
            omega
          rw [next_plain (by omega)]
      · cases h

end Item

theorem succeeds_assemble_iff {items : List Item} :
    Succeeds (assemble items) ↔ ∀ item ∈ items, Succeeds item.assemble := by
  rw [assemble, succeeds_map, succeeds_mapM]

theorem instructions_assemble_append {items : List Item} {script : Bytes}
    (hclosed : ∀ item ∈ items, item.Closed) (h : assemble items = .ok script) (rest : Bytes) :
    instructions (script ++ rest) = items.map Item.instruction ++ instructions rest := by
  rw [assemble] at h
  cases hpieces : items.mapM Item.assemble with
  | error e => simp [hpieces, Except.map] at h
  | ok pieces =>
      simp only [hpieces, Except.map, Except.ok.injEq] at h
      subst h
      rw [mapM_eq_ok_iff] at hpieces
      induction hpieces with
      | nil => simp
      | cons hpiece hpieces ih =>
          obtain ⟨hitem, hitems⟩ := List.forall_mem_cons.mp hclosed
          rw [List.flatten_cons, List.append_assoc,
            Item.instructions_assemble_append hitem hpiece, ih hitems]
          rfl

end BlobInscription.Script
