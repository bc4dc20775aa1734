import BlobInscription.Proofs.Script.Stream

namespace BlobInscription.Script

open Traversal

/-- The offset of an opcode, and how many bytes of length field and of data belong to it. -/
structure Span where
  start : Nat
  width : Nat
  size : Nat
  deriving DecidableEq, Repr

def Span.stop (s : Span) : Nat :=
  s.start + 1 + s.width + s.size

theorem Span.start_lt_stop (s : Span) : s.start < s.stop := by
  rw [stop]
  omega

/-- What an instruction finds at its span of the script. Of a truncated push the script lacks bytes
that would make it a whole one. -/
inductive Occupies (script : Bytes) : Span → Instruction → Prop
  | op {front back : Bytes} {c : Opcode} (hplain : 0x4f ≤ c.toNat)
      (hscript : script = front ++ c :: back) : Occupies script ⟨front.length, 0, 0⟩ (.op c)
  | push {front field data back : Bytes} {c : Opcode} (hsize : Announces c field data.length)
      (hscript : script = front ++ c :: (field ++ data ++ back)) :
      Occupies script ⟨front.length, field.length, data.length⟩ (.push c data)
  | truncated {front rest missing field data : Bytes} {c : Opcode}
      (hsize : Announces c field data.length) (hscript : script = front ++ c :: rest)
      (hmissing : missing ≠ []) (hrest : rest ++ missing = field ++ data) :
      Occupies script ⟨front.length, field.length, data.length⟩ (.truncated c)

/-- The spans follow each other without gaps from `start` to `stop`. -/
inductive Tiles : (start : Nat) → List Span → (stop : Nat) → Prop
  | nil (start : Nat) : Tiles start [] start
  | cons {start stop : Nat} {s : Span} {spans : List Span} (hstart : s.start = start)
      (hspans : Tiles s.stop spans stop) : Tiles start (s :: spans) stop

section Spans

variable {start stop : Nat} {spans : List Span}

theorem Tiles.start_le (h : Tiles start spans stop) : ∀ s ∈ spans, start ≤ s.start := by
  induction h with
  | nil => simp
  | @cons _ _ first spans hstart _ ih =>
      intro s hs
      subst hstart
      rcases List.mem_cons.mp hs with rfl | hs
      · exact Nat.le_refl _
      · exact first.start_lt_stop.le.trans (ih s hs)

theorem Tiles.pairwise (h : Tiles start spans stop) :
    spans.Pairwise fun s t => s.stop ≤ t.start := by
  induction h with
  | nil => exact .nil
  | cons _ hspans ih => exact .cons hspans.start_le ih

/-- The instruction read behind any bytes starts where they end. What is read next lies behind its
span, or else the span reaches beyond the end of the script. -/
theorem exists_span_next (front : Bytes) (c : Opcode) (rest : Bytes) :
    ∃ s : Span, s.start = front.length ∧ Occupies (front ++ c :: rest) s (next c rest).1 ∧
      ((∃ passed, passed.length = s.stop ∧ front ++ c :: rest = passed ++ (next c rest).2 ∧
          ∀ d, (next c rest).1 ≠ .truncated d) ∨
        (front ++ c :: rest).length < s.stop ∧ (next c rest).2 = [] ∧
          ∃ d, (next c rest).1 = .truncated d) := by
  rcases next_cases c rest with ⟨hplain, hnext⟩ | ⟨field, data, back, hsize, rfl, hnext⟩ |
    ⟨missing, field, data, hmissing, hsize, hrest, hnext⟩ <;> rw [hnext]
  · refine ⟨⟨front.length, 0, 0⟩, rfl, .op hplain rfl, .inl ⟨front ++ [c], ?_, by simp, by simp⟩⟩
    rw [List.length_append]
    rfl
  · refine ⟨⟨front.length, field.length, data.length⟩, rfl, .push hsize rfl,
      .inl ⟨front ++ c :: (field ++ data), ?_, by simp, by simp⟩⟩
    simp only [Span.stop, List.length_append, List.length_cons]
    omega
  · refine ⟨⟨front.length, field.length, data.length⟩, rfl,
      .truncated hsize rfl hmissing hrest, .inr ⟨?_, rfl, c, rfl⟩⟩
    have hpos : 0 < missing.length := List.length_pos_iff.mpr hmissing
    have hlength : rest.length + missing.length = field.length + data.length := by
      rw [← List.length_append, hrest, List.length_append]
    simp only [Span.stop, List.length_append, List.length_cons]
    omega

theorem exists_spans (front script : Bytes) :
    ∃ spans stop, List.Forall₂ (Occupies (front ++ script)) spans (instructions script) ∧
      Tiles front.length spans stop ∧ (front ++ script).length ≤ stop ∧
      (Whole script ↔ stop = (front ++ script).length) := by
  -- the bytes in front are those that earlier instructions have passed
  induction script using instructions.induct generalizing front with
  | case1 =>
      refine ⟨[], front.length, ?_, .nil _, by simp, by simp [whole_nil]⟩
      rw [instructions_nil]
      exact .nil
  | case2 c rest ih =>
      rw [instructions_cons, whole_cons_iff]
      obtain ⟨s, hstart, hoccupies, ⟨passed, hstop, hscript, hwhole⟩ | ⟨hlt, hnil, hcut⟩⟩ :=
        exists_span_next front c rest
      · obtain ⟨spans, stop, hspans, htiles, hle, hend⟩ := ih passed
        rw [← hscript] at hspans hle hend
        rw [hstop] at htiles
        exact ⟨s :: spans, stop, .cons hoccupies hspans, .cons hstart htiles, hle,
          (and_iff_right hwhole).trans hend⟩
      · refine ⟨[s], s.stop, ?_, .cons hstart (.nil s.stop), hlt.le, ?_⟩
        · rw [hnil, instructions_nil]
          exact .cons hoccupies .nil
        · obtain ⟨d, hd⟩ := hcut
          exact iff_of_false (fun hwhole => hwhole.1 d hd) hlt.ne'

theorem length_of_getElem?_truncated {script : Bytes} {n : Nat} {d : Opcode}
    (h : (instructions script)[n]? = some (.truncated d)) :
    (instructions script).length = n + 1 := by
  induction script using instructions.induct generalizing n with
  | case1 => simp at h
  | case2 c rest ih =>
      rw [instructions_cons] at h ⊢
      cases n with
      | zero =>
          rw [List.getElem?_cons_zero, Option.some.injEq] at h
          rcases next_cases c rest with ⟨-, hnext⟩ | ⟨_, _, _, -, -, hnext⟩ |
            ⟨_, _, _, -, -, -, hnext⟩ <;> rw [hnext] at h ⊢
          · cases h
          · cases h
          · rw [instructions_nil]
            rfl
      | succ n =>
          rw [List.getElem?_cons_succ] at h
          rw [List.length_cons, ih h]

end Spans

section Items

/-- An opcode without data of its own, or data that one push may carry. -/
def Item.Standard : Item → Prop
  | opcode code => code = 0 ∨ 0x4f ≤ code ∧ code ≤ 0xff
  | data bytes => bytes.length ≤ 520

instance : (item : Item) → Decidable item.Standard
  | .opcode code => inferInstanceAs (Decidable (code = 0 ∨ 0x4f ≤ code ∧ code ≤ 0xff))
  | .data bytes => inferInstanceAs (Decidable (bytes.length ≤ 520))

theorem Item.Standard.closed {item : Item} (h : item.Standard) : item.Closed := by
  cases item with
  | opcode code => exact h.imp_right And.left
  | data bytes => trivial

theorem Item.Standard.succeeds {item : Item} (h : item.Standard) : Succeeds item.assemble := by
  cases item with
  | opcode code =>
      have hrange : 0 ≤ code ∧ code < 256 := by
        rcases h with rfl | ⟨hlow, hhigh⟩ <;> omega
      rw [assemble, if_pos hrange]
      exact succeeds_ok _
  | data bytes => exact succeeds_assemble_data_iff.mpr h

/-- Assembled items are read as themselves, whatever script follows, and any script is read without
gaps from its first byte to its end or to a truncated push. -/
theorem instructions_compose_and_tile :
    (∀ items : List Item, (∀ item ∈ items, item.Standard) → ∃ script, assemble items = .ok script ∧
      ∀ rest, instructions (script ++ rest) = items.map Item.instruction ++ instructions rest) ∧
    ∀ script : Bytes,
      (∀ n c, (instructions script)[n]? = some (.truncated c) →
        (instructions script).length = n + 1) ∧
      ∃ spans stop, List.Forall₂ (Occupies script) spans (instructions script) ∧
        Tiles 0 spans stop ∧ (spans.Pairwise fun s t => s.stop ≤ t.start) ∧
        script.length ≤ stop ∧ (Whole script ↔ stop = script.length) := by
  constructor
  · intro items hitems
    obtain ⟨script, hscript⟩ : Succeeds (assemble items) :=
      succeeds_assemble_iff.mpr fun item hitem => (hitems item hitem).succeeds
    exact ⟨script, hscript, instructions_assemble_append
      (fun item hitem => (hitems item hitem).closed) hscript⟩
  · intro script
    refine ⟨fun n c => length_of_getElem?_truncated, ?_⟩
    obtain ⟨spans, stop, hoccupies, htiles, hend⟩ := exists_spans [] script
    exact ⟨spans, stop, hoccupies, htiles, htiles.pairwise, hend⟩

theorem instructions_compose_and_tile_boundaries :
    (∀ item ∈ [Item.opcode 0, .data (List.replicate 75 7), .data (List.replicate 76 7),
        .data (List.replicate 256 7), .opcode 0x4f], item.Standard) ∧
      ∃ script, assemble [.opcode 0, .data (List.replicate 75 7), .data (List.replicate 76 7),
          .data (List.replicate 256 7), .opcode 0x4f] = .ok script ∧
        instructions (script ++ [0x4d, 2]) = [.push 0 [], .push 75 (List.replicate 75 7),
          .push 0x4c (List.replicate 76 7), .push 0x4d (List.replicate 256 7), .op 0x4f,
          .truncated 0x4d] ∧
        (instructions (script ++ [0x4d, 2])).length = 6 := by
  have hstandard : ∀ item ∈ [Item.opcode 0, .data (List.replicate 75 7),
      .data (List.replicate 76 7), .data (List.replicate 256 7), .opcode 0x4f],
      item.Standard := by
    decide +kernel
  obtain ⟨script, hscript, hread⟩ := instructions_compose_and_tile.1 _ hstandard
  have hcut : instructions [0x4d, 2] = [.truncated 0x4d] := by
    rw [instructions_cons]
    exact congrArg _ instructions_nil
  have hall : instructions (script ++ [0x4d, 2]) = [.push 0 [], .push 75 (List.replicate 75 7),
      .push 0x4c (List.replicate 76 7), .push 0x4d (List.replicate 256 7), .op 0x4f,
      .truncated 0x4d] := by
    rw [hread, hcut]
    simp only [List.map, Item.instruction, pushOpcode, List.length_replicate]
    rfl
  refine ⟨hstandard, script, hscript, hall, ?_⟩
  exact (instructions_compose_and_tile.2 _).1 5 0x4d (by rw [hall]; rfl)

end Items

end BlobInscription.Script
