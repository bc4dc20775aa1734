import BlobInscription.Proofs.Address.Codec
import Mathlib.Data.List.Induction
import Mathlib.Data.List.TakeDrop

/-!
Regrouping as an operation on bit strings: the bits of all groups in a row are cut into groups of
the new width from the front, and what is left over at the end is filled up with zeros or dropped.
-/

namespace BlobInscription.Regroup

/-- The number with the given bits, the highest of them first. -/
def ofBits (given : List Bool) : Nat :=
  given.foldl (fun n bit => 2 * n + bit.toNat) 0

/-- The whole groups of a bit string. -/
def cut (width : Nat) (given : List Bool) : List Nat :=
  (List.range (given.length / width)).map fun i => ofBits ((given.drop (i * width)).take width)

/-- The bits after the last whole group. -/
def leftover (width : Nat) (given : List Bool) : List Bool :=
  given.drop (given.length / width * width)

/-- All groups of a bit string, of which the last is filled up with zeros on the right. -/
def cutFilled (width : Nat) (given : List Bool) : List Nat :=
  let rest := leftover width given
  cut width given ++
    if rest.isEmpty then [] else [ofBits (rest ++ List.replicate (width - rest.length) false)]

/-- The bits of groups of one width, the values of which fit it. -/
def bitString (width : Nat) (values : List Int) : List Bool :=
  bits width (values.map Int.toNat)

section BitStrings

variable {width : Nat} {given : List Bool}

theorem ofBits_concat (given : List Bool) (bit : Bool) :
    ofBits (given ++ [bit]) = 2 * ofBits given + bit.toNat := by
  rw [ofBits, List.foldl_append]
  rfl

theorem ofBits_lt (given : List Bool) : ofBits given < 2 ^ given.length := by
  induction given using List.reverseRecOn with
  | nil => exact Nat.one_pos
  | append_singleton given bit ih =>
      have hbit := bit.toNat_lt
      rw [ofBits_concat, List.length_append, List.length_singleton, Nat.pow_succ]
      omega

theorem bitsOf_ofBits (given : List Bool) : bitsOf given.length (ofBits given) = given := by
  induction given using List.reverseRecOn with
  | nil => rfl
  | append_singleton given bit ih =>
      have hlast : bitsOf 1 bit.toNat = [bit] := by
        cases bit <;> rfl
      have hjoin := bitsOf_concat (a := given.length) (n := ofBits given) (b := 1) bit.toNat_lt
      rw [pow_one, ih, hlast, Nat.mul_comm] at hjoin
      rw [ofBits_concat, List.length_append, List.length_singleton, hjoin]

theorem ofBits_bitsOf {n : Nat} (h : n < 2 ^ width) : ofBits (bitsOf width n) = n := by
  have hlt := ofBits_lt (bitsOf width n)
  have hback := bitsOf_ofBits (bitsOf width n)
  rw [length_bitsOf] at hlt hback
  exact eq_of_bitsOf hlt h hback

theorem div_mul_le (width : Nat) (given : List Bool) :
    given.length / width * width ≤ given.length :=
  Nat.div_mul_le_self _ _

theorem length_leftover (width : Nat) (given : List Bool) :
    (leftover width given).length = given.length % width := by
  rw [leftover, List.length_drop, Nat.mul_comm, ← Nat.mod_eq_sub]

theorem bits_blocks {count : Nat} (h : count * width ≤ given.length) :
    bits width ((List.range count).map fun i => ofBits ((given.drop (i * width)).take width)) =
      given.take (count * width) := by
  induction count with
  | zero => simp
  | succ count ih =>
      rw [Nat.succ_mul] at h
      have hblock : ((given.drop (count * width)).take width).length = width := by
        rw [List.length_take, List.length_drop]
        omega
      have hbits := bitsOf_ofBits ((given.drop (count * width)).take width)
      rw [hblock] at hbits
      rw [List.range_succ, List.map_append, bits_append, ih (by omega), List.map_singleton,
        bits_cons, bits_nil, List.append_nil, hbits, Nat.succ_mul, List.take_add]

theorem bits_cut_append_leftover (width : Nat) (given : List Bool) :
    bits width (cut width given) ++ leftover width given = given := by
  rw [cut, bits_blocks (div_mul_le width given), leftover, List.take_append_drop]

theorem lt_of_mem_cut {g : Nat} (h : g ∈ cut width given) : g < 2 ^ width := by
  simp only [cut, List.mem_map, List.mem_range] at h
  obtain ⟨i, -, rfl⟩ := h
  refine Nat.lt_of_lt_of_le (ofBits_lt _) (Nat.pow_le_pow_right (by decide) ?_)
  rw [List.length_take]
  exact Nat.min_le_left _ _

/-- Groups and fewer bits than one more group are told by the bit string they make up. -/
theorem cut_unique {groups : List Nat} {rest : List Bool} (hgroups : ∀ g ∈ groups, g < 2 ^ width)
    (hrest : rest.length < width) (h : bits width groups ++ rest = given) :
    groups = cut width given ∧ rest = leftover width given := by
  have hcut := bits_cut_append_leftover width given
  rw [← hcut] at h
  have hleft : (leftover width given).length < width := by
    rw [length_leftover]
    exact Nat.mod_lt _ (by omega)
  have hlengths := congrArg List.length h
  simp only [List.length_append, length_bits] at hlengths
  obtain ⟨hcount, -⟩ := eq_of_mul_add hrest hleft hlengths
  obtain ⟨hbits, hsame⟩ := List.append_inj h (by simp [hcount])
  exact ⟨eq_of_bits (by omega) hgroups (fun g hg => lt_of_mem_cut hg) hbits, hsame⟩

end BitStrings

section Runs

variable {source target : Nat} {pad : Bool} {values : List Int} {s : State}

/-- What is written so far are the whole groups of the bits read so far, and the pending bits of the
accumulator are those left over: the bits that were cut off it are not needed any more. -/
theorem written_of_addAll (htarget : 0 < target)
    (h : addAll source target values .start = some s) :
    s.groups.reverse = cut target (bitString source values) ∧
      bitsOf s.pending s.acc = leftover target (bitString source values) := by
  obtain ⟨ns, rfl, hns, rfl⟩ := addAll_eq_some_iff.mp h
  have hstart : State.start.Holds source target [] := State.holds_start htarget
  have hholds := hstart.foldl hns
  have hstring : bitString source (ns.map Nat.cast) = bits source ns := by
    rw [bitString, List.map_map]
    congr 1
    exact List.map_id' ns
  rw [hstring]
  apply cut_unique
  · simpa using hholds.groups_lt
  · rw [length_bitsOf]
    exact hholds.pending_lt
  · exact hholds.bits_eq

theorem addAll_eq_none_iff : addAll source target values s = none ↔
    ∃ value ∈ values, ¬ (0 ≤ value ∧ value < 2 ^ source) := by
  induction values generalizing s with
  | nil => simp [addAll]
  | cons value rest ih =>
      rw [addAll, Nat.pow_eq, List.exists_mem_cons_iff]
      split
      · rename_i hvalue
        have hfits : 0 ≤ value ∧ value < 2 ^ source := by exact_mod_cast hvalue
        simp only [hfits, not_true_eq_false, false_or, ih, and_self]
      · rename_i hvalue
        simp only [true_iff]
        left
        exact_mod_cast hvalue

theorem length_bitString (source : Nat) (values : List Int) :
    (bitString source values).length = source * values.length := by
  rw [bitString, length_bits, List.length_map]

theorem pending_of_addAll (htarget : 0 < target)
    (h : addAll source target values .start = some s) :
    s.pending = source * values.length % target := by
  have hlength := congrArg List.length (written_of_addAll htarget h).2
  rwa [length_bitsOf, length_leftover, length_bitString] at hlength

theorem lastGroup_eq_ofBits (h : s.pending < target) : s.lastGroup target =
    ofBits (bitsOf s.pending s.acc ++ List.replicate (target - s.pending) false) := by
  rw [← State.bitsOf_lastGroup h, ofBits_bitsOf (s.lastGroup_lt target)]

theorem lastGroup_ne_zero_iff (h : s.pending < target) :
    s.lastGroup target ≠ 0 ↔ true ∈ bitsOf s.pending s.acc := by
  rw [ne_eq, State.lastGroup_eq_zero_iff h, List.eq_replicate_iff]
  simp

theorem regroup?_filled (htarget : 0 < target)
    (h : addAll source target values .start = some s) :
    regroup? source target true values = some (cutFilled target (bitString source values)) := by
  obtain ⟨hgroups, hrest⟩ := written_of_addAll htarget h
  have hpending : s.pending < target := by
    rw [pending_of_addAll htarget h]
    exact Nat.mod_lt _ htarget
  have hlength : (leftover target (bitString source values)).length = s.pending := by
    rw [← hrest, length_bitsOf]
  rw [regroup?, h, cutFilled, ← hgroups, hlength]
  by_cases hzero : s.pending = 0
  · have hnone : leftover target (bitString source values) = [] := by
      rw [← List.length_eq_zero_iff, hlength, hzero]
    simp [hzero, hnone]
  · have hsome : (leftover target (bitString source values)).isEmpty = false := by
      rw [List.isEmpty_eq_false_iff, ← List.length_pos_iff, hlength]
      omega
    simp [hzero, hsome, lastGroup_eq_ofBits hpending, hrest]

theorem regroup?_dropped (htarget : 0 < target)
    (h : addAll source target values .start = some s) :
    regroup? source target false values =
      if source ≤ source * values.length % target ∨
          true ∈ leftover target (bitString source values) then none
      else some (cut target (bitString source values)) := by
  obtain ⟨hgroups, hrest⟩ := written_of_addAll htarget h
  have hpending := pending_of_addAll htarget h
  have hlt : s.pending < target := by
    rw [hpending]
    exact Nat.mod_lt _ htarget
  rw [regroup?, h, ← hpending, ← hrest, ← hgroups]
  simp only [← lastGroup_ne_zero_iff hlt]
  rfl

theorem regroup?_there_and_back (program : Bytes) :
    ∃ groups, regroup? 8 5 true (program.map fun b => (b.toNat : Int)) = some groups ∧
      regroup? 5 8 false (groups.map Nat.cast) = some (program.map UInt8.toNat) := by
  obtain ⟨groups, hgroups, hlt⟩ := Segwit.exists_groups program
  refine ⟨groups, hgroups, ?_⟩
  apply (Segwit.regroup?_back_iff hlt).mpr
  refine ⟨Segwit.lt_of_mem_bytes program, ?_⟩
  rwa [List.map_map]

/-- Regrouping is what its bits say. It fails exactly when a value does not fit, or, without
padding, when the bits left over are as many as a group had before or are not all zeros; otherwise
it gives the groups of the new width. What was cut off the accumulator is missed nowhere: at any
point the groups written and the pending bits are those of the bits read. Five bits a group and no
padding undo eight bits a group and padding. -/
theorem regroup?_cuts (source target : Nat) (pad : Bool) (values : List Int)
    (htarget : 0 < target) :
    (regroup? source target pad values = none ↔
      (∃ value ∈ values, ¬ (0 ≤ value ∧ value < 2 ^ source)) ∨
        pad = false ∧ (source ≤ source * values.length % target ∨
          true ∈ leftover target (bitString source values))) ∧
    (∀ groups, regroup? source target pad values = some groups →
      groups = if pad then cutFilled target (bitString source values)
        else cut target (bitString source values)) ∧
    (∀ s, addAll source target values .start = some s →
      s.groups.reverse = cut target (bitString source values) ∧
        bitsOf s.pending s.acc = leftover target (bitString source values)) ∧
    ∀ program : Bytes, ∃ groups,
      regroup? 8 5 true (program.map fun b => (b.toNat : Int)) = some groups ∧
        regroup? 5 8 false (groups.map Nat.cast) = some (program.map UInt8.toNat) := by
  refine ⟨?_, ?_, fun s hs => written_of_addAll htarget hs, regroup?_there_and_back⟩
  · have hnone : addAll source target values .start = none ↔ _ := addAll_eq_none_iff
    rw [← hnone]
    cases h : addAll source target values .start with
    | none => simp [regroup?, h]
    | some s =>
        cases pad with
        | true => simp [regroup?_filled htarget h]
        | false =>
            rw [regroup?_dropped htarget h, ite_eq_left_iff]
            simp [or_iff_not_imp_left]
  · intro groups hgroups
    cases h : addAll source target values .start with
    | none => simp [regroup?, h] at hgroups
    | some s =>
        cases pad with
        | true =>
            rw [regroup?_filled htarget h, Option.some.injEq] at hgroups
            rw [← hgroups, if_pos rfl]
        | false =>
            rw [regroup?_dropped htarget h] at hgroups
            split at hgroups
            · cases hgroups
            · rw [Option.some.injEq] at hgroups
              rw [← hgroups, if_neg Bool.false_ne_true]

theorem regroup?_cuts_two :
    0 < 5 ∧ regroup? 8 5 true [255, 1] = some [31, 28, 0, 16] ∧
      cutFilled 5 (bitString 8 [255, 1]) = [31, 28, 0, 16] ∧
      regroup? 8 5 false [255, 1] = none := by
  have hfilled : regroup? 8 5 true [255, 1] = some [31, 28, 0, 16] := by decide
  obtain ⟨-, hgroups, -⟩ := regroup?_cuts 8 5 true [255, 1] (by decide)
  obtain ⟨hnone, -⟩ := regroup?_cuts 8 5 false [255, 1] (by decide)
  refine ⟨by decide, hfilled, (hgroups _ hfilled).symm, hnone.mpr (.inr ⟨rfl, .inr ?_⟩)⟩
  decide

end Runs

end BlobInscription.Regroup
