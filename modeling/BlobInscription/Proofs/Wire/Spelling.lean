import BlobInscription.Proofs.Wire.Ranges
import BlobInscription.Proofs.Wire.Record

namespace BlobInscription.Wire

open Traversal

variable {α : Type}

/-- A compact size is spelled as it is written. -/
def Entry.Shortest : Entry → Prop
  | .size n spelled => compactSize n = .ok spelled
  | .element => True

instance : (entry : Entry) → Decidable entry.Shortest
  | .size n spelled => inferInstanceAs (Decidable (compactSize n = .ok spelled))
  | .element => .isTrue trivial

/-- Written again, what was read from `raw` is `raw` when the sizes on the record have their
shortest forms, and shorter otherwise. -/
structure Condenses (entries : List Entry) (raw own : Bytes) : Prop where
  same : (∀ entry ∈ entries, entry.Shortest) → own = raw
  shorter : ¬ (∀ entry ∈ entries, entry.Shortest) → own.length < raw.length

section Condenses

variable {entries later : List Entry} {raw own raw' own' : Bytes}

theorem condenses_refl (raw : Bytes) : Condenses [] raw raw where
  same _ := rfl
  shorter h := absurd (by simp) h

theorem Condenses.length_le (h : Condenses entries raw own) : own.length ≤ raw.length := by
  by_cases hshortest : ∀ entry ∈ entries, entry.Shortest
  · rw [h.same hshortest]
  · exact (h.shorter hshortest).le

theorem Condenses.eq_iff (h : Condenses entries raw own) :
    own = raw ↔ ∀ entry ∈ entries, entry.Shortest := by
  constructor
  · rintro rfl
    by_contra hlong
    exact absurd (h.shorter hlong) (lt_irrefl _)
  · exact h.same

theorem Condenses.append (h : Condenses entries raw own) (h' : Condenses later raw' own') :
    Condenses (entries ++ later) (raw ++ raw') (own ++ own') where
  same hall := by
    obtain ⟨hfirst, hlater⟩ := List.forall_mem_append.mp hall
    rw [h.same hfirst, h'.same hlater]
  shorter hsome := by
    rw [List.forall_mem_append, not_and_or] at hsome
    have hle := h.length_le
    have hle' := h'.length_le
    rw [List.length_append, List.length_append]
    rcases hsome with hfirst | hlater
    · have hlt := h.shorter hfirst
      omega
    · have hlt := h'.shorter hlater
      omega

end Condenses

section CompactSize

variable {raw own : Bytes} {n first first' width : Nat}

theorem compactWidth?_injective (h : compactWidth? first = some width)
    (h' : compactWidth? first' = some width) : first = first' := by
  simp only [compactWidth?] at h h'
  split_ifs at h <;> split_ifs at h' <;> simp only [Option.some.injEq] at h h' <;> omega

theorem pos_of_compactWidth? (h : compactWidth? first = some width) : 0 < width := by
  simp only [compactWidth?] at h
  split_ifs at h <;> simp only [Option.some.injEq] at h <;> omega

theorem spelled_of_reads (h : Reads readCompactSize raw n) :
    (n < 253 ∧ raw = [UInt8.ofNat n]) ∨
      ∃ first width, compactWidth? first = some width ∧ n < 256 ^ width ∧
        raw = UInt8.ofNat first :: Bytes.ofNatLE width n := by
  have hrun := h 0 []
  rw [List.append_nil] at hrun
  obtain ⟨first, c₁, hfirst, hsize⟩ := run_bind_eq_ok.mp hrun
  obtain ⟨chunk, hchunk, rfl⟩ := run_map_eq_ok hfirst
  obtain ⟨hrest, hone⟩ := run_read_eq_ok hchunk
  obtain ⟨b, rfl⟩ := List.length_eq_one_iff.mp hone
  have hvalue : Bytes.toNatLE [b] = b.toNat := Nat.add_zero _
  have hbyte : UInt8.ofNat b.toNat = b := UInt8.ofNat_toNat
  rw [hvalue] at hsize
  change raw = [b] ++ c₁.rest at hrest
  split at hsize
  · rename_i hnone
    cases hsize
    refine .inl ⟨?_, ?_⟩
    · simp only [compactWidth?] at hnone
      split_ifs at hnone
      have hlt : b.toNat < 256 := b.toNat_lt
      omega
    · rw [hbyte, hrest, List.append_nil]
  · rename_i width hwidth
    obtain ⟨field, hfield, rfl⟩ := run_map_eq_ok hsize
    obtain ⟨hmore, hlength⟩ := run_read_eq_ok hfield
    refine .inr ⟨b.toNat, width, hwidth, ?_, ?_⟩
    · have hlt := Bytes.toNatLE_lt field
      rwa [hlength] at hlt
    · rw [hbyte, hrest, hmore, List.append_nil, ← hlength, Bytes.ofNatLE_toNatLE]
      rfl

theorem condenses_of_reads (h : Reads readCompactSize raw n) :
    ∃ own, compactSize n = .ok own ∧ Condenses [.size n raw] raw own := by
  have hrun := h 0 []
  rw [List.append_nil] at hrun
  have hsucceeds : Succeeds (compactSize n) := succeeds_count_iff.mpr (yields_readCompactSize hrun)
  obtain ⟨own, hown⟩ := hsucceeds
  have hentries : (∀ entry ∈ [Entry.size n raw], entry.Shortest) ↔ own = raw := by
    rw [List.forall_mem_singleton, Entry.Shortest, hown, Except.ok.injEq]
  refine ⟨own, hown, hentries.mp, ?_⟩
  rw [hentries]
  intro hne
  -- of two wide forms, the one that is written is not the wider
  rcases spelled_of_reads h with ⟨hsmall, rfl⟩ | ⟨first, width, hwidth, hlt, rfl⟩
  · rcases compactSize_eq_ok hown with ⟨-, rfl⟩ | ⟨_, _, hlarge, -⟩
    · exact absurd rfl hne
    · omega
  · rcases compactSize_eq_ok hown with ⟨-, rfl⟩ | ⟨first', least, -, -, -, hleast, rfl, hmin⟩
    · have hpos := pos_of_compactWidth? hwidth
      rw [List.length_singleton, List.length_cons, Bytes.length_ofNatLE]
      omega
    · have hle := hmin first width hwidth hlt
      have hdiffer : least ≠ width := by
        rintro rfl
        exact hne (by rw [compactWidth?_injective hleast hwidth])
      rw [List.length_cons, List.length_cons, Bytes.length_ofNatLE, Bytes.length_ofNatLE]
      omega

theorem eq_or_length_lt_of_run_readCompactSize {c c' : Cursor} (hraw : compactSize n = .ok raw)
    (hrun : readCompactSize.run c = .ok (n, c')) :
    c.rest = raw ++ c'.rest ∨ raw.length + c'.rest.length < c.rest.length := by
  obtain ⟨spelled, rest, -, hrest, rfl, hreads⟩ := takes_readCompactSize.taken hrun
  obtain ⟨own, hown, hcondenses⟩ := condenses_of_reads hreads
  obtain rfl : own = raw := Except.ok.inj (hown.symm.trans hraw)
  by_cases hsame : own = spelled
  · rw [hrest, hsame]
    exact .inl rfl
  · have hlt := hcondenses.shorter fun hall => hsame (hcondenses.same hall)
    rw [hrest, List.length_append]
    exact .inr (Nat.add_lt_add_right hlt _)

theorem compactSize_of_neg {n : Int} (h : n < 0) : compactSize n = .error .negativeSize :=
  if_pos h

theorem compactSize_of_large {n : Int} (h : 2 ^ 64 ≤ n) : compactSize n = .error .tooLarge := by
  have hwidth : ¬ n < (Nat.pow 256 8 : Nat) := by
    rw [Nat.pow_eq]
    omega
  rw [compactSize, if_neg (by omega), if_neg (by omega), if_neg (by omega), if_neg (by omega),
    unsigned, if_neg (by omega), if_neg hwidth]
  rfl

/-- Every number of 64 bits is written in the one shortest way to spell it, and read back from there
whatever follows. No other number is written. -/
theorem compactSize_shortest :
    (∀ n : Nat, n < 2 ^ 64 → ∃ raw, compactSize n = .ok raw ∧
      (∀ offset rest, readCompactSize.run ⟨offset, raw ++ rest⟩ =
        .ok (n, ⟨offset + raw.length, rest⟩)) ∧
      ∀ c c', readCompactSize.run c = .ok (n, c') →
        c.rest = raw ++ c'.rest ∨ raw.length + c'.rest.length < c.rest.length) ∧
    ∀ n : Int, (n < 0 → compactSize n = .error .negativeSize) ∧
      (2 ^ 64 ≤ n → compactSize n = .error .tooLarge) := by
  constructor
  · intro n hn
    obtain ⟨raw, hraw⟩ := succeeds_count_iff.mpr hn
    exact ⟨raw, hraw, reads_readCompactSize hraw,
      fun c c' => eq_or_length_lt_of_run_readCompactSize hraw⟩
  · intro n
    exact ⟨compactSize_of_neg, compactSize_of_large⟩

theorem compactSize_shortest_253 :
    253 < 2 ^ 64 ∧ compactSize 253 = .ok [253, 253, 0] ∧
      readCompactSize.run ⟨0, [253, 253, 0, 7]⟩ = .ok (253, ⟨3, [7]⟩) ∧
      readCompactSize.run ⟨0, [254, 253, 0, 0, 0, 7]⟩ = .ok (253, ⟨5, [7]⟩) ∧
      [253, 253, 0].length + 1 < [254, 253, 0, 0, 0, 7].length ∧
      compactSize (-1) = .error .negativeSize ∧ compactSize (2 ^ 64) = .error .tooLarge := by
  have hwritten : compactSize 253 = .ok [253, 253, 0] := by decide
  have hlong : readCompactSize.run ⟨0, [254, 253, 0, 0, 0, 7]⟩ = .ok (253, ⟨5, [7]⟩) := rfl
  obtain ⟨raw, hraw, hread, hshortest⟩ := compactSize_shortest.1 253 (by decide)
  obtain rfl : [253, 253, 0] = raw := Except.ok.inj (hwritten.symm.trans hraw)
  have hshorter := (hshortest _ _ hlong).resolve_left (by decide)
  exact ⟨by decide, hwritten, hread 0 [7], hlong, hshorter,
    (compactSize_shortest.2 (-1)).1 (by decide), (compactSize_shortest.2 (2 ^ 64)).2 (by decide)⟩

end CompactSize

section Fields

variable {c c' : Cursor} {width : Nat}

theorem exists_of_run_readUnsigned {n : Nat} (h : (readUnsigned width).run c = .ok (n, c')) :
    ∃ raw, c.rest = raw ++ c'.rest ∧ unsigned width n = .ok raw := by
  obtain ⟨raw, hread, rfl⟩ := run_map_eq_ok h
  obtain ⟨hrest, rfl⟩ := run_read_eq_ok hread
  refine ⟨raw, hrest, unsigned_eq_ok_iff.mpr ⟨Int.natCast_nonneg _, Bytes.toNatLE_lt raw, ?_⟩⟩
  rw [Int.toNat_natCast, Bytes.ofNatLE_toNatLE]

theorem exists_of_run_readSigned {n : Int}
    (h : (readSigned (width + 1)).run c = .ok (n, c')) :
    ∃ raw, c.rest = raw ++ c'.rest ∧ signed (width + 1) n = .ok raw := by
  have hrange := yields_readSigned width h
  obtain ⟨raw, hread, rfl⟩ := run_map_eq_ok h
  obtain ⟨hrest, hlength⟩ := run_read_eq_ok hread
  refine ⟨raw, hrest, ?_⟩
  have hlt := Bytes.toNatLE_lt raw
  have hvalue : Bytes.toIntLE raw % (256 ^ (width + 1) : Nat) = (Bytes.toNatLE raw : Int) := by
    rw [Bytes.toIntLE, hlength, Nat.pow_eq, Int.bmod_emod]
    rw [hlength] at hlt
    exact Int.emod_eq_of_lt (Int.natCast_nonneg _) (by omega)
  simp only [signed, Nat.pow_eq]
  rw [if_pos hrange, hvalue, Int.toNat_natCast, ← hlength, Bytes.ofNatLE_toNatLE]

end Fields

namespace Recorder

/-- Of a reading that succeeds, the value can be written, and condenses what it was read from. -/
def Writes (r : Recorder α) (encode : α → Except WidthError Bytes) : Prop :=
  ∀ {c c' : Cursor} {a : α} {entries : List Entry}, r c = (.ok (a, c'), entries) →
    ∃ raw own, c.rest = raw ++ c'.rest ∧ encode a = .ok own ∧ Condenses entries raw own

variable {r : Recorder α} {encode : α → Except WidthError Bytes} {c c' : Cursor}
  {entries : List Entry}

theorem writes_compactSize : Writes compactSize fun n : Nat => Wire.compactSize n := by
  intro c c' n entries hrun
  simp only [compactSize] at hrun
  split at hrun
  · rename_i hread
    cases hrun
    obtain ⟨raw, rest, -, hrest, rfl, hreads⟩ := takes_readCompactSize.taken hread
    obtain ⟨own, hown, hcondenses⟩ := condenses_of_reads hreads
    refine ⟨raw, own, hrest, hown, ?_⟩
    dsimp only
    rwa [hrest, Nat.add_sub_cancel_left, List.take_left]
  · cases hrun

theorem writes_varBytes : Writes varBytes Wire.varBytes := by
  intro c c' bytes entries hrun
  obtain ⟨size, c₁, first, later, hsize, hread, rfl⟩ := bind_eq_ok.mp hrun
  obtain ⟨raw, own, hrest, hown, hcondenses⟩ := writes_compactSize hsize
  obtain ⟨hbytes, hentries⟩ := Prod.mk.inj hread
  obtain ⟨hmore, hlength⟩ := run_read_eq_ok hbytes
  subst hlength
  refine ⟨raw ++ bytes, own ++ bytes, ?_, ?_, ?_⟩
  · rw [hrest, hmore, List.append_assoc]
  · exact varBytes_eq_ok_iff.mpr ⟨own, hown, rfl⟩
  · rw [← hentries]
    exact hcondenses.append (condenses_refl bytes)

theorem Writes.manyOnto (h : Writes r encode) {count : Nat} {done values : List α}
    (hrun : r.manyOnto count done c = (.ok (values, c'), entries)) :
    ∃ more raw items, values = done.reverse ++ more ∧ more.length = count ∧
      c.rest = raw ++ c'.rest ∧ more.mapM encode = .ok items ∧
      Condenses entries raw items.flatten := by
  induction count generalizing c done entries with
  | zero =>
      cases hrun
      exact ⟨[], [], [], (List.append_nil _).symm, rfl, rfl, rfl, condenses_refl []⟩
  | succ count ih =>
      obtain ⟨value, c₁, first, _, hvalue, hlater, rfl⟩ := bind_eq_ok.mp hrun
      obtain ⟨_, _, _, behind, hnote, hbehind, rfl⟩ := bind_eq_ok.mp hlater
      cases hnote
      obtain ⟨raw, own, hrest, hown, hcondenses⟩ := h hvalue
      obtain ⟨more, raw', items, rfl, rfl, hrest', hitems, hcondenses'⟩ := ih hbehind
      refine ⟨value :: more, raw ++ raw', own :: items, by simp, rfl, ?_, ?_, ?_⟩
      · rw [hrest, hrest', List.append_assoc]
      · exact mapM_eq_ok_iff.mpr (.cons hown (mapM_eq_ok_iff.mp hitems))
      · have hnoted : Condenses ([.element] ++ behind) ([] ++ raw') ([] ++ items.flatten) :=
          Condenses.append ⟨fun _ => rfl, fun hno => absurd (by simp [Entry.Shortest]) hno⟩
            hcondenses'
        exact hcondenses.append hnoted

theorem Writes.list (h : Writes r encode) : Writes r.list (listBytes encode) := by
  intro c c' values entries hrun
  obtain ⟨count, c₁, first, later, hcount, hmany, rfl⟩ := bind_eq_ok.mp hrun
  obtain ⟨raw, own, hrest, hown, hcondenses⟩ := writes_compactSize hcount
  obtain ⟨more, raw', items, rfl, rfl, hrest', hitems, hcondenses'⟩ := h.manyOnto hmany
  refine ⟨raw ++ raw', own ++ items.flatten, ?_, ?_, hcondenses.append hcondenses'⟩
  · rw [hrest, hrest', List.append_assoc]
  · exact listBytes_eq_ok_iff.mpr ⟨own, items, hown, hitems, rfl⟩

end Recorder

end BlobInscription.Wire
