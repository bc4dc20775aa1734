import BlobInscription.Bytes.Lemmas
import BlobInscription.Proofs.Width

namespace BlobInscription.Wire

open Traversal

variable {α β γ : Type}

section Written

variable {width : Nat} {raw : Bytes}

theorem unsigned_eq_ok_iff {n : Int} : unsigned width n = .ok raw ↔
    0 ≤ n ∧ n.toNat < 256 ^ width ∧ raw = Bytes.ofNatLE width n.toNat := by
  constructor
  · intro h
    obtain ⟨hnonneg, hlt⟩ := succeeds_unsigned_iff.mp ⟨raw, h⟩
    rw [unsigned, if_neg (by omega), Nat.pow_eq, if_pos hlt, Except.ok.injEq] at h
    exact ⟨hnonneg, by omega, h.symm⟩
  · rintro ⟨hnonneg, hlt, rfl⟩
    rw [unsigned, if_neg (by omega), Nat.pow_eq, if_pos (by omega)]

theorem signed_eq_ok {n : Int} (h : signed width n = .ok raw) :
    raw.length = width ∧ Bytes.toIntLE raw = n := by
  obtain ⟨hlow, hhigh⟩ := succeeds_signed_iff.mp ⟨raw, h⟩
  simp only [signed, Nat.pow_eq] at h
  rw [if_pos ⟨hlow, hhigh⟩, Except.ok.injEq] at h
  have hpos : (0 : Int) < (256 ^ width : Nat) := by positivity
  have hmod : 0 ≤ n % (256 ^ width : Nat) := Int.emod_nonneg n (by omega)
  have hlt : n % (256 ^ width : Nat) < (256 ^ width : Nat) := Int.emod_lt_of_pos n hpos
  have hlength : raw.length = width := by rw [← h, Bytes.length_ofNatLE]
  have hvalue : (Bytes.toNatLE raw : Int) = n % (256 ^ width : Nat) := by
    rw [← h, Bytes.toNatLE_ofNatLE, Nat.mod_eq_of_lt (by omega), Int.toNat_of_nonneg hmod]
  refine ⟨hlength, ?_⟩
  rw [Bytes.toIntLE, hvalue, hlength, Nat.pow_eq, Int.emod_bmod]
  exact Int.bmod_eq_of_le hlow (by omega)

/-- A compact size is a single byte, or a marker before the least width that holds the number. -/
theorem compactSize_eq_ok {n : Nat} (h : compactSize n = .ok raw) :
    (n < 253 ∧ raw = [UInt8.ofNat n]) ∨
      ∃ first width, 253 ≤ n ∧ n < 256 ^ width ∧ first < 256 ∧ compactWidth? first = some width ∧
        raw = UInt8.ofNat first :: Bytes.ofNatLE width n ∧
        ∀ first' width', compactWidth? first' = some width' → n < 256 ^ width' →
          width ≤ width' := by
  have hwidths : ∀ {first width}, compactWidth? first = some width →
      width = 2 ∨ width = 4 ∨ width = 8 := by
    intro first width hwidth
    simp only [compactWidth?] at hwidth
    split_ifs at hwidth <;> simp_all
  unfold compactSize at h
  split at h
  · cases h
  · split at h
    · rename_i hsmall
      cases h
      exact .inl ⟨by omega, rfl⟩
    · refine .inr ?_
      split at h
      · cases h
        refine ⟨253, 2, by omega, by omega, by decide, rfl, rfl, ?_⟩
        intro first' width' hwidth' hlt
        rcases hwidths hwidth' with rfl | rfl | rfl <;> omega
      · split at h
        · cases h
          refine ⟨254, 4, by omega, by omega, by decide, rfl, rfl, ?_⟩
          intro first' width' hwidth' hlt
          rcases hwidths hwidth' with rfl | rfl | rfl <;> omega
        · obtain ⟨field, hfield, rfl⟩ := map_eq_ok.mp h
          obtain ⟨-, hlt, rfl⟩ := unsigned_eq_ok_iff.mp hfield
          refine ⟨255, 8, by omega, by simpa using hlt, by decide, rfl, rfl, ?_⟩
          intro first' width' hwidth' hlt
          rcases hwidths hwidth' with rfl | rfl | rfl <;> omega

theorem le_of_compactWidth? {first : Nat} (h : compactWidth? first = some width) :
    253 ≤ first := by
  simp only [compactWidth?] at h
  split_ifs at h <;> omega

theorem eq_of_compactSize_cons {n k : Nat} {more : Bytes} (hk : k < 253)
    (h : compactSize n = .ok (UInt8.ofNat k :: more)) : n = k := by
  have hbyte : ∀ first, first < 256 → UInt8.ofNat k = UInt8.ofNat first → first = k := by
    intro first hfirst heq
    have htoNat := congrArg UInt8.toNat heq
    rw [UInt8.toNat_ofNat', UInt8.toNat_ofNat'] at htoNat
    omega
  rcases compactSize_eq_ok h with ⟨hn, hraw⟩ | ⟨first, width, -, -, hfirst, hwidth, hraw, -⟩
  · exact hbyte n (by omega) (List.cons.inj hraw).1
  · have heq := hbyte first hfirst (List.cons.inj hraw).1
    have hlarge := le_of_compactWidth? hwidth
    omega

theorem ne_nil_of_compactSize {n : Nat} (h : compactSize n = .ok raw) : raw ≠ [] := by
  rcases compactSize_eq_ok h with ⟨-, rfl⟩ | ⟨_, _, -, -, -, -, rfl, -⟩
  · exact List.cons_ne_nil _ _
  · exact List.cons_ne_nil _ _

theorem varBytes_eq_ok_iff {bytes : Bytes} : varBytes bytes = .ok raw ↔
    ∃ count, compactSize bytes.length = .ok count ∧ count ++ bytes = raw := by
  rw [varBytes, map_eq_ok]

/-- A list of values behind their number. -/
def listBytes (encode : α → Except WidthError Bytes) (values : List α) :
    Except WidthError Bytes := do
  let count ← compactSize values.length
  let items ← values.mapM encode
  return count ++ items.flatten

theorem listBytes_eq_ok_iff {encode : α → Except WidthError Bytes} {values : List α} :
    listBytes encode values = .ok raw ↔
      ∃ count items, compactSize values.length = .ok count ∧ values.mapM encode = .ok items ∧
        count ++ items.flatten = raw := by
  simp only [listBytes, bind_eq_ok, pure, Except.pure, Except.ok.injEq]
  constructor
  · rintro ⟨count, hcount, items, hitems, hraw⟩
    exact ⟨count, items, hcount, hitems, hraw⟩
  · rintro ⟨count, items, hcount, hitems, hraw⟩
    exact ⟨count, hcount, items, hitems, hraw⟩

theorem succeeds_listBytes_iff {encode : α → Except WidthError Bytes} {values : List α} :
    Succeeds (listBytes encode values) ↔
      values.length < 2 ^ 64 ∧ ∀ value ∈ values, Succeeds (encode value) := by
  rw [← succeeds_count_iff, ← succeeds_mapM]
  simp only [Succeeds, listBytes_eq_ok_iff]
  constructor
  · rintro ⟨_, count, items, hcount, hitems, -⟩
    exact ⟨⟨count, hcount⟩, items, hitems⟩
  · rintro ⟨⟨count, hcount⟩, items, hitems⟩
    exact ⟨_, count, items, hcount, hitems, rfl⟩

end Written

section Reads

/-- In front of any bytes, the reader takes exactly `raw`, for `a`. -/
def Reads (item : Reader α) (raw : Bytes) (a : α) : Prop :=
  ∀ offset rest, item.run ⟨offset, raw ++ rest⟩ = .ok (a, ⟨offset + raw.length, rest⟩)

theorem run_bind_eq_ok {item : Reader α} {next : α → Reader β} {c c' : Cursor} {b : β} :
    (item >>= next).run c = .ok (b, c') ↔
      ∃ a c₁, item.run c = .ok (a, c₁) ∧ (next a).run c₁ = .ok (b, c') := by
  rw [StateT.run_bind, bind_eq_ok, Prod.exists]

variable {item : Reader α} {next : α → Reader β} {raw more : Bytes} {a : α} {b : β}

theorem Reads.pure (a : α) : Reads (pure a) [] a := by
  intro offset rest
  rfl

theorem Reads.run_bind (hitem : Reads item raw a) (offset : Nat) (rest : Bytes) :
    (item >>= next).run ⟨offset, raw ++ rest⟩ = (next a).run ⟨offset + raw.length, rest⟩ := by
  rw [StateT.run_bind, hitem offset rest]
  rfl

theorem Reads.bind (hitem : Reads item raw a) (hnext : Reads (next a) more b) :
    Reads (item >>= next) (raw ++ more) b := by
  intro offset rest
  rw [List.append_assoc, hitem.run_bind, hnext, List.length_append, Nat.add_assoc]

/-- Of two texts in a row, the first is where the reader stops. -/
theorem Reads.append_inj {raw' rest rest' : Bytes} {a' : α} (h : Reads item raw a)
    (h' : Reads item raw' a') (heq : raw ++ rest = raw' ++ rest') : a = a' ∧ rest = rest' := by
  have hrun := h 0 rest
  rw [heq, h' 0 rest', Except.ok.injEq, Prod.mk.injEq, Cursor.mk.injEq] at hrun
  exact ⟨hrun.1.symm, hrun.2.2.symm⟩

theorem Reads.map {f : α → β} (hitem : Reads item raw a) :
    Reads (item >>= fun x => Pure.pure (f x)) raw (f a) := by
  have hbind : Reads (item >>= fun x => Pure.pure (f x)) (raw ++ []) (f a) :=
    hitem.bind (.pure (f a))
  rwa [List.append_nil] at hbind

theorem exists_run_of_readAll {what : String} (h : readAll what item raw = .ok a) :
    ∃ c, item.run (Cursor.start raw) = .ok (a, c) := by
  obtain ⟨⟨value, c⟩, hrun, hend⟩ := bind_eq_ok.mp h
  dsimp only at hend
  split at hend
  · cases hend
    exact ⟨c, hrun⟩
  · cases hend

theorem Reads.readAll_eq_ok {what : String} (hitem : Reads item raw a) :
    readAll what item raw = .ok a := by
  have hrun := hitem 0 []
  rw [List.append_nil] at hrun
  simp only [readAll, Cursor.start, hrun]
  rfl

theorem Reads.readAll_append {what : String} (hitem : Reads item raw a) (hmore : more ≠ []) :
    readAll what item (raw ++ more) = .error (.trailing what) := by
  obtain ⟨b, rest, rfl⟩ := List.exists_cons_of_ne_nil hmore
  simp only [readAll, Cursor.start, hitem 0 (b :: rest)]
  rfl

theorem reads_read (raw : Bytes) : Reads (read raw.length) raw raw := by
  intro offset rest
  have htake : (raw ++ rest).take raw.length = raw := List.take_left
  have hdrop : (raw ++ rest).drop raw.length = rest := List.drop_left
  change read raw.length ⟨offset, raw ++ rest⟩ = _
  simp only [read, htake, hdrop, lt_self_iff_false, if_false]

theorem reads_read_of_length {size : Nat} (h : raw.length = size) : Reads (read size) raw raw := by
  subst h
  exact reads_read raw

theorem reads_readUnsigned {width : Nat} {n : Int} (h : unsigned width n = .ok raw) :
    Reads (readUnsigned width) raw n.toNat := by
  obtain ⟨-, hlt, hraw⟩ := unsigned_eq_ok_iff.mp h
  have hlength : raw.length = width := by rw [hraw, Bytes.length_ofNatLE]
  have hvalue : Bytes.toNatLE raw = n.toNat := by
    rw [hraw, Bytes.toNatLE_ofNatLE, Nat.mod_eq_of_lt hlt]
  rw [← hvalue]
  exact (reads_read_of_length hlength).map

theorem reads_readSigned {width : Nat} {n : Int} (h : signed width n = .ok raw) :
    Reads (readSigned width) raw n := by
  obtain ⟨hlength, hvalue⟩ := signed_eq_ok h
  rw [← hvalue]
  exact (reads_read_of_length hlength).map

theorem reads_readCompactSize {n : Nat} (h : compactSize n = .ok raw) :
    Reads readCompactSize raw n := by
  have hfirst : ∀ first, first < 256 → Reads (readUnsigned 1) [UInt8.ofNat first] first := by
    intro first hfirst
    have hbyte : (UInt8.ofNat first).toNat = first := by
      rw [UInt8.toNat_ofNat', Nat.mod_eq_of_lt hfirst]
    have hread : Reads (read 1) [UInt8.ofNat first] [UInt8.ofNat first] :=
      reads_read_of_length rfl
    have hvalue : Reads (readUnsigned 1) [UInt8.ofNat first]
        (Bytes.toNatLE [UInt8.ofNat first]) := hread.map
    rwa [Bytes.toNatLE, hbyte] at hvalue
  rcases compactSize_eq_ok h with ⟨hn, rfl⟩ | ⟨first, width, -, hn, hlt, hwidth, rfl, -⟩
  · show Reads readCompactSize ([UInt8.ofNat n] ++ []) n
    refine (hfirst n (by omega)).bind ?_
    have hnone : compactWidth? n = none := by
      simp only [compactWidth?]
      rw [if_neg (by omega), if_neg (by omega), if_neg (by omega)]
    rw [hnone]
    exact .pure n
  · show Reads readCompactSize ([UInt8.ofNat first] ++ Bytes.ofNatLE width n) n
    refine (hfirst first hlt).bind ?_
    rw [hwidth]
    exact reads_readUnsigned (unsigned_eq_ok_iff.mpr ⟨Int.natCast_nonneg n, hn, rfl⟩)

theorem reads_readVarBytes {bytes : Bytes} (h : varBytes bytes = .ok raw) :
    Reads readVarBytes raw bytes := by
  obtain ⟨count, hcount, rfl⟩ := varBytes_eq_ok_iff.mp h
  exact (reads_readCompactSize hcount).bind (reads_read bytes)

theorem reads_readManyOnto {items : List Bytes} {values : List α} (done : List α)
    (h : List.Forall₂ (Reads item) items values) :
    Reads (readManyOnto item values.length done) items.flatten (done.reverse ++ values) := by
  -- The values read so far are kept in reverse.
  induction h generalizing done with
  | nil =>
      rw [List.append_nil]
      exact .pure done.reverse
  | @cons raw value items values hvalue _ ih =>
      refine hvalue.bind ?_
      have hrest := ih (value :: done)
      rwa [List.reverse_cons, List.append_assoc] at hrest

/-- A list is read back value by value; what is read may be only a part `f` of each value. -/
theorem reads_readList {values : List γ} {f : γ → α} {encode : γ → Except WidthError Bytes}
    (hitem : ∀ value ∈ values, ∀ raw, encode value = .ok raw → Reads item raw (f value))
    (h : listBytes encode values = .ok raw) : Reads (readList item) raw (values.map f) := by
  obtain ⟨count, items, hcount, hitems, rfl⟩ := listBytes_eq_ok_iff.mp h
  obtain ⟨hlength, hzip⟩ := List.forall₂_iff_zip.mp (mapM_eq_ok_iff.mp hitems)
  have hread : List.Forall₂ (Reads item) items (values.map f) := by
    rw [List.forall₂_map_right_iff]
    refine (List.forall₂_iff_zip.mpr ⟨hlength, ?_⟩).flip
    intro value raw hmem
    exact hitem value (List.of_mem_zip hmem).1 raw (hzip hmem)
  have hmany := reads_readManyOnto [] hread
  rw [List.length_map] at hmany
  exact (reads_readCompactSize hcount).bind hmany

end Reads

section Thrifty

/-- No value is read from fewer bytes than it is written in. -/
def Thrifty (item : Reader α) (encode : α → Except WidthError Bytes) : Prop :=
  ∀ {c c' : Cursor} {a : α} {raw : Bytes}, item.run c = .ok (a, c') → encode a = .ok raw →
    c'.rest.length + raw.length ≤ c.rest.length

variable {item : Reader α} {encode : α → Except WidthError Bytes} {c c' : Cursor}

theorem run_read_eq_ok {size : Nat} {chunk : Bytes} (h : (read size).run c = .ok (chunk, c')) :
    c.rest = chunk ++ c'.rest ∧ chunk.length = size := by
  change read size c = _ at h
  simp only [read] at h
  split at h
  · cases h
  · rename_i hsize
    cases h
    refine ⟨(List.take_append_drop size c.rest).symm, ?_⟩
    have hle : (c.rest.take size).length ≤ size := List.length_take_le _ _
    omega

theorem run_map_eq_ok {f : α → β} {b : β}
    (h : (item >>= fun x => Pure.pure (f x)).run c = .ok (b, c')) :
    ∃ a, item.run c = .ok (a, c') ∧ f a = b := by
  obtain ⟨a, c₁, hitem, hpure⟩ := run_bind_eq_ok.mp h
  cases hpure
  exact ⟨a, hitem, rfl⟩

theorem run_readUnsigned_eq_ok {width n : Nat}
    (h : (readUnsigned width).run c = .ok (n, c')) :
    c'.rest.length + width = c.rest.length ∧ n < 256 ^ width := by
  obtain ⟨chunk, hread, rfl⟩ := run_map_eq_ok h
  obtain ⟨hrest, hlength⟩ := run_read_eq_ok hread
  have hlt := Bytes.toNatLE_lt chunk
  rw [hlength] at hlt
  refine ⟨?_, hlt⟩
  rw [hrest, List.length_append, hlength, Nat.add_comm]

theorem thrifty_readCompactSize : Thrifty readCompactSize fun n : Nat => compactSize n := by
  intro c c' n raw hrun hraw
  obtain ⟨first, c₁, hfirst, hsize⟩ := run_bind_eq_ok.mp hrun
  obtain ⟨hone, hbyte⟩ := run_readUnsigned_eq_ok hfirst
  have hshape := compactSize_eq_ok hraw
  split at hsize
  · rename_i hnone
    cases hsize
    have hsmall : n < 253 := by
      simp only [compactWidth?] at hnone
      split_ifs at hnone
      omega
    rcases hshape with ⟨-, rfl⟩ | ⟨_, _, hlarge, -⟩
    · rw [List.length_singleton]
      omega
    · omega
  · rename_i width hwidth
    obtain ⟨hfield, hlt⟩ := run_readUnsigned_eq_ok hsize
    rcases hshape with ⟨-, rfl⟩ | ⟨_, least, -, -, -, -, rfl, hleast⟩
    · rw [List.length_singleton]
      omega
    · have hle := hleast first width hwidth hlt
      rw [List.length_cons, Bytes.length_ofNatLE]
      omega

theorem thrifty_readVarBytes : Thrifty readVarBytes varBytes := by
  intro c c' bytes raw hrun hraw
  obtain ⟨size, c₁, hsize, hread⟩ := run_bind_eq_ok.mp hrun
  obtain ⟨hrest, rfl⟩ := run_read_eq_ok hread
  obtain ⟨count, hcount, rfl⟩ := varBytes_eq_ok_iff.mp hraw
  have hle := thrifty_readCompactSize hsize hcount
  rw [hrest] at hle
  simp only [List.length_append] at hle ⊢
  omega

theorem exists_of_run_readManyOnto (hitem : Thrifty item encode) {count : Nat}
    {done values : List α} (h : (readManyOnto item count done).run c = .ok (values, c')) :
    ∃ more, values = done.reverse ++ more ∧ more.length = count ∧
      ∀ items, more.mapM encode = .ok items →
        c'.rest.length + items.flatten.length ≤ c.rest.length := by
  induction count generalizing c done with
  | zero =>
      cases h
      refine ⟨[], (List.append_nil _).symm, rfl, ?_⟩
      intro items hitems
      cases hitems
      simp
  | succ count ih =>
      obtain ⟨value, c₁, hvalue, hrest⟩ := run_bind_eq_ok.mp h
      obtain ⟨more, rfl, hcount, hbytes⟩ := ih hrest
      refine ⟨value :: more, by simp, by simp [hcount], ?_⟩
      intro items hitems
      cases mapM_eq_ok_iff.mp hitems with
      | @cons _ raw _ items hraw hmore =>
          have hfirst := hitem hvalue hraw
          have hlater := hbytes items (mapM_eq_ok_iff.mpr hmore)
          rw [List.flatten_cons, List.length_append]
          omega

theorem thrifty_readList (hitem : Thrifty item encode) :
    Thrifty (readList item) (listBytes encode) := by
  intro c c' values raw hrun hraw
  obtain ⟨count, c₁, hcount, hmany⟩ := run_bind_eq_ok.mp hrun
  obtain ⟨more, hvalues, rfl, hbytes⟩ := exists_of_run_readManyOnto hitem hmany
  rw [List.reverse_nil, List.nil_append] at hvalues
  subst hvalues
  obtain ⟨size, items, hsize, hitems, rfl⟩ := listBytes_eq_ok_iff.mp hraw
  have hfirst := thrifty_readCompactSize hcount hsize
  have hlater := hbytes items hitems
  rw [List.length_append]
  omega

end Thrifty

end BlobInscription.Wire
