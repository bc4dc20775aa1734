import BlobInscription.Proofs.Wire.Reading

/-!
How far a reader goes. A reader takes a beginning of what is left, the same whatever lies behind it,
or else it wants more bytes than there are. So a string that is one value to its end is no value any
more when bytes are missing from it or added to it.
-/

namespace BlobInscription.Wire

variable {α β : Type}

/-- Where the data end. -/
def Cursor.stop (c : Cursor) : Nat :=
  c.offset + c.rest.length

/-- The same place with bytes behind the data. -/
def Cursor.extend (c : Cursor) (behind : Bytes) : Cursor :=
  ⟨c.offset, c.rest ++ behind⟩

@[simp] theorem Cursor.extend_nil (c : Cursor) : c.extend [] = c := by
  rw [Cursor.extend, List.append_nil]

/-- The error of a read within the data that reaches beyond their end. -/
def Lacks (c : Cursor) (e : ReadError) : Prop :=
  ∃ (wanted : Int) (offset : Nat),
    e = .truncated wanted offset ∧ offset ≤ c.stop ∧ (c.stop : Int) < offset + wanted

/-- The reader takes a beginning of what is left, of at least `least` bytes and whatever follows, or
it lacks bytes. -/
structure Takes (least : Nat) (item : Reader α) : Prop where
  taken : ∀ {c c' : Cursor} {a : α}, item.run c = .ok (a, c') →
    ∃ raw rest, least ≤ raw.length ∧ c.rest = raw ++ rest ∧
      c' = ⟨c.offset + raw.length, rest⟩ ∧ Reads item raw a
  lacking : ∀ {c : Cursor} {e : ReadError}, item.run c = .error e → Lacks c e

theorem run_bind_eq_error {item : Reader α} {next : α → Reader β} {c : Cursor} {e : ReadError} :
    (item >>= next).run c = .error e ↔
      item.run c = .error e ∨ ∃ a c', item.run c = .ok (a, c') ∧ (next a).run c' = .error e := by
  rw [StateT.run_bind]
  cases item.run c with
  | error e' => simp [bind, Except.bind]
  | ok result =>
      obtain ⟨a, c'⟩ := result
      simp [bind, Except.bind]

section Takes

variable {least more : Nat} {item : Reader α} {next : α → Reader β} {c c' : Cursor} {a : α}

theorem Takes.mono (h : Takes more item) (hle : least ≤ more) : Takes least item where
  taken hrun := by
    obtain ⟨raw, rest, hmore, hsplit⟩ := h.taken hrun
    exact ⟨raw, rest, hle.trans hmore, hsplit⟩
  lacking := h.lacking

theorem Takes.stop_eq (h : Takes least item) (hrun : item.run c = .ok (a, c')) :
    c'.stop = c.stop := by
  obtain ⟨raw, rest, -, hrest, rfl, -⟩ := h.taken hrun
  rw [Cursor.stop, Cursor.stop, hrest, List.length_append, Nat.add_assoc]

theorem Takes.length_le (h : Takes least item) (hrun : item.run c = .ok (a, c')) :
    least + c'.rest.length ≤ c.rest.length := by
  obtain ⟨raw, rest, hleast, hrest, rfl, -⟩ := h.taken hrun
  rw [hrest, List.length_append]
  exact Nat.add_le_add_right hleast _

theorem Takes.run_extend (h : Takes least item) (behind : Bytes)
    (hrun : item.run c = .ok (a, c')) :
    item.run (c.extend behind) = .ok (a, c'.extend behind) := by
  obtain ⟨raw, rest, -, hrest, rfl, hreads⟩ := h.taken hrun
  rw [Cursor.extend, hrest, List.append_assoc]
  exact hreads c.offset (rest ++ behind)

theorem Takes.offset_le (h : Takes least item) (hrun : item.run c = .ok (a, c')) :
    c'.offset - c.offset ≤ c.rest.length := by
  obtain ⟨raw, rest, -, hrest, rfl, -⟩ := h.taken hrun
  rw [hrest, List.length_append, Nat.add_sub_cancel_left]
  exact Nat.le_add_right _ _

theorem takes_pure (a : α) : Takes 0 (pure a : Reader α) where
  taken hrun := by
    cases hrun
    exact ⟨[], _, Nat.le_refl 0, rfl, rfl, .pure a⟩
  lacking hrun := by cases hrun

theorem Takes.bind (hitem : Takes least item) (hnext : ∀ a, Takes more (next a)) :
    Takes (least + more) (item >>= next) where
  taken hrun := by
    obtain ⟨a, c₁, hfirst, hsecond⟩ := run_bind_eq_ok.mp hrun
    obtain ⟨raw, rest, hleast, hrest, rfl, hreads⟩ := hitem.taken hfirst
    obtain ⟨raw', rest', hmore, rfl, rfl, hreads'⟩ := (hnext a).taken hsecond
    refine ⟨raw ++ raw', rest', ?_, ?_, ?_, hreads.bind hreads'⟩
    · rw [List.length_append]
      exact Nat.add_le_add hleast hmore
    · rw [hrest, List.append_assoc]
    · rw [List.length_append, Nat.add_assoc]
  lacking hrun := by
    rcases run_bind_eq_error.mp hrun with hfirst | ⟨a, c₁, hfirst, hsecond⟩
    · exact hitem.lacking hfirst
    · obtain ⟨wanted, offset, rfl, hoffset, hwanted⟩ := (hnext a).lacking hsecond
      rw [hitem.stop_eq hfirst] at hoffset hwanted
      exact ⟨wanted, offset, rfl, hoffset, hwanted⟩

theorem Takes.map {f : α → β} (hitem : Takes least item) :
    Takes least (item >>= fun x => pure (f x)) :=
  hitem.bind fun x => takes_pure (f x)

theorem takes_read (size : Nat) : Takes size (read size) where
  taken {c c' chunk} hrun := by
    obtain ⟨hrest, hlength⟩ := run_read_eq_ok hrun
    have hreads := reads_read_of_length hlength
    have hend := hreads c.offset c'.rest
    rw [← hrest, hrun, Except.ok.injEq, Prod.mk.injEq] at hend
    exact ⟨chunk, c'.rest, hlength.ge, hrest, hend.2, hreads⟩
  lacking {c e} hrun := by
    change read size c = _ at hrun
    simp only [read] at hrun
    split at hrun
    · rename_i hshort
      cases hrun
      rw [List.length_take] at hshort
      refine ⟨size, c.offset, rfl, Nat.le_add_right _ _, ?_⟩
      rw [Cursor.stop]
      omega
    · cases hrun

theorem takes_readUnsigned (width : Nat) : Takes width (readUnsigned width) :=
  (takes_read width).map

theorem takes_readSigned (width : Nat) : Takes width (readSigned width) :=
  (takes_read width).map

theorem takes_readCompactSize : Takes 1 readCompactSize := by
  show Takes (1 + 0) readCompactSize
  apply (takes_readUnsigned 1).bind
  intro first
  split
  · exact takes_pure first
  · exact (takes_readUnsigned _).mono (Nat.zero_le _)

theorem takes_readVarBytes : Takes 1 readVarBytes :=
  takes_readCompactSize.bind fun size => (takes_read size).mono (Nat.zero_le _)

theorem takes_readManyOnto (hitem : Takes least item) (count : Nat) (done : List α) :
    Takes 0 (readManyOnto item count done) := by
  induction count generalizing done with
  | zero => exact takes_pure done.reverse
  | succ count ih =>
      have hall : Takes (least + 0) (readManyOnto item (count + 1) done) :=
        hitem.bind fun value => ih (value :: done)
      exact hall.mono (Nat.zero_le _)

theorem takes_readList (hitem : Takes least item) : Takes 1 (readList item) :=
  takes_readCompactSize.bind fun count => takes_readManyOnto hitem count []

end Takes

section Whole

variable {least : Nat} {item : Reader α} {what : String} {raw cut rest : Bytes} {a : α}

/-- A string is one value to its end, or one value and more, or it is cut short. -/
theorem Takes.readAll_cases (h : Takes least item) (what : String) (raw : Bytes) :
    (∃ a, readAll what item raw = .ok a ∧ Reads item raw a) ∨
      (∃ a front rest, readAll what item raw = .error (.trailing what) ∧ Reads item front a ∧
        rest ≠ [] ∧ front ++ rest = raw) ∨
      ∃ e, readAll what item raw = .error e ∧ Lacks (Cursor.start raw) e := by
  cases hrun : item.run (Cursor.start raw) with
  | error e =>
      refine .inr (.inr ⟨e, ?_, h.lacking hrun⟩)
      rw [readAll, hrun]
      rfl
  | ok result =>
      obtain ⟨a, c⟩ := result
      obtain ⟨front, rest, -, hsplit, -, hreads⟩ := h.taken hrun
      change raw = front ++ rest at hsplit
      subst hsplit
      by_cases hrest : rest = []
      · rw [hrest, List.append_nil]
        exact .inl ⟨a, hreads.readAll_eq_ok, hreads⟩
      · exact .inr (.inl ⟨a, front, rest, hreads.readAll_append hrest, hreads, hrest, rfl⟩)

theorem Takes.reads_of_readAll (h : Takes least item) (hraw : readAll what item raw = .ok a) :
    Reads item raw a := by
  rcases h.readAll_cases what raw with
    ⟨a', hok, hreads⟩ | ⟨_, _, _, herror, -⟩ | ⟨_, herror, -⟩
  · obtain rfl := Except.ok.inj (hraw.symm.trans hok)
    exact hreads
  · cases hraw.symm.trans herror
  · cases hraw.symm.trans herror

theorem Takes.readAll_cut (h : Takes least item) (hraw : readAll what item (cut ++ rest) = .ok a)
    (hrest : rest ≠ []) : ∃ e, readAll what item cut = .error e ∧ Lacks (Cursor.start cut) e := by
  rcases h.readAll_cases what cut with
    ⟨a', -, hreads⟩ | ⟨a', front, more, -, hreads, hmore, rfl⟩ | hlacks
  · cases hraw.symm.trans (hreads.readAll_append hrest)
  · have hlonger : more ++ rest ≠ [] := List.append_ne_nil_of_left_ne_nil hmore rest
    rw [List.append_assoc] at hraw
    cases hraw.symm.trans (hreads.readAll_append hlonger)
  · exact hlacks

end Whole

end BlobInscription.Wire
