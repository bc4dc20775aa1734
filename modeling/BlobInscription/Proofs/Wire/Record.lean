import BlobInscription.Proofs.Wire.Extent

/-!
Readings with a record: the compact sizes with the bytes that spell them, and the elements of lists.
The record is kept also where the reading fails. It never holds more elements than there are bytes,
and it tells whether what was read is spelled in the shortest way.
-/

namespace BlobInscription.Wire

open Traversal

variable {α β γ : Type}

/-- What is noted down of a reading. -/
inductive Entry
  /-- A compact size and the bytes that spell it. -/
  | size (n : Nat) (spelled : Bytes)
  /-- An element of a list. -/
  | element
  deriving DecidableEq, Repr

/-- A reader that keeps a record, also of what it met before it failed. -/
def Recorder (α : Type) : Type :=
  Cursor → Except ReadError (α × Cursor) × List Entry

namespace Recorder

instance : Monad Recorder where
  pure a := fun c => (.ok (a, c), [])
  bind item next := fun c =>
    match item c with
    | (.ok (a, c'), entries) => ((next a c').1, entries ++ (next a c').2)
    | (.error e, entries) => (.error e, entries)

/-- Reads without a note. -/
def ofReader (item : Reader α) : Recorder α := fun c =>
  (item.run c, [])

/-- Notes down an element. -/
def element : Recorder Unit := fun c =>
  (.ok ((), c), [.element])

def compactSize : Recorder Nat := fun c =>
  match readCompactSize.run c with
  | .ok (n, c') => (.ok (n, c'), [.size n (c.rest.take (c'.offset - c.offset))])
  | .error e => (.error e, [])

def varBytes : Recorder Bytes := do
  ofReader (read (← compactSize))

def manyOnto (item : Recorder α) : (count : Nat) → (done : List α) → Recorder (List α)
  | 0, done => pure done.reverse
  | count + 1, done => do
      let value ← item
      element
      manyOnto item count (value :: done)

def list (item : Recorder α) : Recorder (List α) := do
  manyOnto item (← compactSize) []

/-- Reads one value that must take up all the bytes. -/
def all (what : String) (item : Recorder α) (raw : Bytes) : Except ReadError α × List Entry :=
  match item (Cursor.start raw) with
  | (.ok (value, c), entries) =>
      (if c.exhausted then .ok value else .error (.trailing what), entries)
  | (.error e, entries) => (.error e, entries)

variable {r : Recorder α} {next : α → Recorder β} {c c' : Cursor} {a : α} {b : β} {e : ReadError}
  {entries : List Entry}

theorem bind_apply (r : Recorder α) (next : α → Recorder β) (c : Cursor) : (r >>= next) c =
    match r c with
    | (.ok (a, c'), entries) => ((next a c').1, entries ++ (next a c').2)
    | (.error e, entries) => (.error e, entries) := rfl

theorem bind_eq_ok : (r >>= next) c = (.ok (b, c'), entries) ↔
    ∃ a c₁ first later, r c = (.ok (a, c₁), first) ∧ next a c₁ = (.ok (b, c'), later) ∧
      first ++ later = entries := by
  rw [bind_apply]
  obtain ⟨result, first⟩ := r c
  cases result with
  | error e => simp
  | ok result =>
      obtain ⟨a, c₁⟩ := result
      simp [Prod.ext_iff]

theorem bind_eq_error : (r >>= next) c = (.error e, entries) ↔
    r c = (.error e, entries) ∨
      ∃ a c₁ first later, r c = (.ok (a, c₁), first) ∧ next a c₁ = (.error e, later) ∧
        first ++ later = entries := by
  rw [bind_apply]
  obtain ⟨result, first⟩ := r c
  cases result with
  | error e => simp
  | ok result =>
      obtain ⟨a, c₁⟩ := result
      simp [Prod.ext_iff]

theorem all_snd (r : Recorder α) (what : String) (raw : Bytes) :
    (r.all what raw).2 = (r (Cursor.start raw)).2 := by
  rw [all]
  split
  · rename_i hrun
    rw [hrun]
  · rename_i hrun
    rw [hrun]

theorem exists_run_of_all {what : String} {raw : Bytes} (h : (r.all what raw).1 = .ok a) :
    ∃ c, r (Cursor.start raw) = (.ok (a, c), (r.all what raw).2) ∧ c.rest = [] := by
  rw [all] at h ⊢
  split at h
  · rename_i value c entries hrun
    dsimp only at h ⊢
    split at h
    · rename_i hend
      cases h
      exact ⟨c, hrun, List.isEmpty_iff.mp hend⟩
    · cases h
  · cases h

section Records

/-- The record apart, the recorder does what the reader does. -/
def Records (r : Recorder α) (item : Reader α) : Prop :=
  ∀ c, (r c).1 = item.run c

variable {item : Reader α} {then' : α → Reader β}

theorem records_pure (a : α) : Records (pure a) (pure a) := by
  intro c
  rfl

theorem records_ofReader (item : Reader α) : Records (ofReader item) item := by
  intro c
  rfl

theorem Records.bind (h : Records r item) (hnext : ∀ a, Records (next a) (then' a)) :
    Records (r >>= next) (item >>= then') := by
  intro c
  rw [StateT.run_bind, ← h c, bind_apply]
  obtain ⟨result, entries⟩ := r c
  cases result with
  | error e => rfl
  | ok result => exact hnext result.1 result.2

theorem records_compactSize : Records compactSize readCompactSize := by
  intro c
  simp only [compactSize]
  split
  · rename_i hrun
    exact hrun.symm
  · rename_i hrun
    exact hrun.symm

theorem records_varBytes : Records varBytes readVarBytes :=
  records_compactSize.bind fun _ => records_ofReader _

theorem Records.manyOnto (h : Records r item) (count : Nat) (done : List α) :
    Records (r.manyOnto count done) (readManyOnto item count done) := by
  induction count generalizing done with
  | zero => exact records_pure done.reverse
  | succ count ih =>
      apply h.bind
      intro value c
      exact ih (value :: done) c

theorem Records.list (h : Records r item) : Records r.list (readList item) :=
  records_compactSize.bind fun count => h.manyOnto count []

theorem Records.all (h : Records r item) (what : String) (raw : Bytes) :
    (r.all what raw).1 = readAll what item raw := by
  rw [readAll, ← h (Cursor.start raw), Recorder.all]
  obtain ⟨result, entries⟩ := r (Cursor.start raw)
  cases result with
  | error e => rfl
  | ok result => rfl

end Records

section Meters

/-- The elements on the record, and `spare` bytes besides, are no more than the bytes taken; of a
reading that fails the elements are no more than the bytes that are left. -/
structure Meters (spare : Nat) (r : Recorder α) : Prop where
  taken : ∀ {c c' : Cursor} {a : α} {entries : List Entry}, r c = (.ok (a, c'), entries) →
    entries.count .element + spare + c'.rest.length ≤ c.rest.length
  failing : ∀ {c : Cursor} {e : ReadError} {entries : List Entry}, r c = (.error e, entries) →
    entries.count .element ≤ c.rest.length

variable {spare more : Nat} {item : Reader α}

theorem Meters.mono (h : Meters more r) (hle : spare ≤ more) : Meters spare r where
  taken hrun := by
    have htaken := h.taken hrun
    omega
  failing := h.failing

theorem meters_pure (a : α) : Meters 0 (pure a : Recorder α) where
  taken hrun := by
    cases hrun
    exact Nat.le_of_eq (by simp)
  failing hrun := by cases hrun

theorem Meters.bind (h : Meters spare r) (hnext : ∀ a, Meters more (next a)) :
    Meters (spare + more) (r >>= next) where
  taken hrun := by
    obtain ⟨a, c₁, first, later, hfirst, hlater, rfl⟩ := bind_eq_ok.mp hrun
    have hbefore := h.taken hfirst
    have hbehind := (hnext a).taken hlater
    rw [List.count_append]
    omega
  failing hrun := by
    rcases bind_eq_error.mp hrun with hfirst | ⟨a, c₁, first, later, hfirst, hlater, rfl⟩
    · exact h.failing hfirst
    · have hbefore := h.taken hfirst
      have hbehind := (hnext a).failing hlater
      rw [List.count_append]
      omega

theorem meters_ofReader (h : ∀ {c c' : Cursor} {a : α}, item.run c = .ok (a, c') →
    spare + c'.rest.length ≤ c.rest.length) : Meters spare (ofReader item) where
  taken hrun := by
    obtain ⟨hitem, hentries⟩ := Prod.mk.inj hrun
    have hlength := h hitem
    rw [← hentries, List.count_nil]
    omega
  failing hrun := by
    obtain ⟨-, hentries⟩ := Prod.mk.inj hrun
    rw [← hentries, List.count_nil]
    exact Nat.zero_le _

theorem meters_readUnsigned (width : Nat) : Meters width (ofReader (readUnsigned width)) :=
  meters_ofReader (takes_readUnsigned width).length_le

theorem meters_compactSize : Meters 1 compactSize where
  taken {c c' n entries} hrun := by
    simp only [compactSize] at hrun
    split at hrun
    · rename_i hread
      cases hrun
      have hlength := takes_readCompactSize.length_le hread
      simpa using hlength
    · cases hrun
  failing {c e entries} hrun := by
    simp only [compactSize] at hrun
    split at hrun
    · cases hrun
    · cases hrun
      exact Nat.zero_le _

/-- The byte that an element leaves to spare pays for its note. -/
theorem Meters.element_bind (h : Meters (spare + 1) r) (hnext : ∀ a, Meters more (next a)) :
    Meters (spare + more) (r >>= fun a => element >>= fun _ => next a) where
  taken hrun := by
    obtain ⟨a, c₁, first, _, hfirst, hlater, rfl⟩ := bind_eq_ok.mp hrun
    obtain ⟨_, _, _, behind, hnote, hbehind, rfl⟩ := bind_eq_ok.mp hlater
    cases hnote
    have hbefore := h.taken hfirst
    have hbehind := (hnext a).taken hbehind
    rw [List.count_append, List.count_append, List.count_singleton_self]
    omega
  failing hrun := by
    rcases bind_eq_error.mp hrun with hfirst | ⟨a, c₁, first, later, hfirst, hlater, rfl⟩
    · exact h.failing hfirst
    · rcases bind_eq_error.mp hlater with hnote | ⟨_, _, _, behind, hnote, hbehind, rfl⟩
      · cases hnote
      · cases hnote
        have hbefore := h.taken hfirst
        have hbehind := (hnext a).failing hbehind
        rw [List.count_append, List.count_append, List.count_singleton_self]
        omega

theorem meters_varBytes : Meters 1 varBytes :=
  meters_compactSize.bind fun size =>
    meters_ofReader ((takes_read size).mono (Nat.zero_le _)).length_le

theorem Meters.manyOnto (h : Meters 1 r) (count : Nat) (done : List α) :
    Meters 0 (r.manyOnto count done) := by
  induction count generalizing done with
  | zero => exact meters_pure done.reverse
  | succ count ih =>
      have hall : Meters (0 + 0) (r.manyOnto (count + 1) done) :=
        Meters.element_bind h fun value => ih (value :: done)
      exact hall

theorem Meters.list (h : Meters 1 r) : Meters 1 r.list :=
  meters_compactSize.bind fun count => h.manyOnto count []

theorem Meters.count_le (h : Meters 0 r) (c : Cursor) :
    (r c).2.count .element ≤ c.rest.length := by
  cases hrun : r c with
  | mk result entries =>
      cases result with
      | error e => exact h.failing hrun
      | ok result =>
          have htaken := h.taken hrun
          dsimp only
          omega

theorem Meters.all (h : Meters 0 r) (what : String) (raw : Bytes) :
    (r.all what raw).2.count .element ≤ raw.length := by
  rw [all_snd]
  exact h.count_le (Cursor.start raw)

theorem Meters.count_list_of_short (h : Meters 1 r) (hshort : c.rest.length ≤ 1) :
    (r.list c).2.count .element = 0 := by
  cases hrun : r.list c with
  | mk result entries =>
      cases result with
      | ok result =>
          have htaken := h.list.taken hrun
          dsimp only
          omega
      | error e =>
          dsimp only
          rcases bind_eq_error.mp hrun with hfirst | ⟨n, c₁, first, later, hfirst, hlater, rfl⟩
          · simp only [compactSize] at hfirst
            split at hfirst
            · cases hfirst
            · cases hfirst
              rfl
          · have htaken := meters_compactSize.taken hfirst
            have hmany := (h.manyOnto n []).failing hlater
            rw [List.count_append]
            omega

theorem Meters.count_list_bind_of_short {next : List α → Recorder β} (h : Meters 1 r)
    (hnext : ∀ values, Meters 0 (next values)) (hshort : c.rest.length ≤ 1) :
    ((r.list >>= next) c).2.count .element = 0 := by
  have hlist := h.count_list_of_short hshort
  rw [bind_apply]
  cases hrun : r.list c with
  | mk result entries =>
      rw [hrun] at hlist
      cases result with
      | error e => exact hlist
      | ok result =>
          obtain ⟨values, c'⟩ := result
          have htaken := h.list.taken hrun
          have hrest := (hnext values).count_le c'
          rw [List.count_append]
          omega

end Meters

section Counts

/-- Of a reading that succeeds, the record holds as many elements as the value. -/
def Counts (r : Recorder α) (size : α → Nat) : Prop :=
  ∀ {c c' : Cursor} {a : α} {entries : List Entry}, r c = (.ok (a, c'), entries) →
    entries.count .element = size a

variable {size : α → Nat} {item : Reader α}

theorem counts_ofReader (item : Reader α) : Counts (ofReader item) fun _ => 0 := by
  intro c c' a entries hrun
  obtain ⟨-, hentries⟩ := Prod.mk.inj hrun
  rw [← hentries, List.count_nil]

theorem counts_compactSize : Counts compactSize fun _ => 0 := by
  intro c c' n entries hrun
  simp only [compactSize] at hrun
  split at hrun
  · cases hrun
    rfl
  · cases hrun

theorem counts_varBytes : Counts varBytes fun _ => 0 := by
  intro c c' bytes entries hrun
  obtain ⟨size, c₁, first, later, hsize, hread, rfl⟩ := bind_eq_ok.mp hrun
  simp only [List.count_append, counts_compactSize hsize, counts_ofReader _ hread]

theorem Counts.manyOnto (h : Counts r size) {count : Nat} {done values : List α} {c c' : Cursor}
    {entries : List Entry} (hrun : r.manyOnto count done c = (.ok (values, c'), entries)) :
    entries.count .element + (done.map fun a => size a + 1).sum =
      (values.map fun a => size a + 1).sum := by
  induction count generalizing c done entries with
  | zero =>
      cases hrun
      simp [List.sum_reverse]
  | succ count ih =>
      obtain ⟨value, c₁, first, _, hvalue, hlater, rfl⟩ := bind_eq_ok.mp hrun
      obtain ⟨_, _, _, behind, hnote, hbehind, rfl⟩ := bind_eq_ok.mp hlater
      cases hnote
      have hmore := ih hbehind
      rw [List.map_cons, List.sum_cons] at hmore
      rw [List.count_append, List.count_append, List.count_singleton_self, h hvalue]
      omega

theorem Counts.list (h : Counts r size) :
    Counts r.list fun values => (values.map fun a => size a + 1).sum := by
  intro c c' values entries hrun
  obtain ⟨count, c₁, first, later, hcount, hmany, rfl⟩ := bind_eq_ok.mp hrun
  have hvalues := h.manyOnto hmany
  rw [List.map_nil, List.sum_nil, Nat.add_zero] at hvalues
  rw [List.count_append, counts_compactSize hcount, hvalues, Nat.zero_add]

theorem Counts.list_plain (h : Counts r fun _ => 0) : Counts r.list List.length := by
  intro c c' values entries hrun
  have hsum := h.list hrun
  simpa using hsum

theorem Counts.all (h : Counts r size) {what : String} {raw : Bytes}
    (hraw : (r.all what raw).1 = .ok a) : (r.all what raw).2.count .element = size a := by
  obtain ⟨c, hrun, -⟩ := exists_run_of_all hraw
  exact h hrun

end Counts

section Steady

/-- More bytes never make for fewer elements on the record. -/
def Grows (r : Recorder α) : Prop :=
  ∀ (c : Cursor) (behind : Bytes), (r c).2.count .element ≤ (r (c.extend behind)).2.count .element

/-- A reading that succeeds is the same whatever lies behind, and one that fails has met no element
that it would not meet with more bytes. -/
structure Steady (r : Recorder α) : Prop where
  taken : ∀ {c c' : Cursor} {a : α} {entries : List Entry} (behind : Bytes),
    r c = (.ok (a, c'), entries) → r (c.extend behind) = (.ok (a, c'.extend behind), entries)
  grows : Grows r

variable {least : Nat} {item : Reader α}

theorem steady_pure (a : α) : Steady (pure a : Recorder α) where
  taken behind hrun := by
    cases hrun
    rfl
  grows c behind := Nat.le_refl 0

theorem Steady.bind_grows (h : Steady r) (hnext : ∀ a, Grows (next a)) : Grows (r >>= next) := by
  intro c behind
  rw [bind_apply, bind_apply]
  -- A first reading that fails may succeed with more bytes; what follows then only adds elements.
  cases hrun : r c with
  | mk result entries =>
      cases result with
      | ok result =>
          obtain ⟨a, c'⟩ := result
          rw [h.taken behind hrun]
          simp only [List.count_append]
          exact Nat.add_le_add_left (hnext a c' behind) _
      | error e =>
          have hgrows := h.grows c behind
          rw [hrun] at hgrows
          cases hmore : r (c.extend behind) with
          | mk result' entries' =>
              rw [hmore] at hgrows
              cases result' with
              | error e' => exact hgrows
              | ok result' =>
                  rw [List.count_append]
                  exact Nat.le_add_right_of_le hgrows

theorem Steady.bind (h : Steady r) (hnext : ∀ a, Steady (next a)) : Steady (r >>= next) where
  taken behind hrun := by
    obtain ⟨a, c₁, first, later, hfirst, hlater, rfl⟩ := bind_eq_ok.mp hrun
    exact bind_eq_ok.mpr ⟨a, c₁.extend behind, first, later, h.taken behind hfirst,
      (hnext a).taken behind hlater, rfl⟩
  grows := h.bind_grows fun a => (hnext a).grows

theorem steady_ofReader (h : Takes least item) : Steady (ofReader item) where
  taken behind hrun := by
    obtain ⟨hitem, hentries⟩ := Prod.mk.inj hrun
    rw [ofReader, h.run_extend behind hitem, hentries]
  grows c behind := Nat.le_refl 0

theorem steady_compactSize : Steady compactSize where
  taken {c c' n entries} behind hrun := by
    simp only [compactSize] at hrun ⊢
    split at hrun
    · rename_i hread
      cases hrun
      have htaken := takes_readCompactSize.offset_le hread
      rw [takes_readCompactSize.run_extend behind hread]
      dsimp only [Cursor.extend]
      rw [List.take_append_of_le_length htaken]
    · cases hrun
  grows c behind := by
    simp only [compactSize]
    split
    · rw [List.count_singleton]
      exact Nat.zero_le _
    · exact Nat.zero_le _

theorem steady_element : Steady element where
  taken behind hrun := by
    cases hrun
    rfl
  grows c behind := Nat.le_refl 1

theorem steady_varBytes : Steady varBytes :=
  steady_compactSize.bind fun size => steady_ofReader (takes_read size)

theorem Steady.manyOnto (h : Steady r) (count : Nat) (done : List α) :
    Steady (r.manyOnto count done) := by
  induction count generalizing done with
  | zero => exact steady_pure done.reverse
  | succ count ih => exact h.bind fun value => steady_element.bind fun _ => ih (value :: done)

theorem Steady.list (h : Steady r) : Steady r.list :=
  steady_compactSize.bind fun count => h.manyOnto count []

theorem Grows.all (h : Grows r) (what : String) (front rest : Bytes) :
    (r.all what front).2.count .element ≤ (r.all what (front ++ rest)).2.count .element := by
  rw [all_snd, all_snd]
  exact h (Cursor.start front) rest

end Steady

end Recorder

/-- What can be relied on when a string is parsed as one value to its end. With bytes added behind
the value, or missing at its end, it is refused. Whatever is refused goes on behind a value, or a
read within it reaches beyond its end. The record of the same reading never holds more list elements
than the string has bytes, and those of the value when there is one; of a string that is cut short
it holds none that the whole does not have. -/
structure Exacting (what : String) (parse : Bytes → Except ReadError α)
    (record : Bytes → Except ReadError α × List Entry) (size : α → Nat) : Prop where
  extended : ∀ raw more a, parse raw = .ok a → more ≠ [] →
    parse (raw ++ more) = .error (.trailing what)
  cut : ∀ front rest a, parse (front ++ rest) = .ok a → rest ≠ [] →
    ∃ e, parse front = .error e ∧ Lacks (Cursor.start front) e
  refused : ∀ raw e, parse raw = .error e → e = .trailing what ∨ Lacks (Cursor.start raw) e
  recorded : ∀ raw, (record raw).1 = parse raw
  elements_le : ∀ raw, (record raw).2.count .element ≤ raw.length
  elements_eq : ∀ raw a, parse raw = .ok a → (record raw).2.count .element = size a
  elements_mono : ∀ front rest,
    (record front).2.count .element ≤ (record (front ++ rest)).2.count .element

theorem exacting_readAll {least : Nat} {item : Reader α} {r : Recorder α} {size : α → Nat}
    (htakes : Takes least item) (hrecords : r.Records item) (hmeters : r.Meters 0)
    (hcounts : r.Counts size) (hgrows : r.Grows) (what : String) :
    Exacting what (readAll what item) (r.all what) size where
  extended raw more a hraw hmore := (htakes.reads_of_readAll hraw).readAll_append hmore
  cut front rest a hraw hrest := htakes.readAll_cut hraw hrest
  refused raw e hraw := by
    rcases htakes.readAll_cases what raw with
      ⟨a, hok, -⟩ | ⟨_, _, _, htrailing, -⟩ | ⟨e', herror, hlacks⟩
    · cases hraw.symm.trans hok
    · exact .inl (Except.error.inj (hraw.symm.trans htrailing))
    · obtain rfl := Except.error.inj (hraw.symm.trans herror)
      exact .inr hlacks
  recorded raw := hrecords.all what raw
  elements_le raw := hmeters.all what raw
  elements_eq raw a hraw := by
    rw [← hrecords.all what raw] at hraw
    exact hcounts.all hraw
  elements_mono front rest := hgrows.all what front rest

end BlobInscription.Wire
