import BlobInscription.Proofs.Checkpoint.Extension
import BlobInscription.Proofs.Checkpoint.Identifier
import BlobInscription.Rehearsal.FileTree
import Mathlib.Data.List.Perm.Basic

/-!
Stores under requests. A directory and a table that are empty at first become the same map, to
which requests only add: the saves that have succeeded determine every reply.
-/

namespace BlobInscription

variable {id other : String} {raw stored : Bytes} {now : Int} {found : Option Bytes}

theorem mergeSort_concat_perm {α : Type} {le : α → α → Bool} (l : List α) (a : α) :
    ((l ++ [a]).mergeSort le).Perm (a :: l.mergeSort le) :=
  calc
    ((l ++ [a]).mergeSort le).Perm (l ++ [a]) := List.mergeSort_perm _ _
    List.Perm _ (a :: l) := List.perm_append_singleton _ _
    List.Perm _ (a :: l.mergeSort le) := (List.mergeSort_perm _ _).symm.cons _

namespace CheckpointDirectory

variable {d : CheckpointDirectory}

theorem load_eq (hid : IsHexText id) : d.load id = .ok (d.read? (fileName (Text.lower id))) := by
  rw [load, fileOf_eq, if_pos hid]
  rfl

theorem addition_eq (hid : IsHexText id) :
    d.addition id raw =
      match d.read? (fileName (Text.lower id)) with
      | none => .ok (some (fileName (Text.lower id)))
      | some stored => if stored = raw then .ok none else .error (.conflict id) := by
  rw [addition, fileOf_eq, if_pos hid]
  rfl

theorem save_of_absent (hid : IsHexText id) (h : d.load id = .ok none) :
    d.save id raw = .ok ⟨d.files ++ [(fileName (Text.lower id), raw)]⟩ := by
  rw [load_eq hid, Except.ok.injEq] at h
  rw [save, addition_eq hid, h]
  rfl

theorem save_of_present (hid : IsHexText id) (h : d.load id = .ok (some stored)) :
    d.save id raw = if stored = raw then .ok d else .error (.conflict id) := by
  rw [load_eq hid, Except.ok.injEq] at h
  rw [save, addition_eq hid, h]
  by_cases hsame : stored = raw
  · simp only [if_pos hsame]
    rfl
  · simp only [if_neg hsame]
    rfl

theorem load_append (hother : IsHexText other) (h : d.load other = .ok found) :
    load ⟨d.files ++ [(fileName (Text.lower id), raw)]⟩ other =
      .ok (found.or (if Text.lower other = Text.lower id then some raw else none)) := by
  rw [load_eq hother, Except.ok.injEq] at h
  rw [load_eq hother, read?_append, h]
  simp only [fileName_injective.eq_iff]

theorem addition_of_invalid (hid : ¬ IsHexText id) : d.addition id raw = .error (.invalidId id) := by
  rw [addition, fileOf_eq, if_neg hid]
  rfl

theorem commitIds_append :
    (commitIds ⟨d.files ++ [(fileName id, raw)]⟩).Perm (id :: d.commitIds) := by
  have hids : (d.files ++ [(fileName id, raw)]).map Prod.fst =
      d.files.map Prod.fst ++ [fileName id] := List.map_append
  rw [commitIds, commitIds, idsOf, idsOf, hids, List.filterMap_append,
    List.filterMap_cons_some (idOf?_fileName id), List.filterMap_nil]
  exact mergeSort_concat_perm _ _

theorem commitIds_sorted : d.commitIds.Pairwise (· ≤ ·) := by
  have hpairs : d.commitIds.Pairwise fun a b => (!(decide (b < a))) = true := by
    apply List.pairwise_mergeSort
    · intro a b c hab hbc
      simp only [Bool.not_eq_true', decide_eq_false_iff_not, String.not_lt] at hab hbc ⊢
      exact String.le_trans hab hbc
    · intro a b
      simp only [Bool.or_eq_true, Bool.not_eq_true', decide_eq_false_iff_not, String.not_lt]
      exact String.le_total a b
  refine hpairs.imp ?_
  intro a b hab
  simpa only [Bool.not_eq_true', decide_eq_false_iff_not, String.not_lt] using hab

end CheckpointDirectory

namespace CheckpointTable

variable {t : CheckpointTable}

theorem save_of_absent (h : t.load id = none) :
    t.save now id raw = .ok ⟨t.rows ++ [⟨Text.lower id, raw, now⟩]⟩ := by
  rw [save, h]

theorem save_of_present (h : t.load id = some stored) :
    t.save now id raw = if stored = raw then .ok t else .error (.conflict id) := by
  rw [save, h]

theorem commitIds_append {row : CheckpointRow} :
    (commitIds ⟨t.rows ++ [row]⟩).Perm (row.id :: t.commitIds) :=
  (mergeSort_concat_perm t.rows row).map CheckpointRow.id

end CheckpointTable

namespace CheckpointStore

variable {s s' : CheckpointStore} {saved : List (String × Bytes)}

/-! ### One save -/

/-- The store with an entry more. -/
def add (s : CheckpointStore) (now : Int) (id : String) (raw : Bytes) : CheckpointStore :=
  match s with
  | directory d => directory ⟨d.files ++ [(CheckpointDirectory.fileName (Text.lower id), raw)]⟩
  | table t => table ⟨t.rows ++ [⟨Text.lower id, raw, now⟩]⟩

theorem save_of_absent (hid : IsHexText id) (h : s.load id = .ok none) :
    s.save now id raw = .ok (s.add now id raw) := by
  cases s with
  | directory d => rw [save, CheckpointDirectory.save_of_absent hid h, Except.map, add]
  | table t => rw [save, CheckpointTable.save_of_absent (Except.ok.inj h), Except.map, add]

theorem save_of_present (hid : IsHexText id) (h : s.load id = .ok (some stored)) :
    s.save now id raw = if stored = raw then .ok s else .error (.conflict id) := by
  cases s with
  | directory d =>
      rw [save, CheckpointDirectory.save_of_present hid h]
      split <;> rfl
  | table t =>
      rw [save, CheckpointTable.save_of_present (Except.ok.inj h)]
      split <;> rfl

theorem load_add (hother : IsHexText other) (h : s.load other = .ok found) :
    (s.add now id raw).load other =
      .ok (found.or (if Text.lower other = Text.lower id then some raw else none)) := by
  cases s with
  | directory d => exact CheckpointDirectory.load_append hother h
  | table t =>
      refine congrArg Except.ok ?_
      rw [CheckpointTable.load_append, Except.ok.inj h]
      simp only [eq_comm]

theorem commitIds_add : (s.add now id raw).commitIds.Perm (Text.lower id :: s.commitIds) := by
  cases s with
  | directory d => exact CheckpointDirectory.commitIds_append
  | table t => exact CheckpointTable.commitIds_append

/-! ### Requests -/

/-- What is asked of a store. A save is made at some time. -/
inductive Request
  | save (now : Int) (id : String) (raw : Bytes)
  | load (id : String)
  | list

def Request.IsHex : Request → Prop
  | save _ id _ => IsHexText id
  | load id => IsHexText id
  | list => True

instance decidableIsHex : (request : Request) → Decidable request.IsHex
  | .save _ id _ => inferInstanceAs (Decidable (IsHexText id))
  | .load id => inferInstanceAs (Decidable (IsHexText id))
  | .list => isTrue trivial

inductive Reply
  | saved (outcome : Except CheckpointError Unit)
  | loaded (outcome : Except CheckpointError (Option Bytes))
  | listed (ids : List String)

/-- The reply to a request, and the store after it. -/
def serve (s : CheckpointStore) : Request → Reply × CheckpointStore
  | .save now id raw =>
      match s.save now id raw with
      | .ok s' => (.saved (.ok ()), s')
      | .error error => (.saved (.error error), s)
  | .load id => (.loaded (s.load id), s)
  | .list => (.listed s.commitIds, s)

def replies (s : CheckpointStore) : List Request → List Reply
  | [] => []
  | request :: rest => (s.serve request).1 :: (s.serve request).2.replies rest

def after (s : CheckpointStore) : List Request → CheckpointStore
  | [] => s
  | request :: rest => (s.serve request).2.after rest

/-- What a request with its reply has saved, under the identifier in lower case. -/
def record? : Request → Reply → Option (String × Bytes)
  | .save _ id raw, .saved (.ok ()) => some (Text.lower id, raw)
  | _, _ => none

/-- What requests save, the first first. What is saved again stands here again. -/
def savedBy (s : CheckpointStore) : List Request → List (String × Bytes)
  | [] => []
  | request :: rest =>
      (record? request (s.serve request).1).toList ++ (s.serve request).2.savedBy rest

/-- A load finds the first bytes that were saved, all later ones are equal to them, and every
identifier is listed once. -/
structure Holds (s : CheckpointStore) (saved : List (String × Bytes)) : Prop where
  load_eq : ∀ {id}, IsHexText id → s.load id = .ok (saved.lookup (Text.lower id))
  lookup_eq : ∀ {key raw}, (key, raw) ∈ saved → saved.lookup key = some raw
  nodup : s.commitIds.Nodup
  mem_commitIds : ∀ {key}, key ∈ s.commitIds ↔ key ∈ saved.map Prod.fst

theorem holds_directory : Holds (directory {}) [] where
  load_eq hid := CheckpointDirectory.load_eq hid
  lookup_eq h := absurd h List.not_mem_nil
  nodup := by simp [commitIds, CheckpointDirectory.commitIds, CheckpointDirectory.idsOf]
  mem_commitIds := by simp [commitIds, CheckpointDirectory.commitIds, CheckpointDirectory.idsOf]

theorem holds_table : Holds (table {}) [] where
  load_eq _ := rfl
  lookup_eq h := absurd h List.not_mem_nil
  nodup := by simp [commitIds, CheckpointTable.commitIds]
  mem_commitIds := by simp [commitIds, CheckpointTable.commitIds]

theorem mem_of_lookup {key : String} (h : saved.lookup key = some raw) : (key, raw) ∈ saved := by
  obtain ⟨before, after, rfl, -⟩ := List.lookup_eq_some_iff.mp h
  exact List.mem_append_right before List.mem_cons_self

theorem not_mem_of_lookup {key : String} (h : saved.lookup key = none) :
    key ∉ saved.map Prod.fst := by
  intro hkey
  obtain ⟨entry, hentry, rfl⟩ := List.mem_map.mp hkey
  simpa using List.lookup_eq_none_iff.mp h entry hentry

namespace Holds

variable {request : Request}

theorem lookup_eq_concat (h : s.Holds saved) {key : String}
    (hkey : saved.lookup key = none ∨ saved.lookup key = some raw) {other : String}
    (hmem : (other, stored) ∈ saved ++ [(key, raw)]) :
    (saved ++ [(key, raw)]).lookup other = some stored := by
  rw [lookup_concat]
  rcases List.mem_append.mp hmem with hold | hnew
  · rw [h.lookup_eq hold, Option.some_or]
  · obtain ⟨rfl, rfl⟩ := Prod.mk.inj (List.mem_singleton.mp hnew)
    rw [if_pos rfl]
    rcases hkey with hnone | hsome
    · rw [hnone, Option.none_or]
    · rw [hsome, Option.some_or]

theorem add (h : s.Holds saved) (hnew : saved.lookup (Text.lower id) = none) :
    (s.add now id raw).Holds (saved ++ [(Text.lower id, raw)]) where
  load_eq hother := by
    rw [load_add hother (h.load_eq hother), lookup_concat]
  lookup_eq := h.lookup_eq_concat (.inl hnew)
  nodup := by
    refine commitIds_add.nodup_iff.mpr (List.nodup_cons.mpr ⟨?_, h.nodup⟩)
    rw [h.mem_commitIds]
    exact not_mem_of_lookup hnew
  mem_commitIds := by
    intro key
    rw [commitIds_add.mem_iff, List.mem_cons, h.mem_commitIds, List.map_append, List.mem_append,
      or_comm]
    simp

theorem again (h : s.Holds saved) (hold : saved.lookup (Text.lower id) = some raw) :
    s.Holds (saved ++ [(Text.lower id, raw)]) where
  load_eq {other} hother := by
    rw [h.load_eq hother, lookup_concat]
    by_cases hsame : Text.lower other = Text.lower id
    · rw [hsame, hold, Option.some_or]
    · rw [if_neg hsame, Option.or_none]
  lookup_eq := h.lookup_eq_concat (.inr hold)
  nodup := h.nodup
  mem_commitIds := by
    intro key
    have hkey : Text.lower id ∈ saved.map Prod.fst := List.mem_map_of_mem (mem_of_lookup hold)
    rw [h.mem_commitIds, List.map_append, List.mem_append]
    constructor
    · exact .inl
    · rintro (hbefore | hlast)
      · exact hbefore
      · rwa [List.mem_singleton.mp hlast]

theorem serve_save (h : s.Holds saved) (now : Int) (hid : IsHexText id)
    (hsame : ∀ entry ∈ saved, entry.1 = Text.lower id → entry.2 = raw) :
    ∃ s', s.serve (.save now id raw) = (.saved (.ok ()), s') ∧
      s'.Holds (saved ++ [(Text.lower id, raw)]) := by
  cases hfound : saved.lookup (Text.lower id) with
  | none =>
      have habsent : s.load id = .ok none := by rw [h.load_eq hid, hfound]
      exact ⟨s.add now id raw, by rw [serve, save_of_absent hid habsent], h.add hfound⟩
  | some stored =>
      have hpresent : s.load id = .ok (some stored) := by rw [h.load_eq hid, hfound]
      obtain rfl : stored = raw := hsame _ (mem_of_lookup hfound) rfl
      exact ⟨s, by rw [serve, save_of_present hid hpresent, if_pos rfl], h.again hfound⟩

theorem serve_save_other (h : s.Holds saved) (hid : IsHexText id)
    (hother : ¬ ∀ entry ∈ saved, entry.1 = Text.lower id → entry.2 = raw) :
    s.serve (.save now id raw) = (.saved (.error (.conflict id)), s) := by
  push Not at hother
  obtain ⟨⟨key, stored⟩, hentry, rfl, hdiffers⟩ := hother
  have hpresent : s.load id = .ok (some stored) := by rw [h.load_eq hid, h.lookup_eq hentry]
  rw [serve, save_of_present hid hpresent, if_neg hdiffers]

theorem serve_load (h : s.Holds saved) (hid : IsHexText id) :
    s.serve (.load id) = (.loaded (.ok (saved.lookup (Text.lower id))), s) := by
  rw [serve, h.load_eq hid]

theorem serve (h : s.Holds saved) (hhex : request.IsHex) :
    (s.serve request).2.Holds (saved ++ (record? request (s.serve request).1).toList) := by
  cases request with
  | save now id raw =>
      -- Only a save that succeeds is recorded, and it succeeds again when it is repeated.
      by_cases hsame : ∀ entry ∈ saved, entry.1 = Text.lower id → entry.2 = raw
      · obtain ⟨s', hserve, hs'⟩ := h.serve_save now hhex hsame
        rw [hserve]
        exact hs'
      · rw [h.serve_save_other hhex hsame]
        simpa [record?] using h
  | load id => simpa [record?, CheckpointStore.serve] using h
  | list => simpa [record?, CheckpointStore.serve] using h

theorem after {requests : List Request} (h : s.Holds saved) (hhex : ∀ r ∈ requests, r.IsHex) :
    (s.after requests).Holds (saved ++ s.savedBy requests) := by
  induction requests generalizing s saved with
  | nil => simpa [CheckpointStore.after, savedBy] using h
  | cons request rest ih =>
      obtain ⟨hrequest, hrest⟩ := List.forall_mem_cons.mp hhex
      rw [CheckpointStore.after, savedBy, ← List.append_assoc]
      exact ih (h.serve hrequest) hrest

end Holds

/-! ### Two stores side by side -/

/-- Replies that say the same. The identifiers may be listed in another order. -/
inductive Reply.Same : Reply → Reply → Prop
  | saved (outcome : Except CheckpointError Unit) : Same (.saved outcome) (.saved outcome)
  | loaded (outcome : Except CheckpointError (Option Bytes)) :
      Same (.loaded outcome) (.loaded outcome)
  | listed {ids ids' : List String} (hids : ids.Perm ids') : Same (.listed ids) (.listed ids')

theorem Reply.Same.record?_eq {request : Request} {reply reply' : Reply}
    (h : reply.Same reply') : record? request reply = record? request reply' := by
  cases h with
  | saved outcome => rfl
  | loaded outcome => rfl
  | listed hids => cases request <;> rfl

namespace Holds

variable {request : Request}

theorem same_reply (h : s.Holds saved) (h' : s'.Holds saved) (hhex : request.IsHex) :
    (s.serve request).1.Same (s'.serve request).1 := by
  cases request with
  | save now id raw =>
      by_cases hsame : ∀ entry ∈ saved, entry.1 = Text.lower id → entry.2 = raw
      · obtain ⟨_, hserve, -⟩ := h.serve_save now hhex hsame
        obtain ⟨_, hserve', -⟩ := h'.serve_save now hhex hsame
        rw [hserve, hserve']
        exact .saved _
      · rw [h.serve_save_other hhex hsame, h'.serve_save_other hhex hsame]
        exact .saved _
  | load id =>
      rw [h.serve_load hhex, h'.serve_load hhex]
      exact .loaded _
  | list =>
      apply Reply.Same.listed
      apply (List.perm_ext_iff_of_nodup h.nodup h'.nodup).mpr
      intro key
      rw [h.mem_commitIds, h'.mem_commitIds]

theorem same_replies {requests : List Request} (h : s.Holds saved) (h' : s'.Holds saved)
    (hhex : ∀ r ∈ requests, r.IsHex) :
    List.Forall₂ Reply.Same (s.replies requests) (s'.replies requests) := by
  induction requests generalizing s s' saved with
  | nil => exact .nil
  | cons request rest ih =>
      obtain ⟨hrequest, hrest⟩ := List.forall_mem_cons.mp hhex
      -- Equal replies record the same saves, so that both stores go on from the same.
      have hreply := h.same_reply h' hrequest
      have hnext := h'.serve hrequest
      rw [← hreply.record?_eq] at hnext
      exact .cons hreply (ih (h.serve hrequest) hnext hrest)

end Holds

/-- The store is a map of what was saved in it: a save is refused, and then changes nothing, when
other bytes are there, a load finds the first bytes that were saved, and the list has every
identifier once. -/
structure IsMap (s : CheckpointStore) (saved : List (String × Bytes)) : Prop where
  saves : ∀ now id raw, IsHexText id → ((s.serve (.save now id raw)).1 = .saved (.ok ()) ↔
    ∀ entry ∈ saved, entry.1 = Text.lower id → entry.2 = raw)
  refuses : ∀ now id raw, IsHexText id → (s.serve (.save now id raw)).1 ≠ .saved (.ok ()) →
    s.serve (.save now id raw) = (.saved (.error (.conflict id)), s)
  finds : ∀ id, IsHexText id →
    s.serve (.load id) = (.loaded (.ok (saved.lookup (Text.lower id))), s)
  lists : ∃ ids, s.serve .list = (.listed ids, s) ∧ ids.Nodup ∧
    ∀ key, key ∈ ids ↔ key ∈ saved.map Prod.fst

theorem Holds.isMap (h : s.Holds saved) : s.IsMap saved where
  saves now id raw hid := by
    constructor
    · intro hsaved
      by_contra hother
      rw [h.serve_save_other hid hother] at hsaved
      cases hsaved
    · intro hsame
      obtain ⟨s', hserve, -⟩ := h.serve_save now hid hsame
      rw [hserve]
  refuses now id raw hid hfailed := by
    apply h.serve_save_other hid
    intro hsame
    obtain ⟨s', hserve, -⟩ := h.serve_save now hid hsame
    exact hfailed (by rw [hserve])
  finds id hid := h.serve_load hid
  lists := ⟨s.commitIds, rfl, h.nodup, fun _ => h.mem_commitIds⟩

/-! ### The two empty stores -/

theorem serve_directory (d : CheckpointDirectory) (request : Request) :
    ∃ d', ((directory d).serve request).2 = directory d' := by
  cases request with
  | save now id raw =>
      rw [serve, save]
      cases d.save id raw with
      | error error => exact ⟨d, rfl⟩
      | ok d' => exact ⟨d', rfl⟩
  | load id => exact ⟨d, rfl⟩
  | list => exact ⟨d, rfl⟩

theorem after_directory (d : CheckpointDirectory) (requests : List Request) :
    ∃ d', (directory d).after requests = directory d' := by
  induction requests generalizing d with
  | nil => exact ⟨d, rfl⟩
  | cons request rest ih =>
      obtain ⟨d', hserve⟩ := serve_directory d request
      rw [after, hserve]
      exact ih d'

theorem commitIds_ascending {d : CheckpointDirectory} (h : (directory d).commitIds.Nodup) :
    (directory d).commitIds.Pairwise (· < ·) := by
  refine (d.commitIds_sorted.and h).imp ?_
  rintro id other ⟨hle, hne⟩
  exact Std.lt_of_le_of_ne hle hne

theorem serve_save_of_invalid (d : CheckpointDirectory) (hid : ¬ IsHexText id) :
    (directory d).serve (.save now id raw) = (.saved (.error (.invalidId id)), directory d) := by
  rw [serve, save, CheckpointDirectory.save, CheckpointDirectory.addition_of_invalid hid]
  rfl

theorem serve_load_of_invalid (d : CheckpointDirectory) (hid : ¬ IsHexText id) :
    (directory d).serve (.load id) = (.loaded (.error (.invalidId id)), directory d) := by
  rw [serve, load, CheckpointDirectory.load, CheckpointDirectory.fileOf_eq, if_neg hid]
  rfl

theorem save_of_invalid (tree : FileTree) (path : PathName) (hid : ¬ IsHexText id) :
    tree.save path id raw = .error (.invalidId id) := by
  rw [FileTree.save, CheckpointDirectory.addition_of_invalid hid]
  rfl

/-- A directory and a table that are empty at first answer every sequence of requests alike, and
each remains a map of what has been saved. A directory refuses an identifier that is not a
hexadecimal text before it looks at any file. -/
theorem directory_and_table_alike (requests : List Request) (hhex : ∀ r ∈ requests, r.IsHex) :
    List.Forall₂ Reply.Same ((directory {}).replies requests) ((table {}).replies requests) ∧
    (∀ s ∈ [directory {}, table {}], (s.after requests).IsMap (s.savedBy requests)) ∧
    ((directory {}).after requests).commitIds.Pairwise (· < ·) ∧
    ∀ now id raw, ¬ IsHexText id →
      (∀ d, (directory d).serve (.save now id raw) =
          (.saved (.error (.invalidId id)), directory d) ∧
        (directory d).serve (.load id) = (.loaded (.error (.invalidId id)), directory d)) ∧
      ∀ (tree : FileTree) (path : PathName), tree.save path id raw = .error (.invalidId id) := by
  have hdirectory := holds_directory.after hhex
  have htable := holds_table.after hhex
  rw [List.nil_append] at hdirectory htable
  refine ⟨holds_directory.same_replies holds_table hhex, ?_, ?_, ?_⟩
  · intro s hs
    rcases List.mem_pair.mp hs with rfl | rfl
    · exact hdirectory.isMap
    · exact htable.isMap
  · obtain ⟨d, hd⟩ := after_directory {} requests
    have hnodup := hdirectory.nodup
    rw [hd] at hnodup ⊢
    exact commitIds_ascending hnodup
  · intro now id raw hid
    constructor
    · intro d
      exact ⟨serve_save_of_invalid d hid, serve_load_of_invalid d hid⟩
    · intro tree path
      exact save_of_invalid tree path hid

/-- Saves under identifiers that differ in the case of letters only, with one that conflicts. -/
def recased : List Request :=
  [.save 3 "Ab" [], .save 4 "aB" [1], .save 7 "0f" [2], .save 9 "AB" [], .load "ab", .list]

theorem directory_and_table_alike_recased :
    (∀ r ∈ recased, r.IsHex) ∧
    (directory {}).savedBy recased = [("ab", []), ("0f", [2]), ("ab", [])] ∧
    List.Forall₂ Reply.Same ((directory {}).replies recased) ((table {}).replies recased) ∧
    ((table {}).after recased).serve (.load "aB") =
      (.loaded (.ok (some [])), (table {}).after recased) ∧
    FileTree.save {} (.ofText "/reveals") "../escape" [] = .error (.invalidId "../escape") := by
  have hhex : ∀ r ∈ recased, r.IsHex := by decide
  obtain ⟨hsame, hmaps, -, hinvalid⟩ := directory_and_table_alike recased hhex
  refine ⟨hhex, by decide, hsame, ?_, (hinvalid 0 "../escape" [] (by decide)).2 _ _⟩
  rw [(hmaps (table {}) (by simp)).finds "aB" (by decide)]
  have hfound : ((table {}).savedBy recased).lookup (Text.lower "aB") = some [] := by decide
  rw [hfound]

end CheckpointStore

end BlobInscription
