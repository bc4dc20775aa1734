import BlobInscription.Checkpoint.Store
import BlobInscription.Proofs.Traversal

namespace BlobInscription

open Traversal

variable {id other : String} {raw stored : Bytes} {now : Int}

theorem lookup_concat {entries : List (String × Bytes)} {key other : String} :
    (entries ++ [(key, raw)]).lookup other =
      (entries.lookup other).or (if other = key then some raw else none) := by
  rw [List.lookup_append]
  by_cases hsame : other = key
  · rw [hsame, List.lookup_cons_self, if_pos rfl]
  · have hdiffers : (other == key) = false := by simpa using hsame
    rw [List.lookup_cons, hdiffers, List.lookup_nil, if_neg hsame]

namespace CheckpointDirectory

variable {d d' : CheckpointDirectory}

theorem save_eq_ok (h : d.save id raw = .ok d') :
    ∃ name, fileOf id = .ok name ∧
      ((d.read? name = some raw ∧ d' = d) ∨
        (d.read? name = none ∧ d' = ⟨d.files ++ [(name, raw)]⟩)) := by
  simp only [save, addition, bind_eq_ok] at h
  obtain ⟨added?, ⟨name, hname, hadded⟩, hsaved⟩ := h
  refine ⟨name, hname, ?_⟩
  cases hread : d.read? name with
  | none =>
      rw [hread] at hadded
      cases hadded
      cases hsaved
      exact .inr ⟨rfl, rfl⟩
  | some stored =>
      simp only [hread] at hadded
      split at hadded
      · rename_i hsame
        cases hadded
        cases hsaved
        exact .inl ⟨by rw [hsame], rfl⟩
      · cases hadded

theorem read?_append {name other : String} :
    read? ⟨d.files ++ [(name, raw)]⟩ other =
      (d.read? other).or (if other = name then some raw else none) :=
  lookup_concat

theorem load_of_save (h : d.save id raw = .ok d') : d'.load id = .ok (some raw) := by
  obtain ⟨name, hname, ⟨hread, rfl⟩ | ⟨hread, rfl⟩⟩ := save_eq_ok h
  · rw [load, hname]
    exact congrArg Except.ok hread
  · rw [load, hname]
    refine congrArg Except.ok ?_
    rw [read?_append, hread, Option.none_or, if_pos rfl]

theorem load_of_load_of_save (h : d.save id raw = .ok d')
    (hload : d.load other = .ok (some stored)) : d'.load other = .ok (some stored) := by
  obtain ⟨name, -, ⟨-, rfl⟩ | ⟨-, rfl⟩⟩ := save_eq_ok h
  · exact hload
  · simp only [load, bind_eq_ok] at hload ⊢
    obtain ⟨file, hfile, hread⟩ := hload
    refine ⟨file, hfile, congrArg Except.ok ?_⟩
    rw [read?_append, Except.ok.inj hread, Option.some_or]

end CheckpointDirectory

namespace CheckpointTable

variable {t t' : CheckpointTable}

theorem save_eq_ok (h : t.save now id raw = .ok t') :
    (t.load id = some raw ∧ t' = t) ∨
      (t.load id = none ∧ t' = ⟨t.rows ++ [⟨Text.lower id, raw, now⟩]⟩) := by
  rw [save] at h
  split at h
  · rename_i stored hload
    split at h
    · rename_i hsame
      cases h
      exact .inl ⟨by rw [hload, hsame], rfl⟩
    · cases h
  · rename_i hload
    cases h
    exact .inr ⟨hload, rfl⟩

theorem load_append {row : CheckpointRow} :
    load ⟨t.rows ++ [row]⟩ other =
      (t.load other).or (if row.id = Text.lower other then some row.raw else none) := by
  rw [load, load, List.find?_append, List.find?_singleton, Option.map_or]
  by_cases hsame : row.id = Text.lower other
  · simp [hsame]
  · simp [hsame]

theorem load_of_save (h : t.save now id raw = .ok t') : t'.load id = some raw := by
  obtain ⟨hload, rfl⟩ | ⟨hload, rfl⟩ := save_eq_ok h
  · exact hload
  · rw [load_append, hload, Option.none_or, if_pos rfl]

theorem load_of_load_of_save (h : t.save now id raw = .ok t') (hload : t.load other = some stored) :
    t'.load other = some stored := by
  obtain ⟨-, rfl⟩ | ⟨-, rfl⟩ := save_eq_ok h
  · exact hload
  · rw [load_append, hload, Option.some_or]

end CheckpointTable

namespace CheckpointStore

variable {s s' s'' : CheckpointStore}

/-- Everything that the first store finds, the second finds as well. -/
def Extends (s s' : CheckpointStore) : Prop :=
  ∀ id raw, s.load id = .ok (some raw) → s'.load id = .ok (some raw)

theorem Extends.refl (s : CheckpointStore) : s.Extends s :=
  fun _ _ h => h

theorem Extends.trans (h : s.Extends s') (h' : s'.Extends s'') : s.Extends s'' :=
  fun id raw hload => h' id raw (h id raw hload)

theorem load_of_save (h : s.save now id raw = .ok s') : s'.load id = .ok (some raw) := by
  cases s with
  | directory files =>
      obtain ⟨files', hsave, rfl⟩ := map_eq_ok.mp h
      exact CheckpointDirectory.load_of_save hsave
  | table rows =>
      obtain ⟨rows', hsave, rfl⟩ := map_eq_ok.mp h
      exact congrArg Except.ok (CheckpointTable.load_of_save hsave)

theorem extends_of_save (h : s.save now id raw = .ok s') : s.Extends s' := by
  intro other stored hload
  cases s with
  | directory files =>
      obtain ⟨files', hsave, rfl⟩ := map_eq_ok.mp h
      exact CheckpointDirectory.load_of_load_of_save hsave hload
  | table rows =>
      obtain ⟨rows', hsave, rfl⟩ := map_eq_ok.mp h
      exact congrArg Except.ok (CheckpointTable.load_of_load_of_save hsave (Except.ok.inj hload))

end CheckpointStore

end BlobInscription
