import BlobInscription.Checkpoint.Directory
import BlobInscription.Proofs.Text.Case
import Mathlib.Logic.Function.Defs

namespace BlobInscription

/-- A digit of a hexadecimal text, in either case. -/
def isHexLetter (c : Char) : Bool :=
  "0123456789abcdefABCDEF".toList.contains c

/-- A hexadecimal text that is not empty. -/
def IsHexText (text : String) : Prop :=
  text ≠ "" ∧ text.toList.all isHexLetter

instance (text : String) : Decidable (IsHexText text) :=
  inferInstanceAs (Decidable (_ ∧ _))

namespace CheckpointDirectory

theorem toNat_of_isHexDigit {c : Char} (h : isHexDigit c) : c.toNat ≤ 102 := by
  have hall : "0123456789abcdef".toList.all fun c => c.toNat ≤ 102 := by decide
  simpa using List.all_eq_true.mp hall c (List.contains_iff_mem.mp h)

theorem toNat_of_isHexLetter {c : Char} (h : isHexLetter c) : c.toNat ≤ 102 := by
  have hall : "0123456789abcdefABCDEF".toList.all fun c => c.toNat ≤ 102 := by decide
  simpa using List.all_eq_true.mp hall c (List.contains_iff_mem.mp h)

/-- Lower-casing brings no character from beyond the first 128 down among the digits. -/
theorem lowerCaseRuns_above :
    ∀ run ∈ Text.lowerCaseRuns, run.2.1 < 128 ∨ 102 < (run.1 : Int) + run.2.2.2 := by
  decide +kernel

theorem all_lowerChar_of_ascii {c : Char} (h : c.toNat < 128) :
    (Text.lowerChar c).all isHexDigit = isHexLetter c := by
  exact Text.of_forall_ascii (P := fun c => (Text.lowerChar c).all isHexDigit = isHexLetter c)
    (by decide +kernel) h

theorem isHexDigit_of_above {c : Char} (h : 102 < c.toNat) : isHexDigit c = false := by
  rw [← Bool.not_eq_true]
  intro hdigit
  exact absurd (toNat_of_isHexDigit hdigit) (by omega)

theorem isHexDigit_ofNat {n : Nat} (h : 102 < n) : isHexDigit (Char.ofNat n) = false := by
  by_cases hvalid : n.isValidChar
  · apply isHexDigit_of_above
    rw [Char.ofNat, dif_pos hvalid]
    exact h
  · rw [Char.ofNat, dif_neg hvalid]
    rfl

theorem all_lowerChar_of_beyond {c : Char} (h : 128 ≤ c.toNat) :
    (Text.lowerChar c).all isHexDigit = false := by
  rw [Text.lowerChar]
  simp only [if_neg (Nat.not_lt.mpr h)]
  split
  · -- a capital I with a dot above becomes an i, which is no digit, and the dot
    decide
  · split
    · rename_i first last step distance hfind
      have hin := List.find?_some hfind
      have habove := lowerCaseRuns_above _ (List.mem_of_find?_eq_some hfind)
      simp only [Bool.and_eq_true, decide_eq_true_eq] at hin habove
      rw [List.all_cons, isHexDigit_ofNat (by omega), Bool.false_and]
    · rw [List.all_cons, isHexDigit_of_above (by omega), Bool.false_and]

theorem isHexLetter_of_beyond {c : Char} (h : 128 ≤ c.toNat) : isHexLetter c = false := by
  rw [← Bool.not_eq_true]
  intro hletter
  exact absurd (toNat_of_isHexLetter hletter) (by omega)

theorem all_lowerAt (before : List Char) (c : Char) (after : List Char) :
    (Text.lowerAt before c after).all isHexDigit = isHexLetter c := by
  rw [Text.lowerAt]
  split
  · rename_i hsigma
    rw [hsigma]
    split <;> decide
  · rcases Nat.lt_or_ge c.toNat 128 with hascii | hbeyond
    · exact all_lowerChar_of_ascii hascii
    · rw [all_lowerChar_of_beyond hbeyond, isHexLetter_of_beyond hbeyond]

/-- The check of an identifier sees hexadecimal texts in letters of either case, and no others. -/
theorem fileOf_eq (id : String) :
    fileOf id =
      if IsHexText id then .ok (fileName (Text.lower id)) else .error (.invalidId id) := by
  have hdigits : (Text.lower id).toList.all isHexDigit = id.toList.all isHexLetter := by
    rw [Text.lower, String.toList_ofList, Text.all_lowerChars all_lowerAt]
  rw [fileOf, hdigits]
  by_cases hempty : id = ""
  · simp [hempty, IsHexText]
  · by_cases hall : id.toList.all isHexLetter
    · simp [hempty, hall, IsHexText]
    · simp [hall, IsHexText]

theorem fileName_injective : Function.Injective fileName := by
  intro id other h
  rw [fileName, fileName, String.append_left_inj, String.append_right_inj] at h
  exact h

theorem idOf?_fileName (id : String) : idOf? (fileName id) = some id := by
  have hchars : (fileName id).toList = nameStart.toList ++ (id.toList ++ nameEnd.toList) := by
    rw [fileName, String.toList_append, String.toList_append, List.append_assoc]
  have hstart : nameStart.toList.isPrefixOf (fileName id).toList := by
    rw [hchars, List.isPrefixOf_iff_prefix]
    exact List.prefix_append _ _
  have hend : nameEnd.toList.isSuffixOf (fileName id).toList := by
    rw [hchars, List.isSuffixOf_iff_suffix, ← List.append_assoc]
    exact List.suffix_append _ _
  have hrest : (fileName id).toList.drop nameStart.length = id.toList ++ nameEnd.toList := by
    rw [hchars, ← String.length_toList, List.drop_left]
  have hlength : (id.toList ++ nameEnd.toList).length - nameEnd.length = id.toList.length := by
    rw [List.length_append, String.length_toList (s := nameEnd), Nat.add_sub_cancel]
  simp only [idOf?, hstart, hend, Bool.and_self, if_true]
  rw [hrest, hlength, List.take_left, String.ofList_toList]

end CheckpointDirectory

end BlobInscription
