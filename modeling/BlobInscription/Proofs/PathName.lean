import BlobInscription.PathName
import Mathlib.Data.String.Basic
import Mathlib.Tactic.Common

namespace BlobInscription.PathName

theorem splitOnAux_of_not_mem (front : List Char) {rest : List Char} (h : '/' ∉ rest) :
    (String.ofList (front ++ rest)).splitOnAux "/" 0 ⟨String.utf8Len front⟩ 0 [] =
      [String.ofList (front ++ rest)] := by
  induction rest generalizing front with
  | nil =>
      have hwhole := String.extract_zero_rawEndPos (String.ofList front)
      rw [List.append_nil, String.splitOnAux, if_pos (by simp)]
      simpa [String.rawEndPos_ofList] using hwhole
  | cons c rest ih =>
      rw [List.mem_cons, not_or] at h
      obtain ⟨hc, hrest⟩ := h
      have hget : String.Pos.Raw.get (String.ofList (front ++ c :: rest)) ⟨String.utf8Len front⟩ =
          c := by
        rw [String.get_of_valid]
        rfl
      have hseparator : String.Pos.Raw.get "/" 0 = '/' := rfl
      have hmore : ¬ String.Pos.Raw.atEnd (String.ofList (front ++ c :: rest))
          ⟨String.utf8Len front⟩ = true := by
        rw [String.atEnd_of_valid]
        exact List.cons_ne_nil c rest
      have hback : String.Pos.Raw.unoffsetBy ⟨String.utf8Len front⟩ 0 = ⟨String.utf8Len front⟩ :=
        rfl
      rw [String.splitOnAux, if_neg hmore, hget, hseparator, if_neg (by simp [Ne.symm hc]), hback,
        String.next_of_valid]
      simpa using ih (front ++ [c]) hrest

theorem splitOn_of_not_mem {text : String} (h : '/' ∉ text.toList) :
    text.splitOn "/" = [text] := by
  have hsplit := splitOnAux_of_not_mem [] h
  rw [List.nil_append, String.ofList_toList] at hsplit
  rw [String.splitOn, if_neg (by decide)]
  exact hsplit

theorem ofText_of_not_mem {text : String} (h : '/' ∉ text.toList) (hidle : isIdle text = false) :
    ofText text = ⟨"", [text]⟩ := by
  have hslashes : leadingSlashes text.toList = 0 := by
    cases hchars : text.toList with
    | nil => rfl
    | cons c rest =>
        rw [hchars, List.mem_cons, not_or] at h
        simp [leadingSlashes, Ne.symm h.1]
  rw [ofText, hslashes, splitOn_of_not_mem h]
  simp [rootOf, hidle]

end BlobInscription.PathName
