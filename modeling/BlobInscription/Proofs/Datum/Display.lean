import BlobInscription.Datum.Display
import BlobInscription.Proofs.Traversal
import Mathlib.Tactic.Common

namespace BlobInscription

namespace Binary64

theorem magnitudeText_ne_nil (n : Nat) (e : Int) : magnitudeText n e ≠ [] := by
  have hdigits : digitText n ≠ [] := Nat.toDigits_ne_nil
  rw [magnitudeText]
  split_ifs
  · simp
  · simp
  · simp
  · cases hn : digitText n with
    | nil => exact absurd hn hdigits
    | cons d rest =>
        cases rest with
        | nil => simp
        | cons d' rest => simp

theorem text_ne_empty (x : Binary64) : x.text ≠ "" := by
  cases x with
  | nan => decide
  | infinite negative => cases negative <;> decide
  | finite negative units =>
      rw [text, ne_eq, String.ofList_eq_empty_iff]
      cases negative with
      | true => simp
      | false =>
          rw [if_neg Bool.false_ne_true]
          generalize shortest units = digits
          obtain ⟨n, e⟩ := digits
          split
          · simp
          · exact magnitudeText_ne_nil n e

end Binary64

namespace Datum

open Traversal

theorem append_ne_empty {s t : String} (h : t ≠ "") : s ++ t ≠ "" := by
  rw [ne_eq, String.append_eq_empty_iff]
  rintro ⟨-, ht⟩
  exact h ht

theorem toString_ne_empty (n : Int) : toString n ≠ "" := by
  have hrepr : ∀ m : Nat, m.repr ≠ "" := by
    intro m
    rw [Nat.repr, ne_eq, String.ofList_eq_empty_iff]
    exact Nat.toDigits_ne_nil
  cases n with
  | ofNat m => exact hrepr m
  | negSucc m => exact append_ne_empty (hrepr _)

theorem dateText_ne_empty (year month day : Nat) : dateText year month day ≠ "" := by
  intro h
  simp only [dateText, String.append_eq_empty_iff] at h
  exact absurd h.1.1.1.2 (by decide)

theorem timestampText_ne_empty (t : Timestamp) : timestampText t ≠ "" := by
  intro h
  unfold timestampText at h
  simp only [String.append_eq_empty_iff] at h
  exact dateText_ne_empty _ _ _ h.1.1.1.1

theorem display_ne_empty {d : Datum} (h : d.truthy = true) : d.display ≠ "" := by
  cases d with
  | null => cases h
  | bool b => cases b <;> decide
  | int n => exact toString_ne_empty n
  | float x => exact Binary64.text_ne_empty x
  | text t => simpa [display, truthy] using h
  | bytes b =>
      change quotedBytes b ≠ ""
      simp [quotedBytes]
  | date year month day => exact dateText_ne_empty year month day
  | timestamp t =>
      rw [display]
      exact timestampText_ne_empty t
  | list items =>
      change inner (.list items) ≠ ""
      unfold inner
      exact append_ne_empty (by decide)
  | pair a b =>
      change inner (.pair a b) ≠ ""
      unfold inner
      exact append_ne_empty (by decide)
  | set members =>
      change inner (.set members) ≠ ""
      cases members with
      | nil => cases h
      | cons d rest =>
          unfold inner
          exact append_ne_empty (by decide)
  | map entries =>
      change inner (.map entries) ≠ ""
      unfold inner
      exact append_ne_empty (by decide)

theorem succeeds_toText_text (t : String) (nesting : Nat) : Succeeds ((text t).toText nesting) :=
  ⟨t, rfl⟩

theorem ne_empty_of_toText {d : Datum} {nesting : Nat} {t : String} (hd : d.truthy = true)
    (h : d.toText nesting = .ok t) : t ≠ "" := by
  rw [toText, bind_eq_ok] at h
  obtain ⟨_, -, h⟩ := h
  cases h
  exact display_ne_empty hd

end Datum

end BlobInscription
