import BlobInscription.Number.Binary64
import Mathlib

namespace BlobInscription.Binary64

/-- The place of a number, between two infinite ends. What is no number has none, and the lower end
stands in for it. -/
def level : Binary64 → WithBot (WithTop Int)
  | nan | infinite true => ⊥
  | infinite false => ⊤
  | finite negative units => ((signedUnits negative units : Int) : WithTop Int)

variable {a b c : Binary64}

theorem level_finite_lt_infinite (negative : Bool) (units : Nat) :
    (finite negative units).level < (infinite false).level :=
  WithBot.coe_lt_coe.mpr (WithTop.coe_lt_top _)

theorem level_infinite_lt_finite (negative : Bool) (units : Nat) :
    (infinite true).level < (finite negative units).level :=
  WithBot.bot_lt_coe _

theorem level_infinite_lt_infinite : (infinite true).level < (infinite false).level :=
  WithBot.bot_lt_coe _

theorem level_finite_lt_finite {negative negative' : Bool} {units units' : Nat} :
    (finite negative units).level < (finite negative' units').level ↔
      signedUnits negative units < signedUnits negative' units' := by
  simp [level]

theorem lt_iff : a.lt b = true ↔ a.isNaN = false ∧ b.isNaN = false ∧ a.level < b.level := by
  cases a with
  | nan => simp [lt, isNaN]
  | infinite negative =>
      cases b with
      | nan => simp [lt, isNaN]
      | infinite negative' =>
          cases negative <;> cases negative' <;>
            simp [lt, isNaN, level_infinite_lt_infinite, level_infinite_lt_infinite.not_gt]
      | finite negative' units =>
          cases negative <;>
            simp [lt, isNaN, level_infinite_lt_finite, (level_finite_lt_infinite _ _).not_gt]
  | finite negative units =>
      cases b with
      | nan => simp [lt, isNaN]
      | infinite negative' =>
          cases negative' <;>
            simp [lt, isNaN, level_finite_lt_infinite, (level_infinite_lt_finite _ _).not_gt]
      | finite negative' units' => simp [lt, isNaN, level_finite_lt_finite]

theorem eq_iff : a.eq b = true ↔ a.isNaN = false ∧ b.isNaN = false ∧ a.level = b.level := by
  cases a with
  | nan => simp [eq, isNaN]
  | infinite negative =>
      cases b with
      | nan => simp [eq, isNaN]
      | infinite negative' =>
          cases negative <;> cases negative' <;>
            simp [eq, isNaN, level_infinite_lt_infinite.ne, level_infinite_lt_infinite.ne']
      | finite negative' units =>
          cases negative <;>
            simp [eq, isNaN, (level_infinite_lt_finite _ _).ne, (level_finite_lt_infinite _ _).ne']
  | finite negative units =>
      cases b with
      | nan => simp [eq, isNaN]
      | infinite negative' =>
          cases negative' <;>
            simp [eq, isNaN, (level_finite_lt_infinite _ _).ne, (level_infinite_lt_finite _ _).ne']
      | finite negative' units' => simp [eq, isNaN, level]

theorem isNaN_ofRatio (negative : Bool) (num den : Nat) :
    (ofRatio negative num den).isNaN = false := by
  rw [ofRatio]
  split <;> rfl

theorem lt_self (a : Binary64) : a.lt a = false := by
  rw [← Bool.not_eq_true, lt_iff]
  simp

theorem lt_eq_false_iff (ha : a.isNaN = false) (hb : b.isNaN = false) :
    a.lt b = false ↔ b.level ≤ a.level := by
  rw [← Bool.not_eq_true, lt_iff, ← not_lt]
  simp [ha, hb]

end BlobInscription.Binary64
