import BlobInscription.Curve.Modular
import Mathlib.FieldTheory.Finite.Basic

namespace BlobInscription.Modular

theorem powBits_eq {bits e : Nat} (m base : Nat) (h : e < 2 ^ bits) :
    powBits m bits base e = base ^ e % m := by
  -- Each step squares the base and halves the exponent, so both vary in the induction.
  induction bits generalizing base e with
  | zero =>
      obtain rfl : e = 0 := by simpa using h
      rfl
  | succ bits ih =>
      have hhalf : e / 2 < 2 ^ bits := by
        rw [pow_succ] at h
        omega
      have hsquare : (base * base % m) ^ (e / 2) % m = base ^ (2 * (e / 2)) % m := by
        rw [← Nat.pow_mod, ← pow_two, pow_mul]
      have hsplit := Nat.div_add_mod e 2
      rw [powBits]
      rw [ih _ hhalf, hsquare]
      split
      · rename_i hodd
        rw [Nat.mul_mod_mod, ← pow_succ']
        congr 2
        omega
      · congr 2
        omega

theorem pow_eq (m base e : Nat) : pow m base e = base ^ e % m := by
  rw [pow, powBits_eq _ _ Nat.lt_log2_self, ← Nat.pow_mod]

theorem cast_pow (m base e : Nat) : (pow m base e : ZMod m) = (base : ZMod m) ^ e := by
  rw [pow_eq, ZMod.natCast_mod, Nat.cast_pow]

theorem sub_lt (m a b : Nat) [NeZero m] : sub m a b < m :=
  Nat.mod_lt _ (NeZero.pos m)

theorem cast_sub (m a b : Nat) [NeZero m] : (sub m a b : ZMod m) = (a : ZMod m) - b := by
  have hle : b % m ≤ m := (Nat.mod_lt b (NeZero.pos m)).le
  rw [sub, ZMod.natCast_mod, Nat.cast_add, Nat.cast_sub hle, ZMod.natCast_self, zero_sub,
    ZMod.natCast_mod, sub_eq_add_neg]

theorem cast_inverse {m : Nat} [Fact m.Prime] (hm : 2 < m) (a : Nat) :
    (inverse m a : ZMod m) = (a : ZMod m)⁻¹ := by
  rw [inverse, cast_pow]
  by_cases ha : (a : ZMod m) = 0
  · rw [ha, inv_zero, zero_pow (by omega)]
  · have hfermat : (a : ZMod m) ^ (m - 2) * a = 1 := by
      rw [← pow_succ]
      have hexponent : m - 2 + 1 = m - 1 := by omega
      rw [hexponent]
      exact ZMod.pow_card_sub_one_eq_one ha
    exact eq_inv_of_mul_eq_one_left hfermat

end BlobInscription.Modular
