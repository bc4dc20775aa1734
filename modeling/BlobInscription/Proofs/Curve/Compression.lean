import BlobInscription.Proofs.Curve.Group

namespace BlobInscription.Secp256k1

variable {p : Point}

theorem cast_sqrt_exponent (y : ZMod fieldPrime) :
    (y ^ 2) ^ ((fieldPrime + 1) / 4) * (y ^ 2) ^ ((fieldPrime + 1) / 4) = y ^ 2 := by
  have hexponent : 2 * ((fieldPrime + 1) / 4 + (fieldPrime + 1) / 4) = fieldPrime - 1 + 2 := by
    decide
  rw [← pow_add, ← pow_mul, hexponent]
  by_cases hy : y = 0
  · rw [hy, zero_pow (by simp), zero_pow (by simp)]
  · rw [pow_add, ZMod.pow_card_sub_one_eq_one hy, one_mul]

theorem eq_of_cast_eq {a b : Nat} (ha : a < fieldPrime) (hb : b < fieldPrime)
    (h : (a : ZMod fieldPrime) = b) : a = b := by
  rwa [← mod_eq_mod_iff, Nat.mod_eq_of_lt ha, Nat.mod_eq_of_lt hb] at h

theorem sqrt?_eq_some {a y : Nat} (hy : y < fieldPrime) (h : y * y % fieldPrime = a) :
    ∃ root, sqrt? a = some root ∧ (root = y ∨ 0 < y ∧ root = fieldPrime - y) := by
  have hcast : (a : ZMod fieldPrime) = (y : ZMod fieldPrime) ^ 2 := by
    rw [← h, ZMod.natCast_mod, Nat.cast_mul, pow_two]
  obtain ⟨root, hroot⟩ : ∃ root, Modular.pow fieldPrime a ((fieldPrime + 1) / 4) = root := ⟨_, rfl⟩
  have hlt : root < fieldPrime := by
    rw [← hroot, Modular.pow_eq]
    exact Nat.mod_lt _ (NeZero.pos fieldPrime)
  have hsquare : (root : ZMod fieldPrime) * root = (y : ZMod fieldPrime) ^ 2 := by
    rw [← hroot, Modular.cast_pow, hcast, cast_sqrt_exponent]
  -- The power is a root, and in a field a square has no roots but two opposite ones.
  refine ⟨root, ?_, ?_⟩
  · rw [sqrt?, hroot, if_pos]
    rw [mod_eq_mod_iff, Nat.cast_mul, hsquare, hcast]
  · rcases Nat.eq_zero_or_pos y with rfl | hpos
    · left
      rw [Nat.cast_zero, zero_pow (by simp), mul_self_eq_zero] at hsquare
      exact eq_of_cast_eq hlt hy (by rw [hsquare, Nat.cast_zero])
    · rw [pow_two, mul_self_eq_mul_self_iff] at hsquare
      rcases hsquare with heq | hneg
      · exact .inl (eq_of_cast_eq hlt hy heq)
      · refine .inr ⟨hpos, eq_of_cast_eq hlt (by omega) ?_⟩
        rw [hneg, Nat.cast_sub hy.le, ZMod.natCast_self, zero_sub]

theorem liftX?_eq_some (h : p.OnCurve) : liftX? p.x (p.y % 2 == 1) = some p := by
  obtain ⟨root, hroot, hsign⟩ := sqrt?_eq_some h.y_lt h.equation
  have hodd : fieldPrime % 2 = 1 := by decide
  have hlt := h.y_lt
  rw [liftX?, if_neg (Nat.not_le.mpr h.x_lt), hroot, Option.map_some]
  rcases hsign with rfl | ⟨hpos, rfl⟩
  · rw [if_pos rfl]
  · have hparity : ¬ ((fieldPrime - p.y) % 2 == 1) = (p.y % 2 == 1) := by
      rw [Bool.eq_iff_iff, beq_iff_eq, beq_iff_eq]
      omega
    rw [if_neg hparity, Nat.sub_sub_self hlt.le]

theorem cubic_ne_zero (x : Nat) : cubic x ≠ 0 := by
  intro hzero
  have hcube : (x : ZMod fieldPrime) ^ 3 = -7 := by
    have hcast := cast_cubic x
    rw [hzero, Nat.cast_zero] at hcast
    exact eq_neg_of_add_eq_zero_left hcast.symm
  have hseven : (7 : ZMod fieldPrime) ≠ 0 :=
    natCast_ne_zero (n := 7) (by decide) (by decide)
  have hx : (x : ZMod fieldPrime) ≠ 0 := by
    intro hx
    rw [hx, zero_pow (by decide)] at hcube
    exact hseven (neg_eq_zero.mp hcube.symm)
  -- A cube raised to a third of the group's order is one, which the negative of seven is not.
  have hbase : ((fieldPrime - 7 : Nat) : ZMod fieldPrime) = (x : ZMod fieldPrime) ^ 3 := by
    rw [hcube, Nat.cast_sub (by decide), ZMod.natCast_self, zero_sub, Nat.cast_ofNat]
  have hexponent : 3 * ((fieldPrime - 1) / 3) = fieldPrime - 1 := by decide
  have hone : ((fieldPrime - 7 : Nat) : ZMod fieldPrime) ^ ((fieldPrime - 1) / 3) = 1 := by
    rw [hbase, ← pow_mul, hexponent]
    exact ZMod.pow_card_sub_one_eq_one hx
  have hpower : Modular.pow fieldPrime (fieldPrime - 7) ((fieldPrime - 1) / 3) ≠ 1 := by
    decide +kernel
  exact hpower ((cast_pow_eq_one_iff (by decide)).mp hone)

theorem square_of_sqrt? {a root : Nat} (h : sqrt? a = some root) :
    root < fieldPrime ∧ root * root % fieldPrime = a % fieldPrime := by
  rw [sqrt?] at h
  split at h
  · rename_i hsquare
    rw [Option.some.injEq] at h
    rw [h] at hsquare
    refine ⟨?_, hsquare⟩
    rw [← h, Modular.pow_eq]
    exact Nat.mod_lt _ (NeZero.pos fieldPrime)
  · cases h

theorem mul_self_sub {root : Nat} (h : root ≤ fieldPrime) :
    (fieldPrime - root) * (fieldPrime - root) % fieldPrime = root * root % fieldPrime := by
  rw [mod_eq_mod_iff, Nat.cast_mul, Nat.cast_mul, Nat.cast_sub h, ZMod.natCast_self, zero_sub,
    neg_mul_neg]

theorem onCurve_of_liftX? {x : Nat} {odd : Bool} (h : liftX? x odd = some p) :
    p.OnCurve ∧ p.x = x ∧ (p.y % 2 == 1) = odd := by
  rw [liftX?] at h
  split at h
  · cases h
  · rename_i hx
    obtain ⟨root, hroot, rfl⟩ := Option.map_eq_some_iff.mp h
    obtain ⟨hlt, hsquare⟩ := square_of_sqrt? hroot
    have hresidue : cubic x % fieldPrime = cubic x := Nat.mod_mod _ _
    have hnonzero : root ≠ 0 := by
      rintro rfl
      rw [hresidue] at hsquare
      exact cubic_ne_zero x hsquare.symm
    have hodd : fieldPrime % 2 = 1 := by decide
    rw [hresidue] at hsquare
    by_cases hparity : (root % 2 == 1) = odd
    · rw [if_pos hparity]
      exact ⟨⟨Nat.lt_of_not_le hx, hlt, hsquare⟩, rfl, hparity⟩
    · rw [if_neg hparity]
      refine ⟨⟨Nat.lt_of_not_le hx, ?_, ?_⟩, rfl, ?_⟩
      · show fieldPrime - root < fieldPrime
        omega
      · rw [mul_self_sub hlt.le, hsquare]
      · have hflip : ((fieldPrime - root) % 2 == 1) = !(root % 2 == 1) := by
          rw [Bool.eq_iff_iff, Bool.not_eq_true', beq_iff_eq, beq_eq_false_iff_ne]
          omega
        exact hflip.trans (Bool.not_eq.mpr hparity)

theorem liftX?_eq_some_iff {x : Nat} {odd : Bool} :
    liftX? x odd = some p ↔ p.OnCurve ∧ p.x = x ∧ (p.y % 2 == 1) = odd := by
  constructor
  · exact onCurve_of_liftX?
  · rintro ⟨hcurve, rfl, rfl⟩
    exact liftX?_eq_some hcurve

end BlobInscription.Secp256k1
