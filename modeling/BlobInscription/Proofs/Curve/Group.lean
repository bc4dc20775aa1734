import BlobInscription.Proofs.Curve.Primality
import Mathlib.AlgebraicGeometry.EllipticCurve.Affine.Point

/-!
The points of secp256k1 as a group. Jacobian coordinates are computed with as the group law demands,
so that a sum of multiples of points is what its name says.
-/

namespace BlobInscription.Secp256k1

open WeierstrassCurve.Affine (Point.zero_def Point.add_self_of_Y_eq Point.add_self_of_Y_ne
  Point.add_of_Y_eq Point.add_of_X_ne)

/-- The curve y² = x³ + 7. -/
def curve : WeierstrassCurve.Affine (ZMod fieldPrime) :=
  ⟨0, 0, 0, 0, 7⟩

variable {x y : ZMod fieldPrime}

theorem natCast_ne_zero {n : Nat} (hn : n ≠ 0) (hlt : n < fieldPrime) :
    (n : ZMod fieldPrime) ≠ 0 := by
  rw [ne_eq, ZMod.natCast_eq_zero_iff]
  intro hdvd
  exact absurd (Nat.le_of_dvd (Nat.pos_of_ne_zero hn) hdvd) (by omega)

theorem cast_two_ne_zero : (2 : ZMod fieldPrime) ≠ 0 :=
  natCast_ne_zero (n := 2) (by decide) (by decide)

theorem mod_eq_mod_iff {a b : Nat} :
    a % fieldPrime = b % fieldPrime ↔ (a : ZMod fieldPrime) = b :=
  (ZMod.natCast_eq_natCast_iff' a b fieldPrime).symm

theorem equation_iff : curve.Equation x y ↔ y ^ 2 = x ^ 3 + 7 := by
  rw [WeierstrassCurve.Affine.equation_iff]
  simp [curve]

theorem nonsingular_iff : curve.Nonsingular x y ↔ y ^ 2 = x ^ 3 + 7 := by
  have hdiscriminant : curve.Δ ≠ 0 := by
    have hvalue : curve.Δ = -(21168 : Nat) := by
      simp [curve, WeierstrassCurve.Δ, WeierstrassCurve.b₂, WeierstrassCurve.b₄,
        WeierstrassCurve.b₆, WeierstrassCurve.b₈]
      norm_num
    rw [hvalue, neg_ne_zero]
    exact natCast_ne_zero (by decide) (by decide)
  rw [← WeierstrassCurve.Affine.equation_iff_nonsingular_of_Δ_ne_zero hdiscriminant, equation_iff]

theorem negY_eq (x y : ZMod fieldPrime) : curve.negY x y = -y := by
  simp [WeierstrassCurve.Affine.negY, curve]

namespace Jacobian

/-- The coordinates are those of the point of the group. -/
def Describes (p : Jacobian) : curve.Point → Prop
  | .zero => p.z = 0
  | .some x y _ => (p.z : ZMod fieldPrime) ≠ 0 ∧ (p.x : ZMod fieldPrime) = x * p.z ^ 2 ∧
      (p.y : ZMod fieldPrime) = y * p.z ^ 3

variable {p q : Jacobian} {P Q : curve.Point} {x' y' : ZMod fieldPrime}
  {hxy : curve.Nonsingular x y} {hxy' : curve.Nonsingular x' y'}

theorem describes_infinity : infinity.Describes 0 :=
  rfl

theorem z_ne_zero_of_describes_some (h : p.Describes (.some x y hxy)) : p.z ≠ 0 := by
  intro hzero
  apply h.1
  rw [hzero, Nat.cast_zero]

theorem y_eq_zero_iff_of_describes_some (hlt : p.y < fieldPrime)
    (h : p.Describes (.some x y hxy)) : p.y = 0 ↔ y = 0 := by
  obtain ⟨hz, -, hy⟩ := h
  constructor
  · intro hzero
    rw [hzero, Nat.cast_zero] at hy
    exact (mul_eq_zero.mp hy.symm).resolve_right (pow_ne_zero 3 hz)
  · rintro rfl
    rw [zero_mul] at hy
    by_contra hne
    exact natCast_ne_zero hne hlt hy

theorem describes_double_of_y_ne_zero (hlt : p.y < fieldPrime) (h : p.Describes (.some x y hxy))
    (hy0 : y ≠ 0) : p.double.Describes (.some x y hxy + .some x y hxy) := by
  have hne : y ≠ curve.negY x y := by
    rw [negY_eq]
    intro hself
    have hdouble : 2 * y = 0 := by linear_combination hself
    exact hy0 ((mul_eq_zero.mp hdouble).resolve_left cast_two_ne_zero)
  have hslope : curve.slope x x y y = 3 * x ^ 2 / (2 * y) := by
    rw [WeierstrassCurve.Affine.slope_of_Y_ne rfl hne, negY_eq]
    simp [curve, two_mul]
  have hfinite : ¬(p.z = 0 ∨ p.y = 0) := by
    rw [not_or, y_eq_zero_iff_of_describes_some hlt h]
    exact ⟨z_ne_zero_of_describes_some h, hy0⟩
  obtain ⟨hz, hx, hy⟩ := h
  have htwo := cast_two_ne_zero
  rw [Point.add_self_of_Y_ne hne, double, if_neg hfinite]
  simp only [Describes, hslope, WeierstrassCurve.Affine.addX, WeierstrassCurve.Affine.addY,
    WeierstrassCurve.Affine.negAddY, negY_eq, ZMod.natCast_mod, Modular.cast_sub, Nat.cast_mul,
    Nat.cast_ofNat, hx, hy]
  simp only [curve]
  refine ⟨?_, ?_, ?_⟩
  · simp [hz, hy0, htwo]
  · field_simp
    ring
  · field_simp
    ring

theorem describes_double (hlt : p.y < fieldPrime) (h : p.Describes P) :
    p.double.Describes (P + P) := by
  cases P with
  | zero =>
      rw [double, if_pos (.inl h)]
      exact describes_infinity
  | some x y hxy =>
      by_cases hy0 : y = 0
      · have hself : y = curve.negY x y := by rw [negY_eq, hy0, neg_zero]
        have hvertical := (y_eq_zero_iff_of_describes_some hlt h).mpr hy0
        rw [Point.add_self_of_Y_eq hself, double, if_pos (.inr hvertical)]
        exact describes_infinity
      · exact describes_double_of_y_ne_zero hlt h hy0

theorem eq_iff_of_scaled {a b c d scale : ZMod fieldPrime} (hscale : scale ≠ 0)
    (ha : a = c * scale) (hb : b = d * scale) : a = b ↔ c = d := by
  rw [ha, hb, mul_left_inj' hscale]

/-- The products that `add` compares decide whether two points have the same first coordinate. -/
theorem cross_x_eq_iff (h : p.Describes (.some x y hxy)) (h' : q.Describes (.some x' y' hxy')) :
    p.x * (q.z * q.z % fieldPrime) % fieldPrime =
      q.x * (p.z * p.z % fieldPrime) % fieldPrime ↔ x = x' := by
  obtain ⟨hz, hx, -⟩ := h
  obtain ⟨hz', hx', -⟩ := h'
  rw [mod_eq_mod_iff]
  simp only [Nat.cast_mul, ZMod.natCast_mod, hx, hx']
  exact eq_iff_of_scaled (mul_ne_zero (pow_ne_zero 2 hz) (pow_ne_zero 2 hz')) (by ring) (by ring)

theorem cross_y_eq_iff (h : p.Describes (.some x y hxy)) (h' : q.Describes (.some x' y' hxy')) :
    p.y * (q.z * q.z % fieldPrime) % fieldPrime * q.z % fieldPrime =
      q.y * (p.z * p.z % fieldPrime) % fieldPrime * p.z % fieldPrime ↔ y = y' := by
  obtain ⟨hz, -, hy⟩ := h
  obtain ⟨hz', -, hy'⟩ := h'
  rw [mod_eq_mod_iff]
  simp only [Nat.cast_mul, ZMod.natCast_mod, hy, hy']
  exact eq_iff_of_scaled (mul_ne_zero (pow_ne_zero 3 hz) (pow_ne_zero 3 hz')) (by ring) (by ring)

theorem describes_add_of_x_ne (h : p.Describes (.some x y hxy))
    (h' : q.Describes (.some x' y' hxy')) (hne : x ≠ x') :
    (p.add q).Describes (.some x y hxy + .some x' y' hxy') := by
  rw [add, if_neg (z_ne_zero_of_describes_some h), if_neg (z_ne_zero_of_describes_some h')]
  dsimp only
  rw [if_neg (fun heq => hne ((cross_x_eq_iff h h').mp heq)), Point.add_of_X_ne hne]
  obtain ⟨hz, hx, hy⟩ := h
  obtain ⟨hz', hx', hy'⟩ := h'
  have hdiff : x - x' ≠ 0 := sub_ne_zero.mpr hne
  have hdiff' : x' - x ≠ 0 := sub_ne_zero.mpr hne.symm
  simp only [Describes, WeierstrassCurve.Affine.slope_of_X_ne hne, WeierstrassCurve.Affine.addX,
    WeierstrassCurve.Affine.addY, WeierstrassCurve.Affine.negAddY, negY_eq, ZMod.natCast_mod,
    Modular.cast_sub, Nat.cast_mul, Nat.cast_add, Nat.cast_ofNat, hx, hy, hx', hy']
  simp only [curve]
  refine ⟨?_, ?_, ?_⟩
  · have hprod : x' * (q.z : ZMod fieldPrime) ^ 2 * (p.z * p.z) -
        x * (p.z : ZMod fieldPrime) ^ 2 * (q.z * q.z) =
        (x' - x) * ((p.z : ZMod fieldPrime) ^ 2 * (q.z : ZMod fieldPrime) ^ 2) := by
      ring
    rw [hprod]
    simp [hz, hz', hdiff']
  · field_simp
    ring
  · field_simp
    ring

theorem describes_add (hlt : p.y < fieldPrime) (h : p.Describes P) (h' : q.Describes Q) :
    (p.add q).Describes (P + Q) := by
  cases P with
  | zero =>
      have hpz : p.z = 0 := h
      rw [add, if_pos hpz, ← Point.zero_def, zero_add]
      exact h'
  | some x y hxy =>
      have hpz := z_ne_zero_of_describes_some h
      cases Q with
      | zero =>
          have hqz : q.z = 0 := h'
          rw [add, if_neg hpz, if_pos hqz, ← Point.zero_def, add_zero]
          exact h
      | some x' y' hxy' =>
          by_cases hxx : x = x'
          · rw [add, if_neg hpz, if_neg (z_ne_zero_of_describes_some h')]
            dsimp only
            rw [if_pos ((cross_x_eq_iff h h').mpr hxx)]
            subst hxx
            by_cases hyy : y = y'
            · rw [if_pos ((cross_y_eq_iff h h').mpr hyy)]
              subst hyy
              exact describes_double hlt h
            · -- Two points of the curve over one first coordinate are opposite.
              rw [if_neg (fun heq => hyy ((cross_y_eq_iff h h').mp heq))]
              have hopposite : y = curve.negY x y' :=
                (WeierstrassCurve.Affine.Y_eq_of_X_eq hxy.1 hxy'.1 rfl).resolve_left hyy
              rw [Point.add_of_Y_eq rfl hopposite]
              exact describes_infinity
          · exact describes_add_of_x_ne h h' hxx

/-- The coordinates are those of the point of the group. Those that are compared with zero are
residues. -/
structure Represents (p : Jacobian) (P : curve.Point) : Prop where
  y_lt : p.y < fieldPrime
  z_lt : p.z < fieldPrime
  describes : p.Describes P

theorem represents_infinity : infinity.Represents 0 :=
  ⟨by decide, by decide +kernel, describes_infinity⟩

theorem Represents.double (h : p.Represents P) : p.double.Represents (P + P) := by
  refine ⟨?_, ?_, describes_double h.y_lt h.describes⟩
  · unfold Jacobian.double
    split
    · exact represents_infinity.y_lt
    · exact Modular.sub_lt _ _ _
  · unfold Jacobian.double
    split
    · exact represents_infinity.z_lt
    · exact Nat.mod_lt _ (NeZero.pos fieldPrime)

theorem Represents.add (h : p.Represents P) (h' : q.Represents Q) :
    (p.add q).Represents (P + Q) := by
  refine ⟨?_, ?_, describes_add h.y_lt h.describes h'.describes⟩
  · unfold Jacobian.add
    dsimp only
    split_ifs
    · exact h'.y_lt
    · exact h.y_lt
    · exact h.double.y_lt
    · exact represents_infinity.y_lt
    · exact Modular.sub_lt _ _ _
  · unfold Jacobian.add
    dsimp only
    split_ifs
    · exact h'.z_lt
    · exact h.z_lt
    · exact h.double.z_lt
    · exact represents_infinity.z_lt
    · exact Nat.mod_lt _ (NeZero.pos fieldPrime)

theorem mod_of_testBit {a bits : Nat} (h : a.testBit bits = true) :
    a % 2 ^ (bits + 1) = a % 2 ^ bits + 2 ^ bits := by
  rw [Nat.testBit_eq_decide_div_mod_eq, decide_eq_true_eq] at h
  rw [Nat.mod_pow_succ, h, mul_one]

theorem mod_of_not_testBit {a bits : Nat} (h : a.testBit bits = false) :
    a % 2 ^ (bits + 1) = a % 2 ^ bits := by
  rw [Nat.testBit_eq_decide_div_mod_eq, decide_eq_false_iff_not] at h
  have hzero : a / 2 ^ bits % 2 = 0 := by omega
  rw [Nat.mod_pow_succ, hzero, mul_zero, add_zero]

theorem represents_combineBits {both sum : Jacobian} {S : curve.Point} (hp : p.Represents P)
    (hq : q.Represents Q) (hboth : both.Represents (P + Q)) (a b bits : Nat)
    (hsum : sum.Represents S) : (combineBits p q both a b bits sum).Represents
      (2 ^ bits • S + ((a % 2 ^ bits) • P + (b % 2 ^ bits) • Q)) := by
  -- The sum so far takes in one bit of each multiple, and is doubled as often as bits are left.
  induction bits generalizing sum S with
  | zero => simpa [combineBits, Nat.mod_one] using hsum
  | succ bits ih =>
      have hdouble := hsum.double
      rw [combineBits]
      cases ha : a.testBit bits with
      | true =>
          rw [mod_of_testBit ha]
          cases hb : b.testBit bits with
          | true =>
              rw [mod_of_testBit hb]
              convert ih (hdouble.add hboth) using 1
              module
          | false =>
              rw [mod_of_not_testBit hb]
              convert ih (hdouble.add hp) using 1
              module
      | false =>
          rw [mod_of_not_testBit ha]
          cases hb : b.testBit bits with
          | true =>
              rw [mod_of_testBit hb]
              convert ih (hdouble.add hq) using 1
              module
          | false =>
              rw [mod_of_not_testBit hb]
              convert ih hdouble using 1
              module

theorem represents_combine {p q : Point} (hp : (ofPoint p).Represents P)
    (hq : (ofPoint q).Represents Q) {a b : Nat} (ha : a < 2 ^ 256) (hb : b < 2 ^ 256) :
    (combine a p b q).Represents (a • P + b • Q) := by
  have h := represents_combineBits hp hq (hp.add hq) a b 256 represents_infinity
  rwa [nsmul_zero, zero_add, Nat.mod_eq_of_lt ha, Nat.mod_eq_of_lt hb] at h

theorem Represents.eq_zero (h : p.Represents P) (hz : p.z = 0) : P = 0 := by
  cases P with
  | zero => rfl
  | some x y hxy => exact absurd hz (z_ne_zero_of_describes_some h.describes)

end Jacobian

section Affine

/-- The coordinates of a point other than the one at infinity. -/
def affine? : curve.Point → Option Point
  | .zero => none
  | .some x y _ => some ⟨x.val, y.val⟩

theorem Jacobian.Represents.toPoint?_eq {p : Jacobian} {P : curve.Point} (h : p.Represents P) :
    p.toPoint? = affine? P := by
  cases P with
  | zero =>
      have hz : p.z = 0 := h.describes
      rw [toPoint?, if_pos hz]
      rfl
  | some x y hxy =>
      obtain ⟨hz, hx, hy⟩ := h.describes
      have hinverse := Modular.cast_inverse (m := fieldPrime) (by decide) p.z
      rw [toPoint?, if_neg (Jacobian.z_ne_zero_of_describes_some h.describes), affine?]
      rw [Option.some.injEq, Point.mk.injEq]
      constructor
      · refine (ZMod.val_natCast fieldPrime _).symm.trans (congrArg ZMod.val ?_)
        simp only [Nat.cast_mul, ZMod.natCast_mod, hinverse, hx]
        field_simp
      · refine (ZMod.val_natCast fieldPrime _).symm.trans (congrArg ZMod.val ?_)
        simp only [Nat.cast_mul, ZMod.natCast_mod, hinverse, hy]
        field_simp

/-- A point of the curve, with residues for coordinates. -/
@[mk_iff]
structure Point.OnCurve (p : Point) : Prop where
  x_lt : p.x < fieldPrime
  y_lt : p.y < fieldPrime
  equation : p.y * p.y % fieldPrime = cubic p.x

instance (p : Point) : Decidable p.OnCurve :=
  decidable_of_iff _ p.onCurve_iff.symm

variable {p q : Point}

theorem cast_cubic (x : Nat) : (cubic x : ZMod fieldPrime) = (x : ZMod fieldPrime) ^ 3 + 7 := by
  simp only [cubic, ZMod.natCast_mod, Nat.cast_add, Nat.cast_mul, Nat.cast_ofNat]
  ring

theorem Point.OnCurve.nonsingular (h : p.OnCurve) :
    curve.Nonsingular (p.x : ZMod fieldPrime) p.y := by
  have hequation := congrArg (Nat.cast : Nat → ZMod fieldPrime) h.equation
  rw [ZMod.natCast_mod, Nat.cast_mul, cast_cubic] at hequation
  rw [nonsingular_iff, pow_two, hequation]

/-- The element of the group that a point is. -/
def Point.element (p : Point) (h : p.OnCurve) : curve.Point :=
  .some p.x p.y h.nonsingular

theorem onCurve_of_affine? {P : curve.Point} (h : affine? P = some p) :
    ∃ hp : p.OnCurve, p.element hp = P := by
  cases P with
  | zero => cases h
  | some x y hxy =>
      cases h
      have hequation := nonsingular_iff.mp hxy
      have hresidue : cubic x.val % fieldPrime = cubic x.val := Nat.mod_mod _ _
      refine ⟨⟨x.val_lt, y.val_lt, ?_⟩, ?_⟩
      · rw [← hresidue, mod_eq_mod_iff, Nat.cast_mul, cast_cubic, ZMod.natCast_zmod_val,
          ZMod.natCast_zmod_val, ← pow_two, hequation]
      · simp [Point.element]

theorem exists_affine? {P : curve.Point} (h : P ≠ 0) : ∃ p, affine? P = some p := by
  cases P with
  | zero => exact absurd rfl h
  | some x y hxy => exact ⟨_, rfl⟩

theorem represents_ofPoint (h : p.OnCurve) : (Jacobian.ofPoint p).Represents (p.element h) := by
  refine ⟨h.y_lt, Nat.lt_of_lt_of_le one_lt_two prime_fieldPrime.two_le, ?_⟩
  simp [Jacobian.Describes, Point.element, Jacobian.ofPoint]

/-- The sum of the multiples of two points. -/
theorem combine?_eq (hp : p.OnCurve) (hq : q.OnCurve) {a b : Nat} (ha : a < 2 ^ 256)
    (hb : b < 2 ^ 256) : combine? a p b q = affine? (a • p.element hp + b • q.element hq) :=
  (Jacobian.represents_combine (represents_ofPoint hp) (represents_ofPoint hq) ha hb).toPoint?_eq

theorem onCurve_generator : generator.OnCurve := by
  decide

/-- The generator as an element of the group. -/
def base : curve.Point :=
  generator.element onCurve_generator

theorem order_smul_base : order • base = 0 := by
  -- The sum is computed: it comes out at infinity.
  have h := Jacobian.represents_combine (represents_ofPoint onCurve_generator)
    (represents_ofPoint onCurve_generator) (a := order) (b := 0) (by decide) (by decide)
  rw [zero_nsmul, add_zero] at h
  exact h.eq_zero (by decide +kernel)

theorem addOrderOf_base : addOrderOf base = order :=
  addOrderOf_eq_prime order_smul_base (WeierstrassCurve.Affine.Point.some_ne_zero _)

theorem multiple?_eq {a : Nat} (ha : a < 2 ^ 256) : multiple? a = affine? (a • base) := by
  rw [multiple?, combine?_eq onCurve_generator onCurve_generator ha (by decide), zero_nsmul,
    add_zero, base]

theorem exists_multiple {a : Nat} (hpos : 0 < a) (hlt : a < order) :
    ∃ p, multiple? a = some p ∧ ∃ hp : p.OnCurve, p.element hp = a • base := by
  have hnonzero : a • base ≠ 0 := by
    rw [ne_eq, ← addOrderOf_dvd_iff_nsmul_eq_zero, addOrderOf_base]
    intro hdvd
    exact absurd (Nat.le_of_dvd hpos hdvd) (by omega)
  obtain ⟨p, hp⟩ := exists_affine? hnonzero
  have hbits : order < 2 ^ 256 := by decide
  refine ⟨p, ?_, onCurve_of_affine? hp⟩
  rw [multiple?_eq (hlt.trans hbits), hp]

end Affine

end BlobInscription.Secp256k1
