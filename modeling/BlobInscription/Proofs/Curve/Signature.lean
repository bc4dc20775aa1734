import BlobInscription.Curve.Ecdsa
import BlobInscription.Proofs.Curve.Group

namespace BlobInscription.Ecdsa

open Secp256k1 (Point order curve base affine?)

variable {P : curve.Point} {a b : Nat}

theorem smul_eq_of_cast_eq (hP : order • P = 0) (h : (a : ZMod order) = b) : a • P = b • P := by
  rw [ZMod.natCast_eq_natCast_iff'] at h
  rw [nsmul_eq_mod_nsmul a hP, h, ← nsmul_eq_mod_nsmul b hP]

theorem affine?_neg (P : curve.Point) : (affine? (-P)).map Point.x = (affine? P).map Point.x := by
  cases P with
  | zero => rfl
  | some x y hxy => rfl

/-- The point whose multiple a verification computes. -/
def challenge (digest : Bytes) (r : Nat) (K : curve.Point) : curve.Point :=
  Bytes.toNatBE digest • base + r • K

variable {key : Point} {digest : Bytes} {r s : Nat}

theorem order_smul_challenge {K : curve.Point} (hK : order • K = 0) :
    order • challenge digest r K = 0 := by
  rw [challenge, nsmul_add, nsmul_left_comm, Secp256k1.order_smul_base, nsmul_left_comm, hK,
    nsmul_zero, nsmul_zero, add_zero]

theorem verify_iff (hkey : key.OnCurve) (horder : order • key.element hkey = 0) :
    verify key digest ⟨r, s⟩ = true ↔
      ∃ x, (affine? (Modular.inverse order s • challenge digest r (key.element hkey))).map Point.x =
        some x ∧ x % order = r := by
  have hbound : ∀ n, n % order < 2 ^ 256 := by
    intro n
    exact (Nat.mod_lt n (by decide)).trans (by decide)
  have hbase : (Bytes.toNatBE digest % order * Modular.inverse order s % order) • base =
      Modular.inverse order s • Bytes.toNatBE digest • base := by
    rw [← mul_nsmul]
    refine smul_eq_of_cast_eq Secp256k1.order_smul_base ?_
    simp only [ZMod.natCast_mod, Nat.cast_mul]
  have helement : (r * Modular.inverse order s % order) • key.element hkey =
      Modular.inverse order s • r • key.element hkey := by
    rw [← mul_nsmul]
    refine smul_eq_of_cast_eq horder ?_
    rw [ZMod.natCast_mod]
  dsimp only [verify]
  rw [Secp256k1.combine?_eq Secp256k1.onCurve_generator hkey (hbound _) (hbound _), ← base, hbase,
    helement, ← nsmul_add, ← challenge]
  cases affine? (Modular.inverse order s • challenge digest r (key.element hkey)) with
  | none => simp
  | some point => simp

theorem cast_inverse_sub (hs : s ≤ order) :
    ((Modular.inverse order (order - s) + Modular.inverse order s : Nat) : ZMod order) = 0 := by
  have htwo : 2 < order := by decide
  rw [Nat.cast_add, Modular.cast_inverse htwo, Modular.cast_inverse htwo, Nat.cast_sub hs,
    ZMod.natCast_self, zero_sub, inv_neg, neg_add_cancel]

/-- A signature verifies with either second scalar, or with none. -/
theorem verify_negated (hkey : key.OnCurve) (horder : order • key.element hkey = 0)
    (hs : s ≤ order) : verify key digest ⟨r, order - s⟩ = verify key digest ⟨r, s⟩ := by
  have hsum : Modular.inverse order (order - s) • challenge digest r (key.element hkey) +
      Modular.inverse order s • challenge digest r (key.element hkey) = 0 := by
    rw [← add_nsmul, smul_eq_of_cast_eq (b := 0) (order_smul_challenge horder), zero_nsmul]
    rw [cast_inverse_sub hs, Nat.cast_zero]
  rw [Bool.eq_iff_iff, verify_iff hkey horder, verify_iff hkey horder,
    eq_neg_of_add_eq_zero_left hsum, affine?_neg]

theorem exists_key {secret : Nat} (h : isScalar secret = true) :
    ∃ key, Secp256k1.multiple? secret = some key ∧
      ∃ hkey : key.OnCurve, key.element hkey = secret • base ∧ order • key.element hkey = 0 := by
  simp only [isScalar, Bool.and_eq_true, decide_eq_true_eq] at h
  obtain ⟨key, hmultiple, hkey, helement⟩ := Secp256k1.exists_multiple h.1 h.2
  refine ⟨key, hmultiple, hkey, helement, ?_⟩
  rw [helement, nsmul_left_comm, Secp256k1.order_smul_base, nsmul_zero]

theorem smul_challenge_signWith {nonce secret : Nat} {K : curve.Point} (hK : K = secret • base)
    (hs : (signWith nonce secret digest).s ≠ 0) :
    Modular.inverse order (signWith nonce secret digest).s •
      challenge digest (signWith nonce secret digest).r K = nonce • base := by
  have htwo : 2 < order := by decide
  set r := (signWith nonce secret digest).r with hr
  have hscalar : ((signWith nonce secret digest).s : ZMod order) =
      (nonce : ZMod order)⁻¹ * (Bytes.toNatBE digest + r * secret) := by
    rw [hr]
    simp only [signWith, ZMod.natCast_mod, Nat.cast_mul, Nat.cast_add, Modular.cast_inverse htwo]
  have hnonzero : ((signWith nonce secret digest).s : ZMod order) ≠ 0 := by
    have hlt : (signWith nonce secret digest).s < order := Nat.mod_lt _ (by decide)
    rw [ne_eq, ZMod.natCast_eq_zero_iff]
    intro hdvd
    exact absurd (Nat.le_of_dvd (Nat.pos_of_ne_zero hs) hdvd) (by omega)
  have hfactors := hscalar ▸ hnonzero
  rw [challenge, hK, ← mul_nsmul', ← add_nsmul, ← mul_nsmul']
  refine smul_eq_of_cast_eq Secp256k1.order_smul_base ?_
  rw [Nat.cast_mul, Modular.cast_inverse htwo, hscalar, Nat.cast_add, Nat.cast_mul, mul_inv,
    inv_inv, mul_assoc, inv_mul_cancel₀ (right_ne_zero_of_mul hfactors), mul_one]

theorem verify_signWith {nonce secret : Nat} (hnonce : isScalar nonce = true)
    (hsecret : isScalar secret = true) (hkey : Secp256k1.multiple? secret = some key)
    (hs : (signWith nonce secret digest).s ≠ 0) :
    verify key digest (signWith nonce secret digest) = true := by
  obtain ⟨key', hkey', honCurve, helement, horder⟩ := exists_key hsecret
  obtain rfl := Option.some.inj (hkey.symm.trans hkey')
  simp only [isScalar, Bool.and_eq_true, decide_eq_true_eq] at hnonce
  obtain ⟨point, hpoint, -⟩ := Secp256k1.exists_multiple hnonce.1 hnonce.2
  have hbits : nonce < 2 ^ 256 := hnonce.2.trans (by decide)
  have hr : (signWith nonce secret digest).r = point.x % order := by
    simp only [signWith, hpoint]
  have hcomputed := congrArg affine? (smul_challenge_signWith helement hs)
  rw [← Secp256k1.multiple?_eq hbits, hpoint] at hcomputed
  exact (verify_iff (r := (signWith nonce secret digest).r) honCurve horder).mpr
    ⟨point.x, congrArg (Option.map Point.x) hcomputed, hr.symm⟩

theorem isScalar_nonceFor (secret : Nat) (digest : Bytes) :
    isScalar (nonceFor secret digest) = true := by
  have hlt : nonceFor secret digest - 1 < order - 1 := Nat.mod_lt _ (by decide)
  have hpos : 0 < nonceFor secret digest := Nat.succ_pos _
  simp only [isScalar, Bool.and_eq_true, decide_eq_true_eq]
  omega

theorem verify_sign {secret : Nat} (hsecret : isScalar secret = true)
    (hkey : Secp256k1.multiple? secret = some key) (hs : (sign secret digest).s ≠ 0) :
    verify key digest (sign secret digest) = true :=
  verify_signWith (isScalar_nonceFor secret digest) hsecret hkey hs

end BlobInscription.Ecdsa
