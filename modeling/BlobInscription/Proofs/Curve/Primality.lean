import BlobInscription.Curve.Secp256k1
import BlobInscription.Proofs.Curve.Modular
import Mathlib.NumberTheory.LucasPrimality
import Mathlib.Tactic.NormNum.Prime

/-!
The prime of the field and the order of the group are prime, by Lucas's test. The test of a number
needs the primes below it that divide its predecessor, so a certificate tests these first.
-/

namespace BlobInscription.Secp256k1

/-- A number, a witness of its primality, and the prime powers that make up its predecessor. -/
structure Lucas where
  number : Nat
  witness : Nat
  factors : List (Nat × Nat)

/-- Lucas's test, which takes the numbers in `known` for prime. -/
def Lucas.passes (known : List Nat) (l : Lucas) : Bool :=
  1 < l.number &&
  l.factors.all (fun f => known.contains f.1) &&
  (l.factors.map fun f => Nat.pow f.1 f.2).prod == l.number - 1 &&
  Modular.pow l.number l.witness (l.number - 1) == 1 &&
  l.factors.all fun f => Modular.pow l.number l.witness ((l.number - 1) / f.1) != 1

/-- Each number passes the test with the primes of `known` and the numbers behind it. -/
def certified (known : List Nat) : List Lucas → Bool
  | [] => true
  | l :: later => l.passes (later.map Lucas.number ++ known) && certified known later

theorem cast_pow_eq_one_iff {p base e : Nat} (hp : 1 < p) :
    (base : ZMod p) ^ e = 1 ↔ Modular.pow p base e = 1 := by
  rw [Modular.pow_eq, ← Nat.cast_pow, ← Nat.cast_one, ZMod.natCast_eq_natCast_iff',
    Nat.mod_eq_of_lt hp]

theorem Lucas.prime_of_passes {known : List Nat} {l : Lucas} (hknown : ∀ q ∈ known, q.Prime)
    (h : l.passes known = true) : l.number.Prime := by
  simp only [passes, Bool.and_eq_true, decide_eq_true_eq, List.all_eq_true, beq_iff_eq,
    bne_iff_ne, List.contains_iff_mem] at h
  obtain ⟨⟨⟨⟨hone, hfactors⟩, hproduct⟩, hfull⟩, hparts⟩ := h
  refine lucas_primality l.number (l.witness : ZMod l.number)
    ((cast_pow_eq_one_iff hone).mpr hfull) ?_
  intro q hq hdvd
  rw [← hproduct] at hdvd
  obtain ⟨power, hpower, hdvd⟩ := (hq.prime.dvd_prod_iff).mp hdvd
  obtain ⟨f, hf, rfl⟩ := List.mem_map.mp hpower
  have hprime := hknown f.1 (hfactors f hf)
  obtain rfl : q = f.1 := (Nat.prime_dvd_prime_iff_eq hq hprime).mp (hq.dvd_of_dvd_pow hdvd)
  rw [ne_eq, cast_pow_eq_one_iff hone]
  exact hparts f hf

theorem prime_of_certified {known : List Nat} {certificate : List Lucas}
    (hknown : ∀ q ∈ known, q.Prime) (h : certified known certificate = true) :
    ∀ l ∈ certificate, l.number.Prime := by
  -- A number is tested with the primes behind it, so those come first.
  induction certificate with
  | nil => simp
  | cons l later ih =>
      rw [certified, Bool.and_eq_true] at h
      have hlater := ih h.2
      have hall : ∀ q ∈ later.map Lucas.number ++ known, q.Prime := by
        intro q hq
        rcases List.mem_append.mp hq with hq | hq
        · obtain ⟨l', hl', rfl⟩ := List.mem_map.mp hq
          exact hlater l' hl'
        · exact hknown q hq
      exact List.forall_mem_cons.mpr ⟨l.prime_of_passes hall h.1, hlater⟩

def smallPrimes : List Nat :=
  [2, 3, 5, 7, 11, 17, 29, 31, 41, 53, 59, 97, 109, 149, 293, 461, 631, 797, 971, 1373, 1627, 1871,
    2011, 2621, 2657, 4051, 4423, 5323, 7723, 9349, 13441, 16699, 20113, 24809, 28181, 41201, 85831,
    96557, 120233, 305873]

theorem prime_of_mem_smallPrimes : ∀ q ∈ smallPrimes, q.Prime := by
  simp only [smallPrimes, List.forall_mem_cons]
  norm_num

def certificate : List Lucas := [
  ⟨fieldPrime, 3, [(2, 1), (3, 1), (7, 1), (13441, 1),
    (205115282021455665897114700593932402728804164701536103180137503955397371, 1)]⟩,
  ⟨205115282021455665897114700593932402728804164701536103180137503955397371, 10,
    [(2, 1), (3, 1), (5, 1), (29, 2), (31, 1), (7723, 1), (132896956044521568488119, 1),
      (255515944373312847190720520512484175977, 1)]⟩,
  ⟨255515944373312847190720520512484175977, 3,
    [(2, 3), (7, 2), (11, 1), (1627, 1), (2657, 1), (4423, 1), (41201, 1), (96557, 1), (7240687, 1),
      (107590001, 1)]⟩,
  ⟨132896956044521568488119, 6, [(2, 1), (3, 1), (22149492674086928081353, 1)]⟩,
  ⟨22149492674086928081353, 5, [(2, 3), (3, 1), (5323, 1), (173378833005251801, 1)]⟩,
  ⟨173378833005251801, 6, [(2, 3), (5, 2), (2621, 1), (24809, 1), (13331831, 1)]⟩,
  ⟨order, 7, [(2, 6), (3, 1), (149, 1), (631, 1), (107361793816595537, 1),
    (174723607534414371449, 1), (341948486974166000522343609283189, 1)]⟩,
  ⟨341948486974166000522343609283189, 2,
    [(2, 2), (3, 3), (109, 1), (29047611873442575647497758179, 1)]⟩,
  ⟨29047611873442575647497758179, 2,
    [(2, 1), (293, 1), (305873, 1), (545358713, 1), (297159362677, 1)]⟩,
  ⟨174723607534414371449, 3,
    [(2, 3), (17, 1), (59, 1), (4051, 1), (120233, 1), (44706919, 1)]⟩,
  ⟨107361793816595537, 3, [(2, 4), (16699, 1), (85831, 1), (4681609, 1)]⟩,
  ⟨297159362677, 2, [(2, 2), (3, 2), (11, 1), (461, 1), (1627771, 1)]⟩,
  ⟨545358713, 5, [(2, 3), (41, 1), (59, 1), (28181, 1)]⟩,
  ⟨107590001, 3, [(2, 4), (5, 4), (7, 1), (29, 1), (53, 1)]⟩,
  ⟨44706919, 6, [(2, 1), (3, 1), (797, 1), (9349, 1)]⟩,
  ⟨13331831, 13, [(2, 1), (5, 1), (971, 1), (1373, 1)]⟩,
  ⟨7240687, 3, [(2, 1), (3, 1), (1206781, 1)]⟩,
  ⟨4681609, 23, [(2, 3), (3, 1), (97, 1), (2011, 1)]⟩,
  ⟨1627771, 3, [(2, 1), (3, 1), (5, 1), (29, 1), (1871, 1)]⟩,
  ⟨1206781, 10, [(2, 2), (3, 1), (5, 1), (20113, 1)]⟩]

theorem certified_certificate : certified smallPrimes certificate = true := by
  decide +kernel

theorem prime_fieldPrime : fieldPrime.Prime :=
  prime_of_certified prime_of_mem_smallPrimes certified_certificate _ (.head _)

theorem prime_order : order.Prime :=
  prime_of_certified prime_of_mem_smallPrimes certified_certificate
    ⟨order, _, _⟩ (List.mem_of_getElem? (i := 6) rfl)

instance : Fact fieldPrime.Prime :=
  ⟨prime_fieldPrime⟩

instance : Fact order.Prime :=
  ⟨prime_order⟩

end BlobInscription.Secp256k1
