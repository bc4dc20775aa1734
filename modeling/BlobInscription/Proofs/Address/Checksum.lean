import BlobInscription.Address.Segwit
import Mathlib.Data.Nat.Bitwise
import Mathlib.Tactic.Common
import Mathlib.Tactic.Ring

/-!
The checksum of segwit addresses is linear: the residue of two sequences added bit by bit is the sum
of their residues. So the last six values can make any residue come out, in one way.
-/

namespace BlobInscription.Segwit

variable {a b v w : Nat}

/-- One step of the checksum on natural numbers. -/
def step (chk value : Nat) : Nat :=
  chk % 2 ^ 25 * 32 ^^^ generatorSum (chk / 2 ^ 25 : Nat) 0 generators ^^^ value

theorem polymodStep_natCast (chk value : Nat) :
    polymodStep (chk : Int) (value : Int) = (step chk value : Int) := by
  have hlow : ((chk : Int) % (Nat.pow 2 25 : Nat)).toNat = chk % 2 ^ 25 := by
    rw [← Int.natCast_emod, Int.toNat_natCast, Nat.pow_eq]
  have hhigh : (chk : Int) / (Nat.pow 2 25 : Nat) = (chk / 2 ^ 25 : Nat) := by
    rw [← Int.natCast_ediv, Nat.pow_eq]
  rw [polymodStep, hlow, hhigh]
  rfl

theorem polymod_natCast (values : List Nat) :
    polymod (values.map Nat.cast) = (values.foldl step 1 : Nat) := by
  have hfold : ∀ chk : Nat, (values.map Nat.cast).foldl polymodStep (chk : Int) =
      (values.foldl step chk : Nat) := by
    induction values with
    | nil =>
        intro chk
        rfl
    | cons value values ih =>
        intro chk
        rw [List.map_cons, List.foldl_cons, polymodStep_natCast, ih, List.foldl_cons]
  exact hfold 1

section Linear

theorem bit_top_iff (top i : Nat) :
    (top : Int) / (Nat.pow 2 i : Nat) % 2 = 1 ↔ top.testBit i = true := by
  rw [Nat.testBit_eq_decide_div_mod_eq, decide_eq_true_eq, Nat.pow_eq]
  norm_cast

theorem generatorSum_xor (i : Nat) (gs : List Nat) :
    generatorSum ((a ^^^ b : Nat) : Int) i gs = generatorSum a i gs ^^^ generatorSum b i gs := by
  induction gs generalizing i with
  | nil => simp [generatorSum]
  | cons g gs ih =>
      simp only [generatorSum, bit_top_iff, ih, Nat.testBit_xor]
      -- A generator that both sums take is added twice, and so not at all.
      cases a.testBit i with
      | true =>
          cases b.testBit i with
          | true => simp [Nat.xor_left_comm, Nat.xor_assoc, ← Nat.xor_assoc g g]
          | false => simp [Nat.xor_assoc]
      | false =>
          cases b.testBit i with
          | true => simp [Nat.xor_left_comm]
          | false => simp

theorem step_xor (a b v w : Nat) : step (a ^^^ b) (v ^^^ w) = step a v ^^^ step b w := by
  have hshift : ∀ x y : Nat, (x ^^^ y) * 32 = x * 32 ^^^ y * 32 := by
    intro x y
    have h := Nat.shiftLeft_xor_distrib (i := 5) (a := x) (b := y)
    simpa only [Nat.shiftLeft_eq] using h
  rw [step, step, step, Nat.xor_mod_two_pow, Nat.xor_div_two_pow, generatorSum_xor, hshift]
  ac_rfl

/-- The residue is linear in the state and the values together. -/
theorem foldl_step_xor {vs ws : List Nat} (h : vs.length = ws.length) (a b : Nat) :
    (List.zipWith (· ^^^ ·) vs ws).foldl step (a ^^^ b) =
      vs.foldl step a ^^^ ws.foldl step b := by
  induction vs generalizing ws a b with
  | nil =>
      cases ws with
      | nil => rfl
      | cons w ws => cases h
  | cons v vs ih =>
      cases ws with
      | nil => cases h
      | cons w ws =>
          rw [List.zipWith_cons_cons, List.foldl_cons, step_xor, ih (Nat.succ.inj h)]
          rfl

theorem generatorSum_lt (top : Int) (i : Nat) {gs : List Nat} (hgs : ∀ g ∈ gs, g < 2 ^ 30) :
    generatorSum top i gs < 2 ^ 30 := by
  induction gs generalizing i with
  | nil => exact Nat.two_pow_pos 30
  | cons g gs ih =>
      rw [List.forall_mem_cons] at hgs
      rw [generatorSum]
      refine Nat.xor_lt_two_pow ?_ (ih (i + 1) hgs.2)
      split
      · exact hgs.1
      · exact Nat.two_pow_pos 30

theorem step_lt (chk : Nat) (hv : v < 2 ^ 30) : step chk v < 2 ^ 30 := by
  have hgs : ∀ g ∈ generators, g < 2 ^ 30 := by decide
  have hlow : chk % 2 ^ 25 < 2 ^ 25 := Nat.mod_lt _ (Nat.two_pow_pos 25)
  rw [step]
  exact Nat.xor_lt_two_pow (Nat.xor_lt_two_pow (by omega) (generatorSum_lt _ 0 hgs)) hv

theorem foldl_step_lt {chk : Nat} {values : List Nat} (hchk : chk < 2 ^ 30)
    (hvalues : ∀ v ∈ values, v < 2 ^ 30) : values.foldl step chk < 2 ^ 30 := by
  induction values generalizing chk with
  | nil => exact hchk
  | cons v values ih =>
      rw [List.forall_mem_cons] at hvalues
      exact ih (step_lt chk hvalues.1) hvalues.2

end Linear

section LastSix

theorem step_of_small {chk : Nat} (hchk : chk < 2 ^ 25) (hv : v < 32) :
    step chk v = chk * 32 + v := by
  have hzero : generatorSum (0 : Nat) 0 generators = 0 := by decide
  have hor : chk * 32 ^^^ v = chk * 32 ||| v := by
    apply Nat.eq_of_testBit_eq
    intro i
    rw [Nat.testBit_xor, Nat.testBit_or]
    rcases Nat.lt_or_ge i 5 with hi | hi
    · have hshift : (chk * 2 ^ 5).testBit i = false := by
        rw [Nat.testBit_mul_two_pow, decide_eq_false (by omega), Bool.false_and]
      rw [show chk * 32 = chk * 2 ^ 5 from rfl, hshift, Bool.false_xor, Bool.false_or]
    · have hle : 2 ^ 5 ≤ 2 ^ i := Nat.pow_le_pow_right (by decide) hi
      rw [Nat.testBit_lt_two_pow (by omega : v < 2 ^ i), Bool.xor_false, Bool.or_false]
  have hadd := Nat.two_pow_add_eq_or_of_lt (i := 5) hv chk
  rw [step, Nat.mod_eq_of_lt hchk, Nat.div_eq_of_lt hchk, hzero, Nat.xor_zero, hor]
  rw [Nat.mul_comm chk 32]
  exact hadd.symm

/-- Six values as one number. -/
def pack (values : List Nat) : Nat :=
  values.foldl (fun n v => n * 32 + v) 0

/-- The six values of a number. -/
def digits (n : Nat) : List Nat :=
  [25, 20, 15, 10, 5, 0].map fun shift => n / 2 ^ shift % 32

theorem digits_lt {n d : Nat} (h : d ∈ digits n) : d < 32 := by
  obtain ⟨shift, -, rfl⟩ := List.mem_map.mp h
  exact Nat.mod_lt _ (by decide)

theorem pack_digits (h : a < 2 ^ 30) : pack (digits a) = a := by
  simp only [pack, digits, List.map_cons, List.map_nil, List.foldl_cons, List.foldl_nil]
  omega

theorem exists_six {values : List Nat} (h : values.length = 6) :
    ∃ c₀ c₁ c₂ c₃ c₄ c₅, values = [c₀, c₁, c₂, c₃, c₄, c₅] := by
  match values, h with
  | [c₀, c₁, c₂, c₃, c₄, c₅], _ => exact ⟨c₀, c₁, c₂, c₃, c₄, c₅, rfl⟩

theorem digits_pack {values : List Nat} (hlength : values.length = 6)
    (hvalues : ∀ v ∈ values, v < 32) : digits (pack values) = values := by
  obtain ⟨c₀, c₁, c₂, c₃, c₄, c₅, rfl⟩ := exists_six hlength
  simp only [List.forall_mem_cons] at hvalues
  simp only [pack, digits, List.map_cons, List.map_nil, List.foldl_cons, List.foldl_nil,
    List.cons.injEq, and_true]
  omega

theorem foldl_step_of_small {chk count : Nat} {values : List Nat} (hchk : chk < 32 ^ count)
    (hlength : count + values.length ≤ 6) (hvalues : ∀ v ∈ values, v < 32) :
    values.foldl step chk = values.foldl (fun n v => n * 32 + v) chk := by
  induction values generalizing chk count with
  | nil => rfl
  | cons v values ih =>
      rw [List.forall_mem_cons] at hvalues
      rw [List.length_cons] at hlength
      have hle : 32 ^ count ≤ 32 ^ 5 := Nat.pow_le_pow_right (by decide) (by omega)
      have hnext : chk * 32 + v < 32 ^ (count + 1) := by
        rw [Nat.pow_succ]
        omega
      rw [List.foldl_cons, List.foldl_cons, step_of_small (by omega) hvalues.1,
        ih hnext (by omega) hvalues.2]

theorem foldl_step_zero {values : List Nat} (hlength : values.length = 6)
    (hvalues : ∀ v ∈ values, v < 32) : values.foldl step 0 = pack values :=
  foldl_step_of_small (by decide : 0 < 32 ^ 0) (by omega) hvalues

theorem foldl_step_six {values : List Nat} (hlength : values.length = 6)
    (hvalues : ∀ v ∈ values, v < 32) (chk : Nat) :
    values.foldl step chk = (List.replicate 6 0).foldl step chk ^^^ pack values := by
  -- Zeros after the state and the values after nothing add up to the values after the state.
  have hzeros : List.zipWith (· ^^^ ·) (List.replicate 6 0) values = values := by
    obtain ⟨c₀, c₁, c₂, c₃, c₄, c₅, rfl⟩ := exists_six hlength
    simp [List.replicate]
  have hlinear := foldl_step_xor (by simp [hlength] : (List.replicate 6 0).length = values.length)
    chk 0
  rw [hzeros, Nat.xor_zero] at hlinear
  rw [hlinear, foldl_step_zero hlength hvalues]

/-- The checksum is the one end that makes the residue come out. -/
theorem foldl_step_eq_iff {values : List Nat} {chk residue : Nat} (hlength : values.length = 6)
    (hvalues : ∀ v ∈ values, v < 32) (hchk : chk < 2 ^ 30) (hresidue : residue < 2 ^ 30) :
    values.foldl step chk = residue ↔
      values = digits (residue ^^^ (List.replicate 6 0).foldl step chk) := by
  have hzeros : (List.replicate 6 0).foldl step chk < 2 ^ 30 := foldl_step_lt hchk (by simp)
  rw [foldl_step_six hlength hvalues]
  constructor
  · rintro rfl
    rw [Nat.xor_comm, ← Nat.xor_assoc, Nat.xor_self, Nat.zero_xor, digits_pack hlength hvalues]
  · intro hdigits
    have hpack := pack_digits (Nat.xor_lt_two_pow hresidue hzeros)
    rw [← hdigits] at hpack
    rw [hpack, Nat.xor_comm, Nat.xor_assoc, Nat.xor_self, Nat.xor_zero]

end LastSix

end BlobInscription.Segwit
