import BlobInscription.MerkleTree
import Mathlib.Data.List.Nodup
import Mathlib.Data.Nat.Log
import Mathlib.Tactic.ByContra

/-!
How far the root binds the leaves. Two lists of leaves below one root hold the same nodes at every
level that their trees share, unless two different strings that were hashed have one hash.
-/

namespace BlobInscription

namespace Sha256

/-- Two different strings of the list have one double hash. -/
def Collides (strings : List Bytes) : Prop :=
  ∃ x ∈ strings, ∃ y ∈ strings, x ≠ y ∧ double x = double y

instance (strings : List Bytes) : Decidable (Collides strings) :=
  inferInstanceAs (Decidable (∃ x ∈ strings, ∃ y ∈ strings, x ≠ y ∧ double x = double y))

theorem eq_of_double_eq {strings : List Bytes} {x y : Bytes} (hfree : ¬ Collides strings)
    (hx : x ∈ strings) (hy : y ∈ strings) (h : double x = double y) : x = y := by
  by_contra hne
  exact hfree ⟨x, hx, y, hy, hne, h⟩

theorem Collides.mono {strings more : List Bytes} (hsubset : strings ⊆ more)
    (h : Collides strings) : Collides more := by
  obtain ⟨x, hx, y, hy, hne, hdouble⟩ := h
  exact ⟨x, hsubset hx, y, hsubset hy, hne, hdouble⟩

theorem not_collides_of_nodup {strings : List Bytes} (h : (strings.map double).Nodup) :
    ¬ Collides strings := by
  rintro ⟨x, hx, y, hy, hne, hdouble⟩
  exact hne (List.inj_on_of_nodup_map h hx hy hdouble)

end Sha256

namespace MerkleTree

open Sha256 (Collides)

/-- The strings that are hashed into the level above. -/
def pairs : List Bytes → List Bytes
  | [] => []
  | [x] => [x ++ x]
  | x :: y :: rest => (x ++ y) :: pairs rest

theorem parents_eq_map_pairs (level : List Bytes) :
    parents level = (pairs level).map Sha256.double := by
  induction level using pairs.induct with
  | case1 => rfl
  | case2 x => rfl
  | case3 x y rest ih => rw [parents, pairs, List.map_cons, ih, combine]

theorem length_of_mem_parents {level : List Bytes} {x : Bytes} (h : x ∈ parents level) :
    x.length = 32 := by
  rw [parents_eq_map_pairs] at h
  obtain ⟨p, -, rfl⟩ := List.mem_map.mp h
  exact Sha256.length_double p

theorem exists_pair_of_mem {level : List Bytes} {x : Bytes} (h : x ∈ level) :
    ∃ l ∈ level, ∃ r ∈ level, l ++ r ∈ pairs level ∧ (x = l ∨ x = r) := by
  induction level using pairs.induct with
  | case1 => cases h
  | case2 y =>
      have hx : x = y := by simpa using h
      exact ⟨y, by simp, y, by simp, by simp [pairs], .inl hx⟩
  | case3 y z rest ih =>
      simp only [List.mem_cons] at h
      rcases h with rfl | rfl | h
      · exact ⟨x, by simp, z, by simp, by simp [pairs], .inl rfl⟩
      · exact ⟨y, by simp, x, by simp, by simp [pairs], .inr rfl⟩
      · obtain ⟨l, hl, r, hr, hpair, hx⟩ := ih h
        exact ⟨l, by simp [hl], r, by simp [hr], by simp [pairs, hpair], hx⟩

theorem exists_of_mem_pairs {level : List Bytes} {p : Bytes} (h : p ∈ pairs level) :
    ∃ l ∈ level, ∃ r ∈ level, p = l ++ r := by
  induction level using pairs.induct with
  | case1 => cases h
  | case2 x => exact ⟨x, by simp, x, by simp, by simpa [pairs] using h⟩
  | case3 x y rest ih =>
      simp only [pairs, List.mem_cons] at h
      rcases h with rfl | h
      · exact ⟨x, by simp, y, by simp, rfl⟩
      · obtain ⟨l, hl, r, hr, hp⟩ := ih h
        exact ⟨l, by simp [hl], r, by simp [hr], hp⟩

theorem length_of_mem_pairs {level : List Bytes} (hwidth : ∀ x ∈ level, x.length = 32) {p : Bytes}
    (hp : p ∈ pairs level) : p.length = 64 := by
  obtain ⟨l, hl, r, hr, rfl⟩ := exists_of_mem_pairs hp
  rw [List.length_append, hwidth l hl, hwidth r hr]

/-- The number of levels above the leaves. -/
def height (leaves : List Bytes) : Nat :=
  Nat.clog 2 leaves.length

/-- The strings that are hashed on the way to the root. -/
def hashed : List Bytes → List Bytes
  | x :: y :: rest => pairs (x :: y :: rest) ++ hashed (parents (x :: y :: rest))
  | _ => []
termination_by leaves => leaves.length
decreasing_by
  rw [length_parents]
  simp only [List.length_cons]
  omega

theorem hashed_singleton (x : Bytes) : hashed [x] = [] := by
  simp [hashed]

section Levels

variable {leaves : List Bytes}

theorem root?_eq_none_iff : root? leaves = none ↔ leaves = [] := by
  cases leaves with
  | nil => simp [root?]
  | cons first rest => simp [root?]

theorem height_eq_zero_iff : height leaves = 0 ↔ leaves.length ≤ 1 := by
  rw [height, ← Nat.le_zero, Nat.clog_le_iff_le_pow (by decide), Nat.pow_zero]

theorem height_parents (h : 2 ≤ leaves.length) : height leaves = height (parents leaves) + 1 := by
  rw [height, height, length_parents, Nat.clog_of_two_le (by decide) h]
  rfl

theorem root?_parents (h : 2 ≤ leaves.length) : root? (parents leaves) = root? leaves := by
  match leaves, h with
  | x :: y :: rest, _ => rw [root?, parents, root?, rootOf]

theorem mem_hashed_iff (h : 2 ≤ leaves.length) {p : Bytes} :
    p ∈ hashed leaves ↔ p ∈ pairs leaves ∨ p ∈ hashed (parents leaves) := by
  match leaves, h with
  | x :: y :: rest, _ => rw [hashed, List.mem_append]

theorem two_le_length_of_height {n : Nat} (h : height leaves = n + 1) : 2 ≤ leaves.length := by
  by_contra hlt
  have hzero : height leaves = 0 := height_eq_zero_iff.mpr (by omega)
  omega

end Levels

/-- Leaves of 32 bytes whose tree hashes no other strings than the given ones. -/
structure Covered (strings leaves : List Bytes) : Prop where
  width : ∀ x ∈ leaves, x.length = 32
  hashed : ∀ p ∈ hashed leaves, p ∈ strings

section Roots

variable {strings leaves xs ys : List Bytes}

theorem Covered.mem_of_mem_pairs (h : Covered strings leaves) (hlength : 2 ≤ leaves.length)
    {p : Bytes} (hp : p ∈ pairs leaves) : p ∈ strings :=
  h.hashed p ((mem_hashed_iff hlength).mpr (.inl hp))

theorem Covered.parents (h : Covered strings leaves) (hlength : 2 ≤ leaves.length) :
    Covered strings (parents leaves) where
  width := fun _ hx => length_of_mem_parents hx
  hashed := fun p hp => h.hashed p ((mem_hashed_iff hlength).mpr (.inr hp))

theorem Covered.exists_preimage (h : Covered strings leaves) (hlength : 2 ≤ leaves.length)
    {x : Bytes} (hx : x ∈ MerkleTree.parents leaves) :
    ∃ p ∈ strings, p.length = 64 ∧ Sha256.double p = x := by
  rw [parents_eq_map_pairs] at hx
  obtain ⟨p, hp, hdouble⟩ := List.mem_map.mp hx
  exact ⟨p, h.mem_of_mem_pairs hlength hp, length_of_mem_pairs h.width hp, hdouble⟩

theorem mem_of_parents_subset (hfree : ¬ Collides strings) (hxs : Covered strings xs)
    (hys : Covered strings ys) (hlengthx : 2 ≤ xs.length) (hlengthy : 2 ≤ ys.length)
    (hparents : ∀ p ∈ parents xs, p ∈ parents ys) {x : Bytes} (hx : x ∈ xs) : x ∈ ys := by
  obtain ⟨l, hl, r, hr, hpair, hcases⟩ := exists_pair_of_mem hx
  have hparent : Sha256.double (l ++ r) ∈ parents ys := by
    apply hparents
    rw [parents_eq_map_pairs]
    exact List.mem_map_of_mem hpair
  rw [parents_eq_map_pairs] at hparent
  obtain ⟨q, hq, hdouble⟩ := List.mem_map.mp hparent
  have heq : q = l ++ r :=
    Sha256.eq_of_double_eq hfree (hys.mem_of_mem_pairs hlengthy hq)
      (hxs.mem_of_mem_pairs hlengthx hpair) hdouble
  obtain ⟨l', hl', r', hr', hq'⟩ := exists_of_mem_pairs hq
  -- the nodes of a pair are told apart by their width only
  have hsplit : l = l' ∧ r = r' :=
    List.append_inj (heq.symm.trans hq') ((hxs.width l hl).trans (hys.width l' hl').symm)
  rcases hcases with rfl | rfl
  · exact hsplit.1 ▸ hl'
  · exact hsplit.2 ▸ hr'

/-- Covered leaves below one root, in trees of one height, are the same leaves. -/
theorem mem_iff_of_root?_eq {n : Nat} (hfree : ¬ Collides strings) (hxs : Covered strings xs)
    (hys : Covered strings ys) (hheightx : height xs = n) (hheighty : height ys = n)
    (hroot : root? xs = root? ys) (x : Bytes) : x ∈ xs ↔ x ∈ ys := by
  induction n generalizing xs ys x with
  | zero =>
      have hlengthx := height_eq_zero_iff.mp hheightx
      have hlengthy := height_eq_zero_iff.mp hheighty
      match xs, ys, hlengthx, hlengthy with
      | [], [], _, _ => rfl
      | [], [y], _, _ => cases hroot
      | [x'], [], _, _ => cases hroot
      | [x'], [y], _, _ =>
          have hxy : x' = y := by simpa [root?, rootOf] using hroot
          rw [hxy]
  | succ n ih =>
      have hlengthx := two_le_length_of_height hheightx
      have hlengthy := two_le_length_of_height hheighty
      have hparents : ∀ p, p ∈ parents xs ↔ p ∈ parents ys := by
        apply ih (hxs.parents hlengthx) (hys.parents hlengthy)
        · have := height_parents hlengthx
          omega
        · have := height_parents hlengthy
          omega
        · rw [root?_parents hlengthx, root?_parents hlengthy, hroot]
      constructor
      · exact mem_of_parents_subset hfree hxs hys hlengthx hlengthy fun p => (hparents p).mp
      · exact mem_of_parents_subset hfree hys hxs hlengthy hlengthx fun p => (hparents p).mpr

theorem exists_level {n : Nat} (hn : n < height leaves) (h : Covered strings leaves) :
    ∃ level, height level = n ∧ root? level = root? leaves ∧ Covered strings level ∧
      ∀ x ∈ level, ∃ p ∈ strings, p.length = 64 ∧ Sha256.double p = x := by
  induction hm : height leaves generalizing leaves with
  | zero => omega
  | succ m ih =>
      have hlength := two_le_length_of_height hm
      have hheight := height_parents hlength
      rcases Nat.lt_or_eq_of_le (show n ≤ m by omega) with hlt | rfl
      · obtain ⟨level, hlevel, hroot, hcovered, hnodes⟩ :=
          ih (show n < height (parents leaves) by omega) (h.parents hlength) (by omega)
        exact ⟨level, hlevel, hroot.trans (root?_parents hlength), hcovered, hnodes⟩
      · refine ⟨parents leaves, by omega, root?_parents hlength, h.parents hlength, ?_⟩
        intro x hx
        exact h.exists_preimage hlength hx

/-- Covered leaves below the root of a taller tree are hashes of 64 bytes. -/
theorem exists_preimage_of_height_lt (hfree : ¬ Collides strings) (hxs : Covered strings xs)
    (hys : Covered strings ys) (hheight : height xs < height ys) (hroot : root? xs = root? ys)
    {x : Bytes} (hx : x ∈ xs) : ∃ p ∈ strings, p.length = 64 ∧ Sha256.double p = x := by
  obtain ⟨level, hlevel, hsame, hcovered, hnodes⟩ := exists_level hheight hys
  have hmem : x ∈ level :=
    (mem_iff_of_root?_eq hfree hxs hcovered rfl hlevel (hroot.trans hsame.symm) x).mp hx
  exact hnodes x hmem

theorem height_le_of_double_mem (hfree : ¬ Collides strings) (hxs : Covered strings xs)
    (hys : Covered strings ys) (hroot : root? xs = root? ys) {bytes : Bytes}
    (hbytes : bytes ∈ strings) (hlength : bytes.length ≠ 64) (hmem : Sha256.double bytes ∈ xs) :
    height ys ≤ height xs := by
  by_contra hlt
  obtain ⟨p, hp, h64, hdouble⟩ :=
    exists_preimage_of_height_lt hfree hxs hys (by omega) hroot hmem
  have heq : p = bytes := Sha256.eq_of_double_eq hfree hp hbytes hdouble
  exact hlength (heq ▸ h64)

end Roots

/-- The parent of two neighbours does not tell where one ends and the other begins. -/
theorem parents_resplit {left right left' right' : Bytes} (h : left' ++ right' = left ++ right)
    {before : List Bytes} (heven : before.length % 2 = 0) (after : List Bytes) :
    parents (before ++ left' :: right' :: after) = parents (before ++ left :: right :: after) := by
  induction before using pairs.induct with
  | case1 => simp [parents, combine, h]
  | case2 x => simp at heven
  | case3 x y rest ih =>
      have hrest : rest.length % 2 = 0 := by
        simp only [List.length_cons] at heven
        omega
      simp only [List.cons_append, parents, ih hrest]

theorem root?_resplit {left right left' right' : Bytes} (h : left' ++ right' = left ++ right)
    {before : List Bytes} (heven : before.length % 2 = 0) (after : List Bytes) :
    root? (before ++ left' :: right' :: after) = root? (before ++ left :: right :: after) := by
  have hlength (l r : Bytes) : 2 ≤ (before ++ l :: r :: after).length := by
    simp only [List.length_append, List.length_cons]
    omega
  rw [← root?_parents (hlength left' right'), parents_resplit h heven,
    root?_parents (hlength left right)]

end MerkleTree

end BlobInscription
