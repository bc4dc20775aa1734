import BlobInscription.Proofs.MerkleTree.Binding
import Mathlib.Data.List.Nodup

namespace BlobInscription

theorem Sha256.eq_or_exists_of_map_double {xs ys : List Bytes}
    (h : xs.map double = ys.map double) :
    xs = ys ∨ ∃ x ∈ xs, ∃ y ∈ ys, x ≠ y ∧ double x = double y := by
  induction xs generalizing ys with
  | nil => exact .inl (List.map_eq_nil_iff.mp h.symm).symm
  | cons x xs ih =>
      cases ys with
      | nil => cases h
      | cons y ys =>
          rw [List.map_cons, List.map_cons, List.cons.injEq] at h
          obtain ⟨hhead, htail⟩ := h
          by_cases hxy : x = y
          · rcases ih htail with rfl | ⟨x', hx', y', hy', hne, hdouble⟩
            · exact .inl (by rw [hxy])
            · exact .inr ⟨x', List.mem_cons_of_mem _ hx', y', List.mem_cons_of_mem _ hy', hne,
                hdouble⟩
          · exact .inr ⟨x, List.mem_cons_self, y, List.mem_cons_self, hxy, hhead⟩

namespace MerkleTree

open Sha256 (Collides)

/-- Two different strings of 64 bytes, one hashed in each of two trees, have one double hash. -/
def PairsCollide (xs ys : List Bytes) : Prop :=
  ∃ p ∈ hashed xs, ∃ q ∈ hashed ys,
    p.length = 64 ∧ q.length = 64 ∧ p ≠ q ∧ Sha256.double p = Sha256.double q

instance (xs ys : List Bytes) : Decidable (PairsCollide xs ys) :=
  inferInstanceAs (Decidable (∃ p ∈ hashed xs, ∃ q ∈ hashed ys,
    p.length = 64 ∧ q.length = 64 ∧ p ≠ q ∧ Sha256.double p = Sha256.double q))

section Pairs

variable {xs ys : List Bytes}

theorem eq_of_pairs_eq (hxs : ∀ x ∈ xs, x.length = 32) (hys : ∀ y ∈ ys, y.length = 32)
    (hlength : xs.length = ys.length) (h : pairs xs = pairs ys) : xs = ys := by
  induction xs using pairs.induct generalizing ys with
  | case1 => exact (List.length_eq_zero_iff.mp hlength.symm).symm
  | case2 x =>
      obtain ⟨y, rfl⟩ := List.length_eq_one_iff.mp hlength.symm
      simp only [List.mem_singleton, forall_eq] at hxs hys
      simp only [pairs, List.cons.injEq, and_true] at h
      rw [(List.append_inj h (hxs.trans hys.symm)).1]
  | case3 x x' rest ih =>
      rcases ys with _ | ⟨y, _ | ⟨y', rest'⟩⟩
      · cases hlength
      · cases hlength
      · simp only [List.forall_mem_cons] at hxs hys
        obtain ⟨hx, hx', hrest⟩ := hxs
        obtain ⟨hy, hy', hrest'⟩ := hys
        simp only [pairs, List.cons.injEq] at h
        obtain ⟨rfl, rfl⟩ := List.append_inj h.1 (hx.trans hy.symm)
        rw [ih hrest hrest' (by simpa using hlength) h.2]

theorem pairs_eq_nil_iff : pairs xs = [] ↔ xs = [] := by
  cases xs using pairs.induct with
  | case1 => simp [pairs]
  | case2 x => simp [pairs]
  | case3 x y rest => simp [pairs]

theorem length_eq_of_pairs_eq (hxs : ∀ x ∈ xs, x.length = 32) (hys : ∀ y ∈ ys, y.length = 32)
    (hnodup : xs.Nodup) (hnodup' : ys.Nodup) (h : pairs xs = pairs ys) :
    xs.length = ys.length := by
  induction xs using pairs.induct generalizing ys with
  | case1 => rw [pairs_eq_nil_iff.mp h.symm]
  | case2 x =>
      rcases ys with _ | ⟨y, _ | ⟨y', rest'⟩⟩
      · cases h
      · rfl
      · simp only [List.forall_mem_cons] at hxs hys
        simp only [pairs, List.cons.injEq] at h
        obtain ⟨rfl, rfl⟩ := List.append_inj h.1 (hxs.1.trans hys.1.symm)
        simp at hnodup'
  | case3 x x' rest ih =>
      rcases ys with _ | ⟨y, _ | ⟨y', rest'⟩⟩
      · cases h
      · simp only [List.forall_mem_cons] at hxs hys
        simp only [pairs, List.cons.injEq] at h
        obtain ⟨rfl, rfl⟩ := List.append_inj h.1 (hxs.1.trans hys.1.symm)
        simp at hnodup
      · simp only [List.forall_mem_cons] at hxs hys
        simp only [pairs, List.cons.injEq] at h
        have hlength := ih hxs.2.2 hys.2.2 hnodup.of_cons.of_cons hnodup'.of_cons.of_cons h.2
        simp only [List.length_cons, hlength]

theorem nodup_pairs (hxs : ∀ x ∈ xs, x.length = 32) (hnodup : xs.Nodup) : (pairs xs).Nodup := by
  induction xs using pairs.induct with
  | case1 => exact List.nodup_nil
  | case2 x => exact List.pairwise_singleton _ _
  | case3 x y rest ih =>
      simp only [List.forall_mem_cons] at hxs
      rw [pairs, List.nodup_cons]
      refine ⟨?_, ih hxs.2.2 hnodup.of_cons.of_cons⟩
      intro hmem
      obtain ⟨l, hl, r, hr, heq⟩ := exists_of_mem_pairs hmem
      obtain ⟨rfl, -⟩ := List.append_inj heq (hxs.1.trans (hxs.2.2 l hl).symm)
      exact (List.nodup_cons.mp hnodup).1 (List.mem_cons_of_mem _ hl)

end Pairs

section Roots

variable {strings xs ys : List Bytes}

/-- Lists of as many leaves with one root are equal, or two of the pairs that were hashed collide. -/
theorem eq_or_collide_of_root?_eq (hxs : ∀ x ∈ xs, x.length = 32) (hys : ∀ y ∈ ys, y.length = 32)
    (hlength : xs.length = ys.length) (hroot : root? xs = root? ys) :
    xs = ys ∨ PairsCollide xs ys := by
  induction xs using hashed.induct generalizing ys with
  | case1 x x' rest ih =>
      have htwo : 2 ≤ (x :: x' :: rest).length := by simp
      have htwo' : 2 ≤ ys.length := hlength ▸ htwo
      have hparents : root? (parents (x :: x' :: rest)) = root? (parents ys) := by
        rw [root?_parents htwo, root?_parents htwo', hroot]
      have hsame : (parents (x :: x' :: rest)).length = (parents ys).length := by
        rw [length_parents, length_parents, hlength]
      -- equal levels above have equal pairs below, and a collision above is one of this tree
      rcases ih (fun _ => length_of_mem_parents) (fun _ => length_of_mem_parents) hsame hparents with
        heq | ⟨p, hp, q, hq, hcollide⟩
      · rw [parents_eq_map_pairs, parents_eq_map_pairs] at heq
        rcases Sha256.eq_or_exists_of_map_double heq with hpairs | ⟨p, hp, q, hq, hcollide⟩
        · exact .inl (eq_of_pairs_eq hxs hys hlength hpairs)
        · exact .inr ⟨p, (mem_hashed_iff htwo).mpr (.inl hp), q,
            (mem_hashed_iff htwo').mpr (.inl hq), length_of_mem_pairs hxs hp,
            length_of_mem_pairs hys hq, hcollide⟩
      · exact .inr ⟨p, (mem_hashed_iff htwo).mpr (.inr hp), q,
          (mem_hashed_iff htwo').mpr (.inr hq), hcollide⟩
  | case2 xs hshort =>
      match xs, ys, hlength with
      | [], [], _ => exact .inl rfl
      | [x], [y], _ =>
          have hxy : x = y := by simpa [root?, rootOf] using hroot
          exact .inl (by rw [hxy])
      | x :: y :: rest, _, _ => exact (hshort x y rest rfl).elim

theorem nodup_parents (hfree : ¬ Collides strings) (h : Covered strings xs)
    (hlength : 2 ≤ xs.length) (hnodup : xs.Nodup) : (parents xs).Nodup := by
  rw [parents_eq_map_pairs]
  refine List.Nodup.map_on ?_ (nodup_pairs h.width hnodup)
  intro p hp q hq hdouble
  exact Sha256.eq_of_double_eq hfree (h.mem_of_mem_pairs hlength hp)
    (h.mem_of_mem_pairs hlength hq) hdouble

/-- Covered leaves below one root, in trees of one height, come in the same order when none of them
occurs twice. -/
theorem eq_of_root?_eq_of_nodup {n : Nat} (hfree : ¬ Collides strings) (hxs : Covered strings xs)
    (hys : Covered strings ys) (hheightx : height xs = n) (hheighty : height ys = n)
    (hroot : root? xs = root? ys) (hnodup : xs.Nodup) (hnodup' : ys.Nodup) : xs = ys := by
  induction n generalizing xs ys with
  | zero =>
      have hmem := mem_iff_of_root?_eq hfree hxs hys hheightx hheighty hroot
      have hperm : xs.Perm ys := (List.perm_ext_iff_of_nodup hnodup hnodup').mpr hmem
      match xs, height_eq_zero_iff.mp hheightx with
      | [], _ => exact hperm.nil_eq
      | [x], _ => exact hperm.singleton_eq
  | succ n ih =>
      have hlengthx := two_le_length_of_height hheightx
      have hlengthy := two_le_length_of_height hheighty
      have hparents : parents xs = parents ys := by
        apply ih (hxs.parents hlengthx) (hys.parents hlengthy)
        · have := height_parents hlengthx
          omega
        · have := height_parents hlengthy
          omega
        · rw [root?_parents hlengthx, root?_parents hlengthy, hroot]
        · exact nodup_parents hfree hxs hlengthx hnodup
        · exact nodup_parents hfree hys hlengthy hnodup'
      rw [parents_eq_map_pairs, parents_eq_map_pairs] at hparents
      rcases Sha256.eq_or_exists_of_map_double hparents with hpairs | ⟨p, hp, q, hq, hne, hdouble⟩
      · have hlength := length_eq_of_pairs_eq hxs.width hys.width hnodup hnodup' hpairs
        exact eq_of_pairs_eq hxs.width hys.width hlength hpairs
      · exact (hfree ⟨p, hxs.mem_of_mem_pairs hlengthx hp, q, hys.mem_of_mem_pairs hlengthy hq, hne,
          hdouble⟩).elim

end Roots

end MerkleTree

end BlobInscription
