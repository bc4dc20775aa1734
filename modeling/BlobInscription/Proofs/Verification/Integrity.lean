import BlobInscription.Proofs.Hash.Sha256
import BlobInscription.Proofs.MerkleTree.Order
import BlobInscription.Proofs.Verification.Acceptance

namespace BlobInscription.Verifier

open MerkleTree (root? PairsCollide)

theorem verifyInclusion_of_root? {header : BlockHeader} {ids : List Bytes} {root : Bytes}
    (h : root? ids = some root) : verifyInclusion header ⟨ids⟩ =
      if root = header.merkleRoot then .ok () else .error .rootMismatch := by
  simp only [verifyInclusion, h]

theorem root?_isSome_of_length {ids listed : List Bytes} {root : Bytes}
    (hlength : listed.length = ids.length) (h : root? ids = some root) :
    ∃ root', root? listed = some root' := by
  cases listed with
  | nil =>
      have hnil : ids = [] := List.length_eq_zero_iff.mp hlength.symm
      rw [hnil] at h
      cases h
  | cons first rest => exact ⟨_, rfl⟩

/-- A list of as many identifiers as `ids` has the root of `ids` only if it is `ids`, or two
different pairs of 64 bytes that are hashed on the way to the roots have one double hash. So every
reordering and every substitution changes the root, and is not accepted for its header. -/
theorem root?_fixes_ids (ids : List Bytes) (hids : ∀ id ∈ ids, id.length = 32) :
    (∀ listed : List Bytes, (∀ entry ∈ listed, entry.length = 32) →
      listed.length = ids.length →
        (root? listed = root? ids ↔ listed = ids) ∨ PairsCollide listed ids) ∧
    (∀ listed : List Bytes, listed.Perm ids → listed ≠ ids →
      root? listed ≠ root? ids ∨ PairsCollide listed ids) ∧
    (∀ i id, i < ids.length → id.length = 32 → ids[i]? ≠ some id →
      root? (ids.set i id) ≠ root? ids ∨ PairsCollide (ids.set i id) ids) ∧
    ∀ header : BlockHeader, root? ids = some header.merkleRoot →
      ∀ listed : List Bytes, (∀ entry ∈ listed, entry.length = 32) →
        listed.length = ids.length →
          verifyInclusion header ⟨listed⟩ =
              (if listed = ids then .ok () else .error .rootMismatch) ∨
            PairsCollide listed ids := by
  have hfixes : ∀ listed : List Bytes, (∀ entry ∈ listed, entry.length = 32) →
      listed.length = ids.length →
        (root? listed = root? ids ↔ listed = ids) ∨ PairsCollide listed ids := by
    intro listed hlisted hlength
    refine or_iff_not_imp_right.mpr fun hfree => ⟨?_, congrArg root?⟩
    intro hroot
    exact (MerkleTree.eq_or_collide_of_root?_eq hlisted hids hlength hroot).resolve_right hfree
  refine ⟨hfixes, ?_, ?_, ?_⟩
  · intro listed hperm hne
    have hlisted : ∀ entry ∈ listed, entry.length = 32 := by
      intro entry hentry
      exact hids entry (hperm.mem_iff.mp hentry)
    refine (hfixes listed hlisted hperm.length_eq).imp_left fun hiff hroot => ?_
    exact hne (hiff.mp hroot)
  · intro i id hi hid hne
    have hlisted : ∀ entry ∈ ids.set i id, entry.length = 32 := by
      intro entry hentry
      rcases List.mem_or_eq_of_mem_set hentry with hentry | rfl
      · exact hids entry hentry
      · exact hid
    refine (hfixes (ids.set i id) hlisted List.length_set).imp_left fun hiff hroot => ?_
    have hsame : (ids.set i id)[i]? = some id := List.getElem?_set_self hi
    rw [hiff.mp hroot] at hsame
    exact hne hsame
  · intro header hroot listed hlisted hlength
    obtain ⟨root, hlistedRoot⟩ := root?_isSome_of_length hlength hroot
    refine (hfixes listed hlisted hlength).imp_left fun hiff => ?_
    rw [hroot, hlistedRoot, Option.some.injEq] at hiff
    rw [verifyInclusion_of_root? hlistedRoot]
    simp only [hiff]

theorem root?_fixes_ids_three :
    let id (n : UInt8) : Bytes := List.replicate 32 n
    let ids := [id 1, id 2, id 3]
    (∀ entry ∈ ids, entry.length = 32) ∧
      [id 1, id 3, id 2].Perm ids ∧ [id 1, id 3, id 2] ≠ ids ∧
      ¬ PairsCollide [id 1, id 3, id 2] ids ∧ root? [id 1, id 3, id 2] ≠ root? ids ∧
      ids[1]? ≠ some (id 4) ∧ ¬ PairsCollide (ids.set 1 (id 4)) ids ∧
      root? (ids.set 1 (id 4)) ≠ root? ids := by
  intro id ids
  have hwidth : ∀ entry ∈ ids, entry.length = 32 := by decide
  have hperm : [id 1, id 3, id 2].Perm ids := (List.Perm.swap _ _ _).cons _
  obtain ⟨hswapped, hreplaced⟩ :
      ¬ PairsCollide [id 1, id 3, id 2] ids ∧ ¬ PairsCollide [id 1, id 4, id 3] ids := by
    simp only [PairsCollide, MerkleTree.hashed, MerkleTree.pairs, MerkleTree.parents,
      MerkleTree.combine, Sha256.double_eq, ids]
    decide +kernel
  obtain ⟨-, hreorder, hsubstitute, -⟩ := root?_fixes_ids ids hwidth
  have hne : [id 1, id 3, id 2] ≠ ids := by decide
  have hother : ids[1]? ≠ some (id 4) := by decide
  exact ⟨hwidth, hperm, hne, hswapped, (hreorder _ hperm hne).resolve_right hswapped, hother,
    hreplaced, (hsubstitute 1 (id 4) (by decide) (by decide) hother).resolve_right hreplaced⟩

end BlobInscription.Verifier
