import BlobInscription.Hash.Sha256

namespace BlobInscription.MerkleTree

/-- The parent of two nodes. -/
def combine (left right : Bytes) : Bytes :=
  Sha256.double (left ++ right)

/-- The level above. -/
def parents : List Bytes → List Bytes
  | [] => []
  | [x] => [combine x x]
  | x :: y :: rest => combine x y :: parents rest

theorem length_parents (level : List Bytes) : (parents level).length = (level.length + 1) / 2 := by
  induction level using parents.induct with
  | case1 => simp [parents]
  | case2 x => simp [parents]
  | case3 x y rest ih =>
      simp only [parents, List.length_cons, ih]
      omega

/-- The root over the leaves `first :: rest`. -/
def rootOf (first : Bytes) (rest : List Bytes) : Bytes :=
  match rest with
  | [] => first
  | second :: more => rootOf (combine first second) (parents more)
termination_by rest.length
decreasing_by
  rw [length_parents]
  simp only [List.length_cons]
  omega

/-- The root over a list of leaves; an empty list has none. -/
def root? : List Bytes → Option Bytes
  | [] => none
  | first :: rest => some (rootOf first rest)

/-- What is said of the root over an empty list. -/
def emptyMessage : String := "Cannot compute a merkle root without transactions"

end BlobInscription.MerkleTree
