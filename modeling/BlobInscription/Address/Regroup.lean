namespace BlobInscription.Regroup

/-- The bits read so far that may still be needed, how many of them are not yet written, and the
groups written, last first. -/
structure State where
  acc : Nat
  pending : Nat
  groups : List Nat
  deriving DecidableEq, Repr

def State.start : State := ⟨0, 0, []⟩

/-- The groups of `target` bits that `pending` bits of `acc` fill, last first. -/
def fullGroups (target acc pending : Nat) : List Nat :=
  ((List.range (pending / target)).map fun i =>
    acc / Nat.pow 2 (pending - (i + 1) * target) % Nat.pow 2 target).reverse

/-- Adds one group of `source` bits. -/
def State.add (source target : Nat) (s : State) (value : Nat) : State :=
  let acc := (s.acc * Nat.pow 2 source + value) % Nat.pow 2 (source + target - 1)
  let pending := s.pending + source
  { acc, pending := pending % target, groups := fullGroups target acc pending ++ s.groups }

/-- The bits left over, as a group filled up with zeros on the right. -/
def State.lastGroup (target : Nat) (s : State) : Nat :=
  s.acc * Nat.pow 2 (target - s.pending) % Nat.pow 2 target

/-- Adds groups in order; nothing when one does not fit `source` bits. -/
def addAll (source target : Nat) : List Int → State → Option State
  | [], s => some s
  | value :: rest, s =>
      if 0 ≤ value ∧ value < Nat.pow 2 source then
        addAll source target rest (s.add source target value.toNat)
      else none

/-- Regroups from `source` to `target` bits. Bits left over are written when `pad` is set; otherwise
they must be zeros, and fewer than `source`. -/
def regroup? (source target : Nat) (pad : Bool) (values : List Int) : Option (List Nat) := do
  let s ← addAll source target values .start
  if pad then
    return (if s.pending = 0 then s.groups else s.lastGroup target :: s.groups).reverse
  else if source ≤ s.pending ∨ s.lastGroup target ≠ 0 then none
  else return s.groups.reverse

end BlobInscription.Regroup
