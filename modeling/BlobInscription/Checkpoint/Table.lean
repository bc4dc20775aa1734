import BlobInscription.Bytes
import BlobInscription.Checkpoint.Error
import BlobInscription.Text.Case

namespace BlobInscription

structure CheckpointRow where
  id : String
  raw : Bytes
  createdAt : Int
  deriving DecidableEq, Repr

structure CheckpointTable where
  rows : List CheckpointRow := []
  deriving DecidableEq, Repr

namespace CheckpointTable

/-- The reveal transaction of a commit. -/
def load (t : CheckpointTable) (id : String) : Option Bytes :=
  (t.rows.find? fun row => row.id == Text.lower id).map CheckpointRow.raw

/-- Saves the reveal transaction of a commit. -/
def save (t : CheckpointTable) (now : Int) (id : String) (raw : Bytes) :
    Except CheckpointError CheckpointTable :=
  match t.load id with
  | some stored => if stored = raw then .ok t else .error (.conflict id)
  | none => .ok ⟨t.rows ++ [⟨Text.lower id, raw, now⟩]⟩

/-- Whether one row is listed before another: the older first, and of one age the lesser
identifier. -/
def listedBefore (a b : CheckpointRow) : Bool :=
  a.createdAt < b.createdAt || (a.createdAt == b.createdAt && !(decide (b.id < a.id)))

/-- The identifiers of all checkpoints. -/
def commitIds (t : CheckpointTable) : List String :=
  (t.rows.mergeSort listedBefore).map CheckpointRow.id

end CheckpointTable

end BlobInscription
