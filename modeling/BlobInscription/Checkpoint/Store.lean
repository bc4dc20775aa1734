import BlobInscription.Checkpoint.Directory
import BlobInscription.Checkpoint.Table

namespace BlobInscription

inductive CheckpointStore
  | directory (files : CheckpointDirectory)
  | table (rows : CheckpointTable)
  deriving DecidableEq, Repr

namespace CheckpointStore

/-- Saves the reveal transaction of a commit at a time. -/
def save (s : CheckpointStore) (now : Int) (id : String) (raw : Bytes) :
    Except CheckpointError CheckpointStore :=
  match s with
  | directory files => (files.save id raw).map directory
  | table rows => (rows.save now id raw).map table

/-- The reveal transaction of a commit. -/
def load (s : CheckpointStore) (id : String) : Except CheckpointError (Option Bytes) :=
  match s with
  | directory files => files.load id
  | table rows => .ok (rows.load id)

/-- The identifiers of all checkpoints. -/
def commitIds : CheckpointStore → List String
  | directory files => files.commitIds
  | table rows => rows.commitIds

/-- All checkpoints. -/
def entries (s : CheckpointStore) : Except CheckpointError (List (String × Option Bytes)) :=
  s.commitIds.mapM fun id => return (id, ← s.load id)

end CheckpointStore

end BlobInscription
