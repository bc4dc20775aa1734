import BlobInscription.Bytes
import BlobInscription.Checkpoint.Error
import BlobInscription.Text.Case

namespace BlobInscription

/-- The files of a directory: their names and contents. -/
structure CheckpointDirectory where
  files : List (String × Bytes) := []
  deriving DecidableEq, Repr

namespace CheckpointDirectory

/-- How the name of a checkpoint starts. -/
def nameStart : String := "reveal_"

/-- How the name of a checkpoint ends. -/
def nameEnd : String := ".tx"

/-- The name of the file for an identifier. -/
def fileName (id : String) : String :=
  nameStart ++ id ++ nameEnd

/-- The identifier that a file is named for. -/
def idOf? (name : String) : Option String :=
  let chars := name.toList
  if nameStart.toList.isPrefixOf chars && nameEnd.toList.isSuffixOf chars then
    let rest := chars.drop nameStart.length
    some (String.ofList (rest.take (rest.length - nameEnd.length)))
  else none

def isHexDigit (c : Char) : Bool :=
  "0123456789abcdef".toList.contains c

/-- The file of a commit; an identifier must be a non-empty hexadecimal text. -/
def fileOf (id : String) : Except CheckpointError String :=
  let low := Text.lower id
  if id.isEmpty || !low.toList.all isHexDigit then .error (.invalidId id) else .ok (fileName low)

/-- The content of a file. -/
def read? (d : CheckpointDirectory) (name : String) : Option Bytes :=
  d.files.lookup name

/-- Writes a file, replacing one of the same name. -/
def write (d : CheckpointDirectory) (name : String) (content : Bytes) : CheckpointDirectory :=
  if (d.read? name).isSome then
    ⟨d.files.map fun (n, c) => if n = name then (n, content) else (n, c)⟩
  else ⟨d.files ++ [(name, content)]⟩

/-- The file that saving a reveal transaction adds, if it is not there already. -/
def addition (d : CheckpointDirectory) (id : String) (raw : Bytes) :
    Except CheckpointError (Option String) := do
  let name ← fileOf id
  match d.read? name with
  | none => return some name
  | some stored => if stored = raw then return none else throw (.conflict id)

/-- Saves the reveal transaction of a commit. -/
def save (d : CheckpointDirectory) (id : String) (raw : Bytes) :
    Except CheckpointError CheckpointDirectory := do
  match ← d.addition id raw with
  | some name => return ⟨d.files ++ [(name, raw)]⟩
  | none => return d

/-- The reveal transaction of a commit. -/
def load (d : CheckpointDirectory) (id : String) : Except CheckpointError (Option Bytes) := do
  return d.read? (← fileOf id)

/-- The identifiers that files are named for, in ascending order. -/
def idsOf (names : List String) : List String :=
  (names.filterMap idOf?).mergeSort fun a b => !(decide (b < a))

/-- The identifiers of all checkpoints. -/
def commitIds (d : CheckpointDirectory) : List String :=
  idsOf (d.files.map Prod.fst)

end CheckpointDirectory

end BlobInscription
