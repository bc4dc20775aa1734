import BlobInscription.Checkpoint.Directory
import BlobInscription.CommandLine.Surroundings

namespace BlobInscription

open CommandLine (FileEntry)

structure FileTree where
  files : List (PathName × Bytes) := []
  directories : List PathName := []
  deriving DecidableEq, Repr

namespace FileTree

/-- The first name on the way from a directory to something inside it. -/
def nameInside? (directory path : PathName) : Option String :=
  if directory.root = path.root && directory.parts.isPrefixOf path.parts then
    path.parts[directory.parts.length]?
  else none

/-- The names in a directory. -/
def namesIn (t : FileTree) (directory : PathName) : List String :=
  (t.files.filterMap fun (path, _) => nameInside? directory path).eraseDups

/-- What there is under a path. -/
def entry (t : FileTree) (path : PathName) : FileEntry :=
  match t.files.lookup path with
  | some content => .file content
  | none =>
      let names := t.namesIn path
      if names.isEmpty && !t.directories.contains path then .missing else .directory names

/-- Why a directory cannot be made. -/
def obstacle? (t : FileTree) (directory : PathName) : Option String :=
  if (t.files.lookup directory).isSome then
    some s!"[Errno 17] File exists: {Text.quoted directory.text}"
  else if t.files.any fun (path, _) => (nameInside? path directory).isSome then
    some s!"[Errno 20] Not a directory: {Text.quoted directory.text}"
  else none

/-- The files of a directory. -/
def directory (t : FileTree) (path : PathName) : CheckpointDirectory :=
  ⟨(t.namesIn path).filterMap fun name => (t.files.lookup (path.child name)).map fun c => (name, c)⟩

/-- Saves the reveal transaction of a commit in a directory. -/
def save (t : FileTree) (path : PathName) (id : String) (raw : Bytes) :
    Except CheckpointError FileTree := do
  let name? ← (t.directory path).addition id raw
  match t.obstacle? path, name? with
  | some reason, _ => throw (.storage reason)
  | none, none => return t
  | none, some name => return { t with files := t.files ++ [(path.child name, raw)] }

end FileTree

end BlobInscription
