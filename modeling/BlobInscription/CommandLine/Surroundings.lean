import BlobInscription.CommandLine.Builder
import BlobInscription.Config
import BlobInscription.Text.Utf8

namespace BlobInscription.CommandLine

/-- What there is under a path. -/
inductive FileEntry
  | missing
  | directory (names : List String)
  | file (content : Bytes)
  deriving DecidableEq, Repr

/-- The content of a file that should hold a text. -/
def FileEntry.content : FileEntry → FileContent
  | missing => .missing
  | directory _ => .unreadable
  | file bytes =>
      match Text.ofUtf8 bytes with
      | .ok text => .text text
      | .error error => .undecodable error.message

/-- What does not change while the program runs. -/
structure Surroundings where
  env : List (String × String) := []
  /-- Home directories by owner, that of the user under the empty name. -/
  homes : List (String × String) := []
  usualConfig : PathName
  builders : BuilderShelf := {}
  deriving Repr

/-- What is asked while the program runs. -/
inductive Question
  | entry (path : PathName)
  /-- All of the standard input. -/
  | input
  /-- A question of the service that a configuration describes. -/
  | service (config : Config) (question : Service.Question)
  deriving Repr

@[reducible] def Answer : Question → Type
  | .entry _ => FileEntry
  | .input => Bytes
  | .service _ question => Service.Answer question

end BlobInscription.CommandLine
