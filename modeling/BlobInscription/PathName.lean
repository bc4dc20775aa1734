namespace BlobInscription

/-- A root, which is empty for a relative name, and the parts after it. -/
structure PathName where
  root : String
  parts : List String
  deriving DecidableEq, Repr, Inhabited

namespace PathName

/-- How many separators a text starts with. -/
def leadingSlashes (text : List Char) : Nat :=
  (text.takeWhile (· == '/')).length

/-- Exactly two leading separators are a root of their own. -/
def rootOf (slashes : Nat) : String :=
  match slashes with
  | 0 => ""
  | 2 => "//"
  | _ => "/"

/-- Whether a part is left out. -/
def isIdle (part : String) : Bool :=
  part.isEmpty || part == "."

def ofText (text : String) : PathName :=
  ⟨rootOf (leadingSlashes text.toList), (text.splitOn "/").filter fun part => !isIdle part⟩

def text (p : PathName) : String :=
  match p.root, p.parts with
  | "", [] => "."
  | root, parts => root ++ "/".intercalate parts

/-- A name inside a directory. -/
def child (p : PathName) (name : String) : PathName :=
  { p with parts := p.parts ++ (ofText name).parts }

/-- The part that stands for a home directory: the name of its owner. -/
def owner? (p : PathName) : Option String :=
  match p.root, p.parts with
  | "", first :: _ =>
      match first.toList with
      | '~' :: name => some (String.ofList name)
      | _ => none
  | _, _ => none

/-- Replaces a leading home directory. The homes are listed by owner, that of the user under the
empty name; nothing is the result when a home is not known. -/
def expandHome? (homes : List (String × String)) (p : PathName) : Option PathName :=
  match p.owner? with
  | none => some p
  | some owner =>
      (homes.lookup owner).map fun home =>
        let base := ofText home
        { base with parts := base.parts ++ p.parts.tail }

end PathName

end BlobInscription
