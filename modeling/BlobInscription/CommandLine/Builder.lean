import BlobInscription.Text.Quoted
import BlobInscription.Text.Split

namespace BlobInscription.CommandLine

/-- The known modules with their factories. -/
structure BuilderShelf where
  modules : List (String × List String) := []
  deriving DecidableEq, Repr

/-- Why a target names no builder. -/
inductive BuilderError
  | malformed (target : String)
  | unknownModule (name reason : String)
  | unknownFactory (name factory : String)
  /-- A name that is relative to another one, which there is not. -/
  | relative (name : String)
  deriving DecidableEq, Repr

def BuilderError.message : BuilderError → String
  | malformed target =>
      s!"Builder must look like 'package.module:factory', got {Text.quoted target}"
  | unknownModule name reason => s!"Cannot import builder module {name}: {reason}"
  | unknownFactory name factory => s!"Module {name} has no attribute {factory}"
  | relative name =>
      s!"the 'package' argument is required to perform a relative import for {Text.quoted name}"

namespace BuilderShelf

def notFound (name : String) : String :=
  s!"No module named {Text.quoted name}"

/-- What keeps a dotted name from being found, its parts counted from the outermost. A known module
has no modules inside. -/
def reasonFor (shelf : BuilderShelf) (parts : List String) : String :=
  match parts with
  | outer :: inner :: _ =>
      if (shelf.modules.lookup outer).isSome then
        notFound (outer ++ "." ++ inner) ++ s!"; {Text.quoted outer} is not a package"
      else notFound outer
  | _ => notFound (".".intercalate parts)

/-- Checks that a module has a factory. -/
def checkFactory (shelf : BuilderShelf) (name factory : String) : Except BuilderError Unit :=
  match shelf.modules.lookup name with
  | some factories =>
      if factories.contains factory then .ok () else .error (.unknownFactory name factory)
  | none =>
      if name.startsWith "." then .error (.relative name)
      else
        let parts := (Text.splitAt '.' name.toList).map String.ofList
        .error (.unknownModule name (shelf.reasonFor parts))

/-- Checks that a target names a builder. -/
def check (shelf : BuilderShelf) (target : String) : Except BuilderError Unit :=
  let chars := target.toList
  let name := chars.takeWhile (· != ':')
  let factory := (chars.dropWhile (· != ':')).drop 1
  if name.isEmpty || factory.isEmpty then .error (.malformed target)
  else shelf.checkFactory (String.ofList name) (String.ofList factory)

end BuilderShelf

end BlobInscription.CommandLine
