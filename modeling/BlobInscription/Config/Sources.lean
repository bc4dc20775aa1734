import BlobInscription.Config.Error
import BlobInscription.Text.Blank
import BlobInscription.Yaml.Value

namespace BlobInscription

/-- What there is under the name of a file. -/
inductive FileContent
  | missing
  | unreadable
  | undecodable (reason : String)
  | text (content : String)
  deriving DecidableEq, Repr

namespace Config

/-- All that a configuration is made from. Homes are listed by owner, that of the user under the
empty name. -/
structure Sources where
  path : PathName
  /-- Whether someone asked for this file, so that it must exist. -/
  isExplicit : Bool := false
  file : FileContent := .missing
  env : List (String × String) := []
  overrides : Datum := .null
  homes : List (String × String) := []
  /-- How deep the file and values in it may be nested. -/
  nesting : Nat := Datum.usualNesting
  deriving Repr

/-- The settings of one section in their three layers. -/
structure Layers where
  overrides : List (Datum × Datum)
  env : List (String × String)
  file : List (Datum × Datum)
  deriving Repr

/-- The first value that is not null. -/
def firstOf : List Datum → Datum
  | [] => .null
  | d :: rest => if d.isNull then firstOf rest else d

/-- The value of an environment variable. -/
def fromEnv (env : List (String × String)) (name : String) : Datum :=
  match env.lookup name with
  | some value => .text value
  | none => .null

/-- The values of a setting, the first layer first. -/
def Layers.values (l : Layers) (key name : String) : Datum × Datum × Datum :=
  (Datum.lookup l.overrides key, fromEnv l.env name, Datum.lookup l.file key)

/-- The value of a setting. -/
def Layers.pick (l : Layers) (key name : String) : Datum :=
  let (first, second, third) := l.values key name
  firstOf [first, second, third]

/-- The YAML value of a text in the file. -/
def Sources.readYaml (s : Sources) (content : String) : Except ConfigError Datum :=
  match Yaml.read content s.nesting with
  | .ok value => .ok value
  | .error .malformed => .error (.invalidYaml s.path)
  | .error error => .error (.invalidValue error)

/-- The entries of the file; a missing or empty one has none. -/
def Sources.entries (s : Sources) : Except ConfigError (List (Datum × Datum)) := do
  match s.file with
  | .missing => if s.isExplicit then throw (.missingFile s.path) else return []
  | .unreadable => throw (.unreadableFile s.path)
  | .undecodable reason => throw (.undecodableFile reason)
  | .text content =>
      match ← s.readYaml content with
      | .map entries => return entries
      | value => if value.truthy then throw (.notMap s.path) else return []

/-- A section of the file. -/
def Sources.sectionOf (s : Sources) (name : String) :
    Except ConfigError (List (Datum × Datum)) := do
  match Datum.lookup (← s.entries) name with
  | .map entries => return entries
  | value => if value.truthy then throw (.sectionNotMap name s.path) else return []

/-- The entries of overrides; what does not count as given has none. -/
def overrideEntries (value : Datum) : Except ConfigError (List (Datum × Datum)) :=
  if value.truthy then value.toEntries.mapError .form else .ok []

/-- The words for true and for false. -/
def trueWords : List String := ["1", "true", "yes", "y", "on"]
def falseWords : List String := ["0", "false", "no", "n", "off"]

/-- The truth value that a setting shows. -/
def readBool? : Datum → Option Bool
  | .bool b => some b
  | .text t =>
      let word := Text.lower (Text.strip t)
      if trueWords.contains word then some true
      else if falseWords.contains word then some false
      else none
  | _ => none

/-- The text of a value. -/
def textOf (value : Datum) (nesting : Nat) : Except ConfigError String :=
  (value.toText nesting).mapError fun error => .form (.noText error)

/-- The number that a setting shows. A value that shows none is shown in the error; a number beyond
the range is an error of its own. -/
def readNumber? {α : Type} (read : Datum → Except FormError α)
    (invalid : (shown : String) → ConfigError) (value : Datum) (nesting : Nat) :
    Except ConfigError (Option α) :=
  if value.isNull then .ok none
  else
    match read value with
    | .ok x => .ok (some x)
    | .error error =>
        if error.isOverflow then .error (.form error)
        else do throw (invalid (← textOf value nesting))

def readInt? (source : String) (value : Datum) (nesting : Nat := Datum.usualNesting) :
    Except ConfigError (Option Int) :=
  readNumber? Datum.toInteger (.invalidInteger source) value nesting

def readFloat? (source : String) (value : Datum) (nesting : Nat := Datum.usualNesting) :
    Except ConfigError (Option Binary64) :=
  readNumber? Datum.toFloat (.invalidNumber source) value nesting

end Config

end BlobInscription
