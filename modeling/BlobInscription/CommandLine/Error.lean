import BlobInscription.CommandLine.Builder
import BlobInscription.Config.Error
import BlobInscription.Polling
import BlobInscription.Rpc.Hint
import BlobInscription.Service

namespace BlobInscription.CommandLine

inductive Error
  | config (error : ConfigError)
  | builder (error : BuilderError)
  | missingBlob (path : PathName)
  /-- The path of a directory. -/
  | unreadableBlob (path : PathName)
  | emptyBlob
  | polling (failure : Polling.Failure)
  | width (error : Wire.WidthError)
  | verification (error : VerificationError)
  | publish (error : Service.PublishError)
  /-- A refusal that cannot be read when a hint on it is looked for. -/
  | hint (error : FormError)
  deriving Repr

namespace Error

def message : Error → String
  | config error => error.message
  | builder error => error.message
  | missingBlob path => s!"Blob file not found: {path.text}"
  | unreadableBlob path => s!"Is a directory: {path.text}"
  | emptyBlob => "Refusing to inscribe an empty blob"
  | polling failure => failure.message
  | width error => error.message
  | verification error => error.message
  | publish error => error.message
  | hint error => error.message

/-- What a node refused, if that is the reason. -/
def refusal? : Error → Option Rpc.Refusal
  | polling (.node (.rpc error)) => error.refusal?
  | publish (.submission (.atStep _ cause _)) => cause.refusal?
  | _ => none

/-- Whether errors of a configuration are foreseen. -/
def isForeseenConfig : ConfigError → Bool
  | .form error | .invalidValue (.form error) => error.isOfContent
  | .invalidValue .emptyNumber | .endpoint (.notText _) | .pathNotText _ => false
  | _ => true

/-- Whether an error is foreseen, so that it is reported. All others are defects, of the program or
of those that it deals with. -/
def isForeseen : Error → Bool
  | config error => isForeseenConfig error
  | builder (.relative _) => false
  | unreadableBlob _ | width _ | verification (.width _) => false
  | polling (.node (.form error)) | hint error => error.isOfContent
  | polling (.node (.width _)) | publish (.submission (.width _)) => false
  | _ => true

end Error

/-- How a run of the program ends. -/
inductive Ending
  | success (output : String)
  | failure (report : String)
  | interrupted
  | defect (error : Error)
  deriving Repr

namespace Ending

/-- How a run ends with an error: with a report, and a hint where there is one. -/
def ofError (error : Error) : Ending :=
  match error.refusal?.elim (.ok none) Rpc.Hint.ofRefusal with
  | .error unreadable => .defect (.hint unreadable)
  | .ok hint? =>
      let hint := hint?.elim "" fun hint => s!"hint: {hint.text}\n"
      if error.isForeseen then .failure (s!"error: {error.message}\n" ++ hint) else .defect error

def ofResult : Except Error String → Ending
  | .ok output => success output
  | .error (.polling (.cancelled cancellation)) =>
      if cancellation.isByToken then interrupted else ofError (.polling (.cancelled cancellation))
  | .error error => ofError error

/-- How a run ends that may be interrupted. -/
def ofResult? : Option (Except Error String) → Ending
  | some result => ofResult result
  | none => interrupted

/-- The exit status; a defect has none of its own. -/
def status : Ending → Nat
  | success _ => 0
  | failure _ | defect _ => 1
  | interrupted => 130

/-- What is said of an ending that is no success. -/
def complaint : Ending → String
  | success _ => ""
  | failure report => report
  | interrupted => "error: interrupted\n"
  | defect error => s!"defect: {error.message}\n"

def output : Ending → String
  | success output => output
  | _ => ""

end Ending

end BlobInscription.CommandLine
