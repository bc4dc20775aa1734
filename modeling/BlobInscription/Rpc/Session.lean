import BlobInscription.Dialogue
import BlobInscription.Node.Error
import BlobInscription.Rpc.Call

namespace BlobInscription.Rpc

/-- A computation that makes calls and may fail. -/
abbrev Session := ExceptT NodeError (Dialogue fun _ : Call => Except Error Datum)

namespace Session

/-- A step that reads what a node sent. -/
def reading {α : Type} (result : Except FormError α) : Session α :=
  ExceptT.mk (pure (result.mapError .form))

/-- Makes a call. -/
def call (call : Call) : Session Datum :=
  ExceptT.mk ((Dialogue.query call).bind fun answer => .done (answer.mapError .rpc))

/-- What becomes of a call that may be refused. -/
def unlessRefused (answer : Except Error Datum) : Except NodeError (Option Datum) :=
  match answer with
  | .ok value => .ok (some value)
  | .error (.transport failure) => .error (.rpc (.transport failure))
  | .error (.tooDeep container) => .error (.rpc (.tooDeep container))
  | .error _ => .ok none

/-- Makes a call that the node may refuse. -/
def tryCall (call : Call) : Session (Option Datum) :=
  ExceptT.mk ((Dialogue.query call).bind fun answer => .done (unlessRefused answer))

end Session

end BlobInscription.Rpc
