import BlobInscription.Datum.Display
import BlobInscription.Json

namespace BlobInscription.Rpc

/-- What a node says when it refuses a call. -/
structure Refusal where
  code : Datum
  message : Datum
  deriving Repr

namespace Refusal

/-- The code of a parameter that is out of its range. -/
def invalidParameter : Int := -8

/-- The refusal in the error part of an answer. Parts that are missing get standard values. -/
def ofDatum : Datum → Refusal
  | .map entries =>
      ⟨(Datum.lookup? entries "code").getD (.int (-1)),
        (Datum.lookup? entries "message").getD (.text "unknown")⟩
  | d => ⟨.int (-1), .text d.display⟩

def hasCode (r : Refusal) (code : Int) : Bool :=
  r.code.same (.int code)

def text (r : Refusal) : String :=
  s!"RPC error {r.code.display}: {r.message.display}"

end Refusal

/-- Why the answer to a call did not arrive. -/
inductive TransportFailure
  | unreachable
  | unauthorized
  | badStatus (status : Int)
  | malformedReply
  /-- A failure that a connection reports in its own words. -/
  | reported (text : String)
  deriving DecidableEq, Repr

namespace TransportFailure

def message : TransportFailure → String
  | unreachable =>
      "RPC connection failed. Ensure your Bitcoin node is reachable, authentication is valid, " ++
        "and BITCOIN_DA_RPC_* variables (or ~/.bitcoin-da.yaml) point to the right host and port."
  | unauthorized =>
      "Unauthorized (401). Ensure BITCOIN_DA_RPC_USER/BITCOIN_DA_RPC_PASSWORD " ++
        "(or your .bitcoin-da.yaml) contain valid credentials."
  | badStatus _ =>
      "RPC server returned an HTTP error; check the URL, wallet path, authentication, " ++
        "and BITCOIN_DA_RPC_* settings."
  | malformedReply => "RPC server returned malformed JSON"
  | reported text => text

/-- The HTTP status that tells of the failure. -/
def status? : TransportFailure → Option Int
  | unauthorized => some 401
  | badStatus status => some status
  | unreachable | malformedReply | reported _ => none

end TransportFailure

inductive Error
  | refused (refusal : Refusal)
  /-- A refusal that says that the chain has no block at the wanted height yet. -/
  | heightNotProduced (refusal : Refusal)
  | transport (failure : TransportFailure)
  /-- The reader of an answer gave up at a list or a map of it. No caller foresees this. -/
  | tooDeep (container : Json.Container)
  deriving Repr

namespace Error

/-- What JSON calls a list and a map. -/
def containerName : Json.Container → String
  | .list => "array"
  | .map => "object"

def message : Error → String
  | refused refusal | heightNotProduced refusal => refusal.text
  | transport failure => failure.message
  | tooDeep container =>
      "maximum recursion depth exceeded while decoding a JSON " ++
        s!"{containerName container} from a unicode string"

/-- What the node said, if the error is its refusal. -/
def refusal? : Error → Option Refusal
  | refused refusal | heightNotProduced refusal => some refusal
  | transport _ | tooDeep _ => none

end Error

end BlobInscription.Rpc
