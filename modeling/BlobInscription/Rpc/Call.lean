import BlobInscription.Json
import BlobInscription.Json.Printer
import BlobInscription.Rpc.Connection
import BlobInscription.Rpc.Error

namespace BlobInscription.Rpc

/-- A method with its parameters: a list, or a map of named ones. -/
structure Call where
  method : String
  params : Datum := .list []
  deriving Repr

namespace Call

/-- A call with parameters that may not be given. -/
def withParams (method : String) (params : Datum) : Call :=
  ⟨method, if params.truthy then params else .list []⟩

/-- The parameters that follow only when one is given. -/
def optional (d : Datum) : List Datum :=
  if d.isNull then [] else [d]

def blockCount : Call :=
  ⟨"getblockcount", .list []⟩

def blockHash (height : Datum) : Call :=
  ⟨"getblockhash", .list [height]⟩

/-- A block in one of the node's levels of detail; at level zero it is raw. -/
def block (hash level : Datum) : Call :=
  ⟨"getblock", .list [hash, level]⟩

def unspent (minConfirmations maxConfirmations addresses : Datum) : Call :=
  ⟨"listunspent", .list ([minConfirmations, maxConfirmations] ++ optional addresses)⟩

def changeAddress (addressType : Datum) : Call :=
  withParams "getrawchangeaddress" (.list (optional addressType))

def networkInfo : Call :=
  ⟨"getnetworkinfo", .list []⟩

def mempoolInfo : Call :=
  ⟨"getmempoolinfo", .list []⟩

def feeEstimate (target mode : Datum) : Call :=
  ⟨"estimatesmartfee", .list (target :: optional mode)⟩

def sign (raw : Datum) : Call :=
  ⟨"signrawtransactionwithwallet", .list [raw]⟩

def broadcast (raw : Datum) : Call :=
  ⟨"sendrawtransaction", .list [raw]⟩

/-- The call of a known method with its arguments. Arguments that are left out take the values that
the node itself would take, and blocks come in their first level of detail. -/
def ofArguments? : (method : String) → (arguments : List Datum) → Option Call
  | "getblockcount", [] => some blockCount
  | "getblockhash", [height] => some (blockHash height)
  | "getblock", [hash] => some (block hash (.int 1))
  | "getblock", [hash, level] => some (block hash level)
  | "listunspent", [] => some (unspent (.int 1) (.int 9999999) .null)
  | "listunspent", [least] => some (unspent least (.int 9999999) .null)
  | "listunspent", [least, most] => some (unspent least most .null)
  | "listunspent", [least, most, addresses] => some (unspent least most addresses)
  | "getrawchangeaddress", [] => some (changeAddress .null)
  | "getrawchangeaddress", [kind] => some (changeAddress kind)
  | "getnetworkinfo", [] => some networkInfo
  | "getmempoolinfo", [] => some mempoolInfo
  | "estimatesmartfee", [target] => some (feeEstimate target .null)
  | "estimatesmartfee", [target, mode] => some (feeEstimate target mode)
  | "signrawtransactionwithwallet", [raw] => some (sign raw)
  | "sendrawtransaction", [raw] => some (broadcast raw)
  | _, _ => none

end Call

/-- What is sent over HTTP for a call. -/
structure Request where
  url : String
  user : String
  password : String
  call : Call
  deriving Repr

def Connection.request (c : Connection) (call : Call) : Request :=
  ⟨c.url, c.user, c.password, call⟩

/-- What comes back over HTTP. -/
inductive Reply
  | noConnection
  /-- A reply names the encoding of its body by a charset, or by being of a type that has one. -/
  | response (status : Int) (body : String) (namesEncoding : Bool := false)
  deriving Repr

namespace Reply

/-- The reply with a result and an error in its body, one of which is null. -/
def ofParts (status : Int) (result error : Datum) : Reply :=
  .response status (Json.render Json.compact 0
    (.map [(.text "result", result), (.text "error", error)]))

/-- Whether a status tells of a failure. -/
def isFailure (status : Int) : Bool :=
  400 ≤ status && status < 600

/-- The text of a body. A byte order mark in front tells of the encoding, unless that is named:
then the mark is a part of the text. -/
def textOf (namesEncoding : Bool) (body : String) : String :=
  match namesEncoding, body.toList with
  | false, '\ufeff' :: rest => String.ofList rest
  | _, _ => body

/-- The result of a reply that carries no error. -/
def resultOf (status : Int) (body? : Option Datum) : Except Error Datum :=
  if isFailure status then
    .error (.transport (if status = 401 then .unauthorized else .badStatus status))
  else
    match body? with
    | some (.map entries) => .ok (Datum.lookup entries "result")
    | _ => .error (.transport .malformedReply)

/-- What a reply means whose body holds a value, or none. An error in the body comes first. -/
def meaning (status : Int) (body? : Option Datum) : Except Error Datum :=
  match body? with
  | some (.map entries) =>
      let error := Datum.lookup entries "error"
      if error.truthy then .error (.refused (.ofDatum error)) else resultOf status body?
  | _ => resultOf status body?

/-- What a reply means. Nodes refuse a call with an HTTP failure and an error in the body. A body
that is nested too deep has no meaning, whatever the status. -/
def result (reply : Reply) (nesting : Nat := Datum.usualNesting) : Except Error Datum :=
  match reply with
  | noConnection => .error (.transport .unreachable)
  | response status body namesEncoding =>
      match Json.read nesting (textOf namesEncoding body) with
      | .ok value => meaning status (some value)
      | .error .malformed => meaning status none
      | .error (.tooDeep container) => .error (.tooDeep container)

end Reply

end BlobInscription.Rpc
