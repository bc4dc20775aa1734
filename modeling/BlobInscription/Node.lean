import BlobInscription.Extraction
import BlobInscription.Fee
import BlobInscription.UnspentOutput

/-!
What the service asks of a node, and how a node that takes remote calls answers. Blocks are fetched
raw and annotated once, so that all later work can rely on the annotations.
-/

namespace BlobInscription

/-- What can be asked of a node. -/
inductive NodeCall
  | blockCount
  | blockHash (height : Int)
  | block (hash : Datum) (rollup : String)
  | changeAddresses
  | unspentOutputs
  | feeRate
  | sign (raw : String)
  | broadcast (raw : Datum)
  deriving Repr

namespace NodeCall

/-- What a node gives for a call. Identifiers, addresses and signed transactions are passed on as
the node gave them. -/
@[reducible] def Value : NodeCall → Type
  | blockCount => Int
  | blockHash _ => Datum
  | block .. => Block
  | changeAddresses => Datum × Datum
  | unspentOutputs => List UnspentOutput
  | feeRate => Binary64
  | sign _ => Datum
  | broadcast _ => Datum

abbrev Answer (c : NodeCall) : Type :=
  Except NodeError c.Value

end NodeCall

/-- A node that takes remote calls, with the fee rate to use when it has no estimate. -/
structure Node where
  fallbackRate : Binary64

namespace Node

open Rpc (Session Call)

def defaultFallbackRate : Binary64 := .ofRatio false 1 1

def blockCount : Session Int := do
  Session.reading (← Session.call .blockCount).toInteger

/-- A refusal for a parameter out of range says that there is no such block yet. -/
def hashError : NodeError → NodeError
  | .rpc (.refused refusal) =>
      if refusal.hasCode Rpc.Refusal.invalidParameter then .rpc (.heightNotProduced refusal)
      else .rpc (.refused refusal)
  | error => error

def blockHash (height : Int) : Session Datum :=
  (Session.call (.blockHash (.int height))).adapt hashError

/-- The bytes of a block that a node sent as a text. -/
def blockBytes (hash : Datum) : Datum → Except NodeError Bytes
  | .text t =>
      match Bytes.ofHex? t with
      | some raw => .ok raw
      | none => .error (.undecodableBlock hash)
  | .null => .error (.form (.notHexText "None"))
  | d => .error (.form (.notHexText d.kindName))

/-- The block in a node's answer, which must be the one that the wanted hash names. -/
def readBlock (hash : Datum) (rollup : String) (answer : Datum) : Except NodeError Block := do
  let bytes ← blockBytes hash answer
  let raw ← (RawBlock.ofBytes bytes).mapError fun _ => .undecodableBlock hash
  let received ← raw.header.hashText.mapError .width
  if !hash.same (.text received) then throw (.hashMismatch hash received)
  (Block.annotate rollup raw).mapError .width

def block (hash : Datum) (rollup : String) : Session Block := do
  let answer ← Session.call (.block hash (.int 0))
  ExceptT.mk (pure (readBlock hash rollup answer))

def changeAddresses : Session (Datum × Datum) := do
  let first ← Session.call (.changeAddress .null)
  let second ← Session.call (.changeAddress .null)
  return (first, second)

/-- The outputs in a node's list, of which there must be one. -/
def readUnspent (answer : Datum) : Except NodeError (List UnspentOutput) := do
  let outputs ← (do (← answer.items).mapM UnspentOutput.ofDatum).mapError .form
  if outputs.isEmpty then throw .noUnspentOutputs
  return outputs

/-- The outputs that the wallet can spend, unconfirmed ones included. -/
def unspentOutputs : Session (List UnspentOutput) := do
  let answer ← Session.call (.unspent (.int 0) (.int 9999999) .null)
  ExceptT.mk (pure (readUnspent answer))

def feeRate (node : Node) : Session Binary64 := do
  return (← Fee.select Fee.confirmationTarget node.fallbackRate).rate

/-- The signed transaction in a wallet's answer, which must be fully signed. -/
def readSigned (answer : Datum) : Except NodeError Datum := do
  let entries ← answer.entries.mapError .form
  if !(Datum.lookup entries "complete").truthy then throw .incompleteSignature
  (Datum.require entries "hex").mapError .form

def sign (raw : String) : Session Datum := do
  let answer ← Session.call (.sign (.text raw))
  ExceptT.mk (pure (readSigned answer))

def broadcast (raw : Datum) : Session Datum :=
  Session.call (.broadcast raw)

/-- How a node answers. -/
def answer (node : Node) : (c : NodeCall) → Session c.Value
  | .blockCount => blockCount
  | .blockHash height => blockHash height
  | .block hash rollup => block hash rollup
  | .changeAddresses => changeAddresses
  | .unspentOutputs => unspentOutputs
  | .feeRate => node.feeRate
  | .sign raw => sign raw
  | .broadcast raw => broadcast raw

end Node

end BlobInscription
