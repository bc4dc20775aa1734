import BlobInscription.Wire
import BlobInscription.Bytes.Hex
import BlobInscription.Hash.Sha256

namespace BlobInscription

open Wire (WidthError Reader ReadError)

/-- The output that an input spends. -/
structure OutPoint where
  txid : Bytes
  vout : Int
  deriving DecidableEq, Repr

structure TxInput where
  prevout : OutPoint
  scriptSig : Bytes := []
  sequence : Int := 0xffffffff
  witness : List Bytes := []
  deriving DecidableEq, Repr

structure TxOutput where
  value : Int
  scriptPubkey : Bytes
  deriving DecidableEq, Repr

structure Transaction where
  version : Int
  inputs : List TxInput
  outputs : List TxOutput
  lockTime : Int := 0
  deriving DecidableEq, Repr

/-- The text of an identifier. -/
def displayId (id : Bytes) : String :=
  Bytes.hex id.reverse

namespace OutPoint

/-- The output `vout` of the transaction whose identifier is written out. -/
def ofText? (txid : String) (vout : Int) : Option OutPoint :=
  (Bytes.ofHex? txid).map fun bytes => ⟨bytes.reverse, vout⟩

def serialize (p : OutPoint) : Except WidthError Bytes :=
  (Wire.unsigned 4 p.vout).map (p.txid ++ ·)

def read : Reader OutPoint := do
  let txid ← Wire.read 32
  let vout ← Wire.readUnsigned 4
  return ⟨txid, vout⟩

end OutPoint

namespace TxInput

/-- An input without its witness. -/
def serialize (i : TxInput) : Except WidthError Bytes := do
  let prevout ← i.prevout.serialize
  let scriptSig ← Wire.varBytes i.scriptSig
  let sequence ← Wire.unsigned 4 i.sequence
  return prevout ++ scriptSig ++ sequence

def serializeWitness (i : TxInput) : Except WidthError Bytes := do
  let count ← Wire.compactSize i.witness.length
  let items ← i.witness.mapM Wire.varBytes
  return count ++ items.flatten

def read : Reader TxInput := do
  let prevout ← OutPoint.read
  let scriptSig ← Wire.readVarBytes
  let sequence ← Wire.readUnsigned 4
  return { prevout, scriptSig, sequence }

end TxInput

namespace TxOutput

def serialize (o : TxOutput) : Except WidthError Bytes := do
  let value ← Wire.unsigned 8 o.value
  let scriptPubkey ← Wire.varBytes o.scriptPubkey
  return value ++ scriptPubkey

def read : Reader TxOutput := do
  let value ← Wire.readUnsigned 8
  let scriptPubkey ← Wire.readVarBytes
  return { value, scriptPubkey }

end TxOutput

namespace Transaction

/-- What stands in place of the input count when witnesses follow. -/
def witnessMarker : Bytes := [0, 1]

def hasWitness (tx : Transaction) : Bool :=
  tx.inputs.any fun i => !i.witness.isEmpty

/-- The inputs and outputs without witnesses. -/
def serializeBody (tx : Transaction) : Except WidthError Bytes := do
  let inputCount ← Wire.compactSize tx.inputs.length
  let inputs ← tx.inputs.mapM TxInput.serialize
  let outputCount ← Wire.compactSize tx.outputs.length
  let outputs ← tx.outputs.mapM TxOutput.serialize
  return inputCount ++ inputs.flatten ++ outputCount ++ outputs.flatten

/-- The encoding without witnesses. -/
def serializeStripped (tx : Transaction) : Except WidthError Bytes := do
  let version ← Wire.signed 4 tx.version
  let body ← tx.serializeBody
  let lockTime ← Wire.unsigned 4 tx.lockTime
  return version ++ body ++ lockTime

/-- The encoding with witnesses, which a transaction without any does not show. -/
def serialize (tx : Transaction) : Except WidthError Bytes :=
  if tx.hasWitness then do
    let version ← Wire.signed 4 tx.version
    let body ← tx.serializeBody
    let witnesses ← tx.inputs.mapM TxInput.serializeWitness
    let lockTime ← Wire.unsigned 4 tx.lockTime
    return version ++ witnessMarker ++ body ++ witnesses.flatten ++ lockTime
  else tx.serializeStripped

def toHex (tx : Transaction) : Except WidthError String :=
  tx.serialize.map Bytes.hex

/-- The identifier: the double hash of the encoding without witnesses. -/
def txid (tx : Transaction) : Except WidthError Bytes :=
  tx.serializeStripped.map Sha256.double

def txidText (tx : Transaction) : Except WidthError String :=
  tx.txid.map displayId

/-- Reads the witness of each input in turn. -/
def readWitnesses : List TxInput → (done : List TxInput) → Reader (List TxInput)
  | [], done => return done.reverse
  | i :: rest, done => do
      let witness ← Wire.readList Wire.readVarBytes
      readWitnesses rest ({ i with witness } :: done)

/-- Steps over the witness marker if it comes next. -/
def readMarker : Reader Bool := do
  if (← get).peek 2 = witnessMarker then
    let _ ← Wire.read 2
    return true
  else return false

def read : Reader Transaction := do
  let version ← Wire.readSigned 4
  let marked ← readMarker
  let inputs ← Wire.readList TxInput.read
  let outputs ← Wire.readList TxOutput.read
  let inputs ← if marked then readWitnesses inputs [] else pure inputs
  let lockTime ← Wire.readUnsigned 4
  return { version, inputs, outputs, lockTime }

/-- The transaction that takes up all the bytes. -/
def ofBytes (raw : Bytes) : Except ReadError Transaction :=
  Wire.readAll "transaction" read raw

def ofHex (text : String) : Except ReadError Transaction :=
  match Bytes.ofHex? text with
  | some raw => ofBytes raw
  | none => .error .notHex

end Transaction

end BlobInscription
