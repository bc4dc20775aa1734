import BlobInscription.Script
import BlobInscription.Text.Quoted
import BlobInscription.Transaction

/-!
The envelope that carries a rollup blob inside a script:

    empty push, IF,
      push 1, push of the rollup name,
      push 2, push of the signature,
      push 3, push of the public key,
      push 4, push of the nonce,
      empty push, any number of pushes of the body,
    ENDIF

The reader walks the instructions once. A failed match keeps what it has consumed: the next match
starts behind the instruction that did not fit.
-/

namespace BlobInscription

/-- The fields of an envelope; the body is still compressed. -/
structure Envelope where
  body : Bytes
  signature : Bytes
  publicKey : Bytes
  deriving DecidableEq, Repr

namespace Envelope

open Script (Instruction)

def bodyTag : Bytes := []
def nameTag : Bytes := [1]
def signatureTag : Bytes := [2]
def publicKeyTag : Bytes := [3]
def nonceTag : Bytes := [4]

/-- A match attempt: it consumes instructions whether it succeeds or not. -/
abbrev Attempt := OptionT (StateM (List Instruction))

namespace Attempt

/-- Consumes one instruction and keeps what `view` sees in it. -/
def one {α : Type} (view : Instruction → Option α) : Attempt α := fun instructions =>
  match instructions with
  | [] => (none, [])
  | i :: rest => (view i, rest)

/-- Consumes one instruction, which must be a push. -/
def anyPush : Attempt Bytes :=
  one Instruction.pushed?

/-- Consumes one instruction, which must be a push of `data`. -/
def pushOf (data : Bytes) : Attempt Unit :=
  one fun i => if i.pushed? = some data then some () else none

/-- Consumes one instruction, which must be the opcode `c`. -/
def opcode (c : Opcode) : Attempt Unit :=
  one fun i => if i.isOp c then some () else none

end Attempt

/-- The pushes up to ENDIF, joined onto the reversed chunks `done`. The instruction that stops the
run is consumed. -/
def takeChunks : List Instruction → (done : List Bytes) → Option Bytes × List Instruction
  | [], _ => (none, [])
  | i :: rest, done =>
      match i.pushed? with
      | some data => takeChunks rest (data :: done)
      | none => (if i.isOp Opcode.endIf then some done.reverse.flatten else none, rest)

/-- What follows the empty push that opens an envelope for `name`. -/
def afterMarker (name : Bytes) : Attempt Envelope := do
  Attempt.opcode Opcode.ifOp
  Attempt.pushOf nameTag
  Attempt.pushOf name
  Attempt.pushOf signatureTag
  let signature ← Attempt.anyPush
  Attempt.pushOf publicKeyTag
  let publicKey ← Attempt.anyPush
  Attempt.pushOf nonceTag
  let _ ← Attempt.anyPush
  Attempt.pushOf bodyTag
  let body ← (fun instructions => takeChunks instructions [] : Attempt Bytes)
  return { body, signature, publicKey }

/-- The first envelope for `name` among the instructions. The bound counts the matches still to be
tried; the number of instructions is enough. -/
def findWithin (name : Bytes) : (bound : Nat) → List Instruction → Option Envelope
  | 0, _ => none
  | bound + 1, instructions =>
      match instructions.dropWhile fun i => i.pushed? != some bodyTag with
      | [] => none
      | _ :: rest =>
          match (afterMarker name).run rest with
          | (some envelope, _) => some envelope
          | (none, rest) => findWithin name bound rest

/-- The first envelope for `name` among the instructions. -/
def find? (name : Bytes) (instructions : List Instruction) : Option Envelope :=
  findWithin name instructions.length instructions

inductive DecodeError
  | noInputs
  | noScriptPath
  | noEnvelope (rollup : String)
  deriving DecidableEq, Repr

def DecodeError.message : DecodeError → String
  | noInputs => "Transaction has no inputs"
  | noScriptPath => "First input does not carry a script-path witness"
  | noEnvelope rollup => s!"No envelope for rollup {Text.quoted rollup} found in script"

/-- The first envelope for `rollup` in a script. -/
def ofScript (script : Bytes) (rollup : String) : Except DecodeError Envelope :=
  match find? (Bytes.ofText rollup) (Script.instructions script) with
  | some envelope => .ok envelope
  | none => .error (.noEnvelope rollup)

/-- The leaf script that the first input of a transaction spends. -/
def leafScript (tx : Transaction) : Except DecodeError Bytes :=
  match tx.inputs with
  | [] => .error .noInputs
  | first :: _ =>
      match Script.ofWitness? first.witness with
      | some script => .ok script
      | none => .error .noScriptPath

/-- The envelope for `rollup` that a transaction reveals. -/
def ofTransaction (tx : Transaction) (rollup : String) : Except DecodeError Envelope := do
  ofScript (← leafScript tx) rollup

inductive BuildError
  | chunkSize
  | revealKeyLength (length : Nat)
  | element (error : Script.AssemblyError)
  deriving DecidableEq, Repr

def BuildError.message : BuildError → String
  | chunkSize => s!"chunk_size must be between 1 and {Script.maxElementSize}"
  | revealKeyLength length => s!"Reveal key must be 32 bytes, got {length}"
  | element error => error.message

/-- The pieces of `size` bytes of a body, in order; the last may be shorter. The bound is the number
of bytes. -/
def chunksWithin (size : Nat) : (bound : Nat) → Bytes → List Bytes
  | 0, _ => []
  | bound + 1, body =>
      if body.isEmpty then [] else body.take size :: chunksWithin size bound (body.drop size)

def chunks (size : Nat) (body : Bytes) : List Bytes :=
  chunksWithin size body.length body

/-- The items of the script that carries an envelope. -/
def items (rollup : String) (envelope : Envelope) (nonce : Bytes) (chunkSize : Nat) :
    List Script.Item :=
  [.data bodyTag, .opcode Opcode.ifOp.toNat,
    .data nameTag, .data (Bytes.ofText rollup),
    .data signatureTag, .data envelope.signature,
    .data publicKeyTag, .data envelope.publicKey,
    .data nonceTag, .data nonce,
    .data bodyTag] ++ (chunks chunkSize envelope.body).map .data ++ [.opcode Opcode.endIf.toNat]

/-- The items that bind a leaf script to the key that may spend it. -/
def guardItems : Option Bytes → List Script.Item
  | none => []
  | some key => [.data key, .opcode Opcode.checkSig.toNat]

/-- The script that carries an envelope, spendable only by `revealKey?` when one is given. -/
def toScript (rollup : String) (envelope : Envelope) (nonce : Bytes) (revealKey? : Option Bytes)
    (chunkSize : Int) : Except BuildError Bytes := do
  unless 0 < chunkSize ∧ chunkSize ≤ Script.maxElementSize do
    throw .chunkSize
  if let some key := revealKey? then
    unless key.length = 32 do
      throw (.revealKeyLength key.length)
  (Script.assemble (guardItems revealKey? ++ items rollup envelope nonce chunkSize.toNat)).mapError
    .element

end Envelope

end BlobInscription
