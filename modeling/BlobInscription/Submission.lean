import BlobInscription.Dialogue
import BlobInscription.Node
import BlobInscription.Submission.Failure

/-!
Submission of a blob: it is compressed, signed, and inscribed by a pair of transactions. The commit
locks coins to a script, and the reveal spends them and shows the script. Once the commit is
broadcast it cannot be taken back, so the reveal is saved before it is broadcast itself.
-/

namespace BlobInscription

namespace Submission

/-- What the builder of the two transactions is told. -/
structure BuildOrder where
  rollup : String
  body : Bytes
  signature : Bytes
  publicKey : Bytes
  point : SatPoint
  outputs : List UnspentOutput
  changeAddresses : Datum × Datum
  destination : String
  commitRate : Binary64
  revealRate : Binary64
  network : Network
  deriving Repr

/-- What a builder can check of its order: the signature is genuine, and the body decompresses. -/
def BuildOrder.check (order : BuildOrder) (compressor : Compressor) :
    Except SubmissionCause (Authentication.Sender × Bytes) := do
  let sender ← (Authentication.verify
    { body := order.body, signature := order.signature, publicKey := order.publicKey }).mapError
      .authentication
  let blob ← (compressor.decompress order.body).mapError .compression
  return (sender, blob)

/-- An unsigned commit and a signed reveal. -/
structure TransactionPair where
  commit : Transaction
  reveal : Transaction
  deriving DecidableEq, Repr

/-- What a submission asks of its collaborators. -/
inductive Question
  | compress (blob : Bytes)
  | selectPoint (outputs : List UnspentOutput)
  | resolveDestination (text : String) (network : Network)
  | signBlob (body : Bytes) (privateKey : String)
  | build (order : BuildOrder)
  | node (call : NodeCall)
  | saveReveal (commitId : String) (raw : Bytes)
  deriving Repr

@[reducible] def Value : Question → Type
  | .compress _ => Bytes
  | .selectPoint _ => SatPoint
  | .resolveDestination .. => Address
  | .signBlob .. => Authentication.Signed
  | .build _ => TransactionPair
  | .node call => call.Value
  | .saveReveal .. => Unit

abbrev Answer (q : Question) : Type :=
  Except SubmissionCause (Value q)

/-- The transactions that were broadcast; the second identifier is as the node gave it. -/
structure Receipt where
  commitId : String
  revealId : Datum
  deriving Repr

/-- Inscribes on the first unit of the first output. -/
def firstPoint : List UnspentOutput → Except SubmissionCause SatPoint
  | [] => .error .nothingToSpend
  | output :: _ => .ok { txid := output.txid, vout := output.vout }

end Submission

/-- A computation that submits a blob. -/
abbrev Submission := ExceptT SubmissionFailure (Dialogue Submission.Answer)

namespace Submission

/-- Asks a collaborator at a step. -/
def atStep (step : SubmissionStep) (question : Question) (commitId? : Option String := none) :
    Submission (Value question) :=
  ExceptT.mk ((Dialogue.query question).bind fun answer =>
    .done (answer.mapError (SubmissionFailure.ofCause step commitId?)))

/-- A transaction's encoding, which belongs to no step. -/
def encoded {α : Type} (result : Except Wire.WidthError α) : Submission α :=
  ExceptT.mk (.done (result.mapError .width))

/-- A transaction's encoding at a step. -/
def encodedAt {α : Type} (step : SubmissionStep) (result : Except Wire.WidthError α) :
    Submission α :=
  ExceptT.mk (.done (result.mapError fun error => .ofCause step none (.width error)))

end Submission

/-- Submits the blobs of one rollup. -/
structure Submitter where
  rollup : String
  network : Network
  destination : String
  privateKey : String
  deriving DecidableEq, Repr

namespace Submitter

open Submission (atStep encoded encodedAt)

/-- Prepares the commit and the reveal. -/
def prepare (s : Submitter) (blob : Bytes) : Submission Submission.TransactionPair := do
  let body ← atStep .compress (.compress blob)
  let changeAddresses ← atStep .fetchChangeAddresses (.node .changeAddresses)
  let outputs ← atStep .fetchOutputs (.node .unspentOutputs)
  let point ← atStep .selectPoint (.selectPoint outputs)
  let destination ← atStep .resolveDestination (.resolveDestination s.destination s.network)
  let signed ← atStep .signBlob (.signBlob body s.privateKey)
  let rate ← atStep .estimateFee (.node .feeRate)
  atStep .buildTransactions (.build {
    rollup := s.rollup
    body
    signature := signed.signature
    publicKey := signed.publicKey
    point
    outputs
    changeAddresses
    destination := destination.text
    commitRate := rate
    revealRate := rate
    network := s.network })

/-- Signs and broadcasts the commit, whose identifier is the result. -/
def commit (tx : Transaction) : Submission String := do
  let commitId ← encoded tx.txidText
  let unsigned ← encodedAt .signCommit tx.toHex
  let signed ← atStep .signCommit (.node (.sign unsigned))
  let _ ← atStep .broadcastCommit (.node (.broadcast signed))
  return commitId

/-- Saves and broadcasts the reveal of a commit. It is reported under its identifier, which must
exist. -/
def reveal (commitId : String) (tx : Transaction) : Submission Datum := do
  let raw ← encoded tx.serialize
  atStep .checkpointReveal (.saveReveal commitId raw) (some commitId)
  let _ ← encoded tx.txidText
  atStep .broadcastReveal (.node (.broadcast (.text (Bytes.hex raw)))) (some commitId)

/-- Inscribes a blob. -/
def submit (s : Submitter) (blob : Bytes) : Submission Submission.Receipt := do
  let pair ← s.prepare blob
  let commitId ← commit pair.commit
  let revealId ← reveal commitId pair.reveal
  return { commitId, revealId }

end Submitter

namespace Submission

/-- The collaborators of a submission, each an action of `m`. -/
structure Collaborators (m : Type → Type) where
  compressor : Compressor
  signer : Authentication.Signer
  node : (call : NodeCall) → m call.Answer
  build : BuildOrder → m (Except SubmissionCause TransactionPair)
  saveReveal : (commitId : String) → (raw : Bytes) → m (Except CheckpointError Unit)

/-- The answers that collaborators give. -/
def Collaborators.answer {m : Type → Type} [Monad m] (c : Collaborators m) :
    (q : Question) → m (Answer q)
  | .compress blob => pure ((c.compressor.compress blob).mapError .compression)
  | .selectPoint outputs => pure (firstPoint outputs)
  | .resolveDestination text network => pure ((Address.forNetwork text network).mapError .address)
  | .signBlob body key => pure ((Authentication.sign c.signer body key).mapError .privateKey)
  | .build order => c.build order
  | .node call => do return (← c.node call).mapError .node
  | .saveReveal commitId raw => do return (← c.saveReveal commitId raw).mapError .checkpoint

end Submission

end BlobInscription
