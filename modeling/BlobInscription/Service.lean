import BlobInscription.Polling
import BlobInscription.Submission
import BlobInscription.Verification

/-!
The service that a rollup talks to: it waits for blocks, takes the rollup's blobs out of them with
proofs, and publishes blobs. It reaches the node by calls, and keeps what it must not lose with
whoever runs it.
-/

namespace BlobInscription

namespace Service

/-- What a service asks of its surroundings. -/
inductive Question
  | call (call : Rpc.Call)
  | cancelled
  | sleep (seconds : Binary64)
  | build (order : Submission.BuildOrder)
  | saveReveal (commitId : String) (raw : Bytes)
  deriving Repr

@[reducible] def Answer : Question → Type
  | .call _ => Except Rpc.Error Datum
  | .cancelled => Bool
  | .sleep _ => Except Cancellation Unit
  | .build _ => Except SubmissionCause Submission.TransactionPair
  | .saveReveal .. => Except CheckpointError Unit

/-- What a service lacks to publish blobs. -/
inductive Unready
  | noBuilder
  | noDestination
  | noPrivateKey
  deriving DecidableEq, Repr

def Unready.message : Unready → String
  | noBuilder => "No inscription transaction builder is configured"
  | noDestination => "A destination address must be configured to submit blobs"
  | noPrivateKey => "The sequencer private key must be configured to submit blobs"

/-- Why a blob is not published. -/
inductive PublishError
  | unready (lack : Unready)
  | submission (failure : SubmissionFailure)
  deriving Repr

def PublishError.message : PublishError → String
  | unready lack => lack.message
  | submission failure => failure.message

end Service

/-- A service of one rollup. Destination and private key are needed to publish only, and so is
someone who builds transactions. -/
structure Service where
  rollup : String
  network : Network := .regtest
  node : Node := { fallbackRate := Node.defaultFallbackRate }
  compressor : Compressor := .standard
  filter : SampleFilter := .standard
  depth : Int := 4
  interval : Binary64 := .ofRatio false 10 1
  destination : String := ""
  privateKey : String := ""
  hasBuilder : Bool := false
  signer : Authentication.Signer := Ecdsa.sign

namespace Service

def tracker (s : Service) : BlockTracker where
  rollup := s.rollup
  depth := s.depth
  interval := s.interval

def scanner (s : Service) : Scanner where
  rollup := s.rollup
  compressor := s.compressor

def verifier (s : Service) : Verifier where
  rollup := s.rollup
  filter := s.filter
  compressor := s.compressor

/-- How the node answers, by calls. -/
def askNode (s : Service) (call : NodeCall) : Dialogue Answer call.Answer :=
  (s.node.answer call).run.relay fun c => Dialogue.query (Question.call c)

/-- How a poll's questions are answered. -/
def answerPoll (s : Service) : (q : Polling.Question) → Dialogue Answer (Polling.Answer q)
  | .cancelled => Dialogue.query Question.cancelled
  | .sleep seconds => Dialogue.query (Question.sleep seconds)
  | .node call => s.askNode call

/-- Polls with the service's node. -/
def poll {α : Type} (s : Service) (polling : Polling α) :
    ExceptT Polling.Failure (Dialogue Answer) α :=
  ExceptT.mk (polling.run.relay s.answerPoll)

/-- The block at a height, once it is final. -/
def finalizedAt (s : Service) (patience : Nat) (height : Int) :
    ExceptT Polling.Failure (Dialogue Answer) Block :=
  s.poll (s.tracker.finalizedAt patience height)

/-- The block at a height, once it exists. -/
def blockAt (s : Service) (patience : Nat) (height : Int) :
    ExceptT Polling.Failure (Dialogue Answer) Block :=
  s.poll (s.tracker.blockAt patience height)

/-- The blobs of the rollup in a block. -/
def blobsIn (s : Service) (block : Block) : Except Wire.WidthError (List Blob) :=
  s.scanner.extract block

/-- The blobs of the rollup in a block, with proofs. -/
def extraction (s : Service) (block : Block) : Except Wire.WidthError Extraction :=
  s.scanner.extractWithProof s.filter block

/-- Takes the blobs out of a block and checks them against their own proofs. -/
def verified (s : Service) (block : Block) : Except VerificationError (List Blob) := do
  let e ← (s.extraction block).mapError .width
  s.verifier.verify block.header e.blobs e.inclusion e.completeness

def collaborators (s : Service) : Submission.Collaborators (Dialogue Answer) where
  compressor := s.compressor
  signer := s.signer
  node := s.askNode
  build order := Dialogue.query (Question.build order)
  saveReveal commitId raw := Dialogue.query (Question.saveReveal commitId raw)

/-- The submitter of the service's blobs, if it has all that this needs. -/
def submitter (s : Service) : Except Unready Submitter :=
  if !s.hasBuilder then .error .noBuilder
  else if s.destination.isEmpty then .error .noDestination
  else if s.privateKey.isEmpty then .error .noPrivateKey
  else .ok {
    rollup := s.rollup
    network := s.network
    destination := s.destination
    privateKey := s.privateKey }

/-- Publishes a blob. -/
def publish (s : Service) (blob : Bytes) :
    ExceptT PublishError (Dialogue Answer) Submission.Receipt :=
  match s.submitter with
  | .error lack => throw (.unready lack)
  | .ok submitter =>
      ExceptT.mk do
        let result ← (submitter.submit blob).run.relay s.collaborators.answer
        return result.mapError .submission

end Service

end BlobInscription
