import BlobInscription.Address
import BlobInscription.Authentication
import BlobInscription.Checkpoint.Error
import BlobInscription.Compression
import BlobInscription.Node.Error

namespace BlobInscription

inductive SubmissionStep
  | compress
  | fetchChangeAddresses
  | fetchOutputs
  | selectPoint
  | resolveDestination
  | signBlob
  | estimateFee
  | buildTransactions
  | signCommit
  | broadcastCommit
  | checkpointReveal
  | broadcastReveal
  deriving DecidableEq, Repr

def SubmissionStep.name : SubmissionStep → String
  | compress => "compress"
  | fetchChangeAddresses => "fetch_change_addresses"
  | fetchOutputs => "fetch_utxos"
  | selectPoint => "select_inscription_point"
  | resolveDestination => "resolve_destination"
  | signBlob => "sign_blob"
  | estimateFee => "estimate_fee"
  | buildTransactions => "build_transactions"
  | signCommit => "sign_commit"
  | broadcastCommit => "broadcast_commit"
  | checkpointReveal => "checkpoint_reveal"
  | broadcastReveal => "broadcast_reveal"

/-- What goes wrong at a step. -/
inductive SubmissionCause
  | compression (error : CompressionError)
  | node (error : NodeError)
  | nothingToSpend
  | address (error : AddressError)
  | privateKey (error : Authentication.PrivateKeyError)
  | authentication (failure : Authentication.Failure)
  | encoding (error : Wire.ReadError)
  | width (error : Wire.WidthError)
  | checkpoint (error : CheckpointError)
  /-- A failure that a collaborator reports in its own words. -/
  | reported (text : String)
  deriving Repr

namespace SubmissionCause

def message : SubmissionCause → String
  | compression error => error.message
  | node error => error.message
  | nothingToSpend => "No UTXOs available to inscribe on"
  | address error => error.message
  | privateKey error => error.message
  | authentication failure => failure.message
  | encoding error => error.message
  | width error => error.message
  | checkpoint error => error.message
  | reported text => text

/-- Whether an address is one of another network. -/
def isMismatch : SubmissionCause → Bool
  | address error => error.isMismatch
  | _ => false

/-- What a node refused, if that is the cause. -/
def refusal? : SubmissionCause → Option Rpc.Refusal
  | node (.rpc error) => error.refusal?
  | _ => none

end SubmissionCause

inductive SubmissionFailure
  /-- An address of another network. -/
  | mismatch (cause : SubmissionCause)
  /-- A step failed. The identifier of the commit is known once the commit has been broadcast; its
  output can then be spent by the saved reveal only. -/
  | atStep (step : SubmissionStep) (cause : SubmissionCause) (commitId? : Option String)
  /-- A transaction with a number that does not fit its field. -/
  | width (error : Wire.WidthError)
  deriving Repr

namespace SubmissionFailure

/-- The part of a message that tells of a commit that can no longer be undone. -/
def commitNote : Option String → String
  | some id => if id.isEmpty then "" else s!" (commit {id} already broadcast)"
  | none => ""

def message : SubmissionFailure → String
  | mismatch cause => cause.message
  | atStep step cause commitId? =>
      s!"Submission failed at step '{step.name}': {cause.message}" ++ commitNote commitId?
  | width error => error.message

/-- How a step fails from a cause. -/
def ofCause (step : SubmissionStep) (commitId? : Option String) (cause : SubmissionCause) :
    SubmissionFailure :=
  if cause.isMismatch then mismatch cause else atStep step cause commitId?

end SubmissionFailure

end BlobInscription
