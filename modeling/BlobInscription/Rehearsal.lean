import BlobInscription.Checkpoint.Store
import BlobInscription.CommandLine
import BlobInscription.Rehearsal.FileTree
import BlobInscription.Rehearsal.NodeScript
import BlobInscription.Rpc.ReplyBook

/-!
Prepared surroundings, in which the program, services and their parts can be run without a node.
Everything that is asked is noted.
-/

namespace BlobInscription

/-- Surroundings, and what they have been asked; of this the newest comes first. -/
structure Rehearsal where
  node : NodeScript := {}
  connection : Rpc.Connection := { user := "", password := "" }
  /-- What comes back for calls; nothing does when the user interrupts the wait. -/
  replies : ReplyBook (Option Rpc.Reply) := ⟨[]⟩
  store : CheckpointStore := .directory {}
  /-- The time at which checkpoints are saved. -/
  time : Int := 0
  compressor : Compressor := .standard
  /-- What the builder says instead of building. -/
  refusal? : Option String := none
  /-- The files, and the standard input. -/
  tree : FileTree := {}
  input : Bytes := []
  built : Except SubmissionCause Submission.TransactionPair := .error (.reported "")
  token? : Option CancelToken := none
  /-- The number of sleeps after which the token is cancelled. -/
  cancelAfter? : Option Int := none
  /-- Whether sleeps look at the token, as in real time. -/
  realTime : Bool := false
  calls : List NodeCall := []
  sent : List Rpc.Request := []
  sleeps : List Binary64 := []
  orders : List (Submission.BuildOrder × Authentication.Sender × Bytes) := []

namespace Rehearsal

/-- An action in prepared surroundings. -/
abbrev Act := StateM Rehearsal

/-- The node's script answers. -/
def askNode (call : NodeCall) : Act call.Answer := fun s =>
  let calls := call :: s.calls
  (s.node.answer calls call, { s with calls })

/-- The next prepared reply comes back; where there is none, there is no connection. -/
def transmit (call : Rpc.Call) : Act (Option Rpc.Reply) := fun s =>
  ((s.replies.next? call.method).getD (some .noConnection),
    { s with
      replies := s.replies.turn call.method
      sent := s.connection.request call :: s.sent })

/-- The outcome of a call. -/
def send (call : Rpc.Call) : Act (Except Rpc.Error Datum) := do
  return ((← transmit call).getD .noConnection).result

/-- What has been noted since an earlier moment, in order. -/
def since {α : Type} (notes : Rehearsal → List α) (old new : Rehearsal) : List α :=
  ((notes new).take ((notes new).length - (notes old).length)).reverse

def cancelled : Act Bool := fun s =>
  (s.token?.any CancelToken.cancelled, s)

/-- What happens to the token at a sleep. -/
def tokenAfter (s : Rehearsal) (slept : Nat) : Option CancelToken :=
  match s.cancelAfter? with
  | some n => if n ≤ slept then s.token?.map CancelToken.cancel else s.token?
  | none => s.token?

/-- Sleeps in real time. -/
def pause (seconds : Binary64) : Act (Except Cancellation Unit) := fun s =>
  match SystemClock.sleep seconds s.token? with
  | .error cancellation => (.error cancellation, s)
  | .ok slept? => (.ok (), { s with sleeps := slept?.toList ++ s.sleeps })

/-- Sleeps, which is only noted, or happens in real time. -/
def sleep (seconds : Binary64) : Act (Except Cancellation Unit) := fun s =>
  if s.realTime then pause seconds s
  else
    let sleeps := seconds :: s.sleeps
    (.ok (), { s with sleeps, token? := s.tokenAfter sleeps.length })

/-- The builder refuses, or checks its order and notes it before it gives the transactions. -/
def build (order : Submission.BuildOrder) :
    Act (Except SubmissionCause Submission.TransactionPair) := fun s =>
  match s.refusal?, order.check s.compressor with
  | some text, _ => (.error (.reported text), s)
  | none, .error cause => (.error cause, s)
  | none, .ok (sender, blob) => (s.built, { s with orders := (order, sender, blob) :: s.orders })

def save (id : String) (raw : Bytes) : Act (Except CheckpointError Unit) := fun s =>
  match s.store.save s.time id raw with
  | .ok store => (.ok (), { s with store })
  | .error error => (.error error, s)

/-- The answers to a poll. -/
def answerPoll : (q : Polling.Question) → Act (Polling.Answer q)
  | .cancelled => cancelled
  | .sleep seconds => sleep seconds
  | .node call => askNode call

/-- The answers to a service. -/
def answer : (q : Service.Question) → Act (Service.Answer q)
  | .call call => send call
  | .cancelled => cancelled
  | .sleep seconds => sleep seconds
  | .build order => build order
  | .saveReveal id raw => save id raw

/-- Saves a reveal transaction among the files. -/
def saveFile (directory : PathName) (id : String) (raw : Bytes) :
    Act (Except CheckpointError Unit) := fun s =>
  match s.tree.save directory id raw with
  | .ok tree => (.ok (), { s with tree })
  | .error error => (.error error, s)

/-- The answers to the program. There is none when the user interrupts it. -/
def answerProgram : (q : CommandLine.Question) → OptionT Act (CommandLine.Answer q)
  | .entry path => OptionT.mk fun s => (some (s.tree.entry path), s)
  | .input => OptionT.mk fun s => (some s.input, s)
  | .service config (.call call) => OptionT.mk fun s =>
      let (reply?, s) := transmit call { s with connection := config.rpc }
      (reply?.map fun reply => reply.result, s)
  | .service config (.saveReveal id raw) => saveFile config.checkpoints id raw
  | .service _ question => answer question

/-- Runs the program. -/
def program (run : CommandLine.Run String) : Act CommandLine.Ending := do
  return .ofResult? (← (run.run.run answerProgram).run)

/-- Those who take part in a submission. -/
def collaborators (compressor : Compressor) (signer : Authentication.Signer) :
    Submission.Collaborators Act where
  compressor
  signer
  node := askNode
  build
  saveReveal := save

end Rehearsal

end BlobInscription
