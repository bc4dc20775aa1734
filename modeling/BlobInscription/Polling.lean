import BlobInscription.Cancellation
import BlobInscription.Node

/-!
Waiting for blocks: until one exists, or until it lies deep enough under the tip of the chain.
Polling may go on for as long as the chain stands still, so it has a patience: the number of times
it asks at most.
-/

namespace BlobInscription

namespace Polling

/-- What polling asks of its surroundings. -/
inductive Question
  /-- Whether the wait has been cancelled. -/
  | cancelled
  | sleep (seconds : Binary64)
  | node (call : NodeCall)
  deriving Repr

@[reducible] def Answer : Question → Type
  | .cancelled => Bool
  | .sleep _ => Except Cancellation Unit
  | .node call => call.Answer

inductive Failure
  | cancelled (cancellation : Cancellation)
  | node (error : NodeError)
  | outOfPatience
  deriving Repr

def Failure.message : Failure → String
  | cancelled cancellation => cancellation.message
  | node error => error.message
  | outOfPatience => "Out of patience"

end Polling

/-- A computation that polls a node. -/
abbrev Polling := ExceptT Polling.Failure (Dialogue Polling.Answer)

namespace Polling

/-- Asks the node. -/
def ask (call : NodeCall) : Polling call.Value :=
  ExceptT.mk ((Dialogue.query (Question.node call)).bind fun answer =>
    .done (answer.mapError Failure.node))

/-- Asks the node for something that may not exist yet. -/
def askOrWait (call : NodeCall) : Polling (Option call.Value) :=
  ExceptT.mk ((Dialogue.query (Question.node call)).bind fun answer =>
    .done (match answer with
      | .ok value => .ok (some value)
      | .error error => if error.isHeightNotProduced then .ok none else .error (.node error)))

/-- Fails when the wait has been cancelled. -/
def check : Polling Unit :=
  ExceptT.mk ((Dialogue.query Question.cancelled).bind fun cancelled =>
    .done ((CancelToken.check ⟨cancelled⟩).mapError Failure.cancelled))

/-- Sleeps, unless the wait has been cancelled. -/
def pause (seconds : Binary64) : Polling Unit := do
  check
  ExceptT.mk ((Dialogue.query (Question.sleep seconds)).bind fun answer =>
    .done (answer.mapError Failure.cancelled))

end Polling

/-- Fetches blocks of one rollup by height. -/
structure BlockTracker where
  rollup : String
  /-- How many blocks must lie on top of a final one. -/
  depth : Int := 4
  /-- The seconds between two questions. -/
  interval : Binary64 := .ofRatio false 10 1
  deriving Repr

namespace BlockTracker

/-- The block of a hash, known to lie at a height. -/
def fetch (t : BlockTracker) (hash : Datum) (height : Int) : Polling Block := do
  let block ← Polling.ask (.block hash t.rollup)
  return { block with height? := some height }

/-- Waits until the chain is high enough for the block at a height to be final. -/
def awaitDepth (t : BlockTracker) (height : Int) : (patience : Nat) → Polling Unit
  | 0 => throw .outOfPatience
  | patience + 1 => do
      Polling.check
      let tip ← Polling.ask .blockCount
      if height + t.depth ≤ tip then return
      Polling.pause t.interval
      t.awaitDepth height patience

/-- Waits until there is a block at a height, and gives its hash. -/
def awaitHash (t : BlockTracker) (height : Int) : (patience : Nat) → Polling Datum
  | 0 => throw .outOfPatience
  | patience + 1 => do
      Polling.check
      match ← Polling.askOrWait (.blockHash height) with
      | some hash => return hash
      | none =>
          Polling.pause t.interval
          t.awaitHash height patience

/-- The block at a height, once it is final. -/
def finalizedAt (t : BlockTracker) (patience : Nat) (height : Int) : Polling Block := do
  t.awaitDepth height patience
  let hash ← Polling.ask (.blockHash height)
  t.fetch hash height

/-- The block at a height, once it exists. -/
def blockAt (t : BlockTracker) (patience : Nat) (height : Int) : Polling Block := do
  let hash ← t.awaitHash height patience
  t.fetch hash height

end BlockTracker

end BlobInscription
