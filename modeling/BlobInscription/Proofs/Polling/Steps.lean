import BlobInscription.Polling
import BlobInscription.Proofs.Dialogue.Trail
import Mathlib.Logic.Basic

namespace BlobInscription.Polling

variable {α : Type}

/-- Sleeps without a look at the token. -/
def sleep (seconds : Binary64) : Polling Unit :=
  ExceptT.mk ((Dialogue.query (Question.sleep seconds)).bind fun answer =>
    .done (answer.mapError Failure.cancelled))

theorem pause_eq (seconds : Binary64) : pause seconds = check >>= fun _ => sleep seconds :=
  rfl

theorem run_ask_bind (call : NodeCall) (f : call.Value → Polling α) :
    (ask call >>= f).run = .ask (.node call) fun answer =>
      match answer with
      | .ok value => (f value).run
      | .error e => .done (.error (.node e)) := by
  refine congrArg (Dialogue.ask _) (funext fun answer => ?_)
  cases answer with
  | error e => rfl
  | ok value => rfl

theorem run_askOrWait_bind (call : NodeCall) (f : Option call.Value → Polling α) :
    (askOrWait call >>= f).run = .ask (.node call) fun answer =>
      match answer with
      | .ok value => (f (some value)).run
      | .error e =>
          if e.isHeightNotProduced then (f none).run else .done (.error (.node e)) := by
  refine congrArg (Dialogue.ask _) (funext fun answer => ?_)
  cases answer with
  | ok value => rfl
  | error e =>
      dsimp only [Dialogue.bind]
      split
      · rfl
      · rfl

theorem run_check_bind (f : Unit → Polling α) :
    (check >>= f).run = .ask .cancelled fun cancelled =>
      if cancelled then .done (.error (.cancelled .beforehand)) else (f ()).run := by
  refine congrArg (Dialogue.ask _) (funext fun cancelled => ?_)
  cases cancelled with
  | true => rfl
  | false => rfl

theorem run_sleep_bind (seconds : Binary64) (f : Unit → Polling α) :
    (sleep seconds >>= f).run = .ask (.sleep seconds) fun answer =>
      match answer with
      | .ok () => (f ()).run
      | .error cancellation => .done (.error (.cancelled cancellation)) := by
  refine congrArg (Dialogue.ask _) (funext fun answer => ?_)
  cases answer with
  | error cancellation => rfl
  | ok _ => rfl

theorem run_fetch (t : BlockTracker) (hash : Datum) (height : Int) :
    (t.fetch hash height).run = .ask (.node (.block hash t.rollup)) fun answer =>
      match answer with
      | .ok block => .done (.ok { block with height? := some height })
      | .error e => .done (.error (.node e)) := by
  rw [BlockTracker.fetch, run_ask_bind]
  refine congrArg (Dialogue.ask _) (funext fun answer => ?_)
  cases answer with
  | error e => rfl
  | ok block => rfl

end BlobInscription.Polling
