import BlobInscription.Proofs.Dialogue.Trail
import BlobInscription.Proofs.Polling.Steps
import BlobInscription.Proofs.Rpc.Reply
import BlobInscription.Service
import Mathlib

namespace BlobInscription

open Dialogue (Exchange)

theorem BlockTracker.blockAt_succ (t : BlockTracker) (patience : Nat) (height : Int) :
    t.blockAt (patience + 1) height =
      Polling.check >>= fun _ => Polling.askOrWait (.blockHash height) >>= fun hash? =>
        match hash? with
        | some hash => t.fetch hash height
        | none => Polling.check >>= fun _ => Polling.sleep t.interval >>= fun _ =>
            t.blockAt patience height := by
  simp only [blockAt, awaitHash, Polling.pause_eq, bind_assoc]
  congr! 4 with - hash?
  cases hash? with
  | none => simp
  | some hash => simp

namespace Service

variable {α : Type} {s : Service} {height : Int} {patience nesting : Nat} {reply : Rpc.Reply}
  {later : List Rpc.Reply}

/-- An exchange before what is told of the rest of a run. -/
def onto (x : Exchange Answer) (told : List (Exchange Answer) × Dialogue Answer α) :
    List (Exchange Answer) × Dialogue Answer α :=
  (x :: told.1, told.2)

/-- What is asked and answered in a run without cancellation whose calls get these replies, one
after the other, until there is none left or the run ends; and what is left of the run then. -/
def answered (nesting : Nat) :
    Dialogue Answer α → List Rpc.Reply → List (Exchange Answer) × Dialogue Answer α
  | .ask .cancelled next, replies =>
      onto ⟨.cancelled, false⟩ (answered nesting (next false) replies)
  | .ask (.sleep seconds) next, replies =>
      onto ⟨.sleep seconds, .ok ()⟩ (answered nesting (next (.ok ())) replies)
  | .ask (.call call) next, reply :: replies =>
      onto ⟨.call call, reply.result nesting⟩
        (answered nesting (next (reply.result nesting)) replies)
  | d, _ => ([], d)

theorem askNode_blockHash (s : Service) (height : Int) :
    s.askNode (.blockHash height) = .ask (.call (.blockHash (.int height))) fun answer =>
      .done (answer.mapError fun e => Node.hashError (.rpc e)) := by
  refine congrArg (Dialogue.ask _) (funext fun answer => ?_)
  cases answer with
  | ok hash => rfl
  | error e => rfl

theorem askNode_block (s : Service) (hash : Datum) (rollup : String) :
    s.askNode (.block hash rollup) = .ask (.call (.block hash (.int 0))) fun answer =>
      .done (answer.mapError .rpc >>= Node.readBlock hash rollup) := by
  refine congrArg (Dialogue.ask _) (funext fun answer => ?_)
  cases answer with
  | ok answer => rfl
  | error e => rfl

theorem run_poll_check_bind (f : Unit → Polling α) :
    (s.poll (Polling.check >>= f)).run = .ask .cancelled fun cancelled =>
      if cancelled then .done (.error (.cancelled .beforehand)) else (s.poll (f ())).run := by
  simp only [poll, ExceptT.run_mk, Polling.run_check_bind, Dialogue.relay, answerPoll]
  refine congrArg (Dialogue.ask _) (funext fun cancelled => ?_)
  cases cancelled with
  | true => rfl
  | false => rfl

theorem run_poll_sleep_bind (seconds : Binary64) (f : Unit → Polling α) :
    (s.poll (Polling.sleep seconds >>= f)).run = .ask (.sleep seconds) fun answer =>
      match answer with
      | .ok () => (s.poll (f ())).run
      | .error cancellation => .done (.error (.cancelled cancellation)) := by
  simp only [poll, ExceptT.run_mk, Polling.run_sleep_bind, Dialogue.relay, answerPoll]
  refine congrArg (Dialogue.ask _) (funext fun answer => ?_)
  cases answer with
  | error cancellation => rfl
  | ok _ => rfl

theorem run_poll_askOrWait_bind (f : Option Datum → Polling α) :
    (s.poll (Polling.askOrWait (.blockHash height) >>= f)).run =
      .ask (.call (.blockHash (.int height))) fun answer =>
        match answer with
        | .ok hash => (s.poll (f (some hash))).run
        | .error e =>
            if (Node.hashError (.rpc e)).isHeightNotProduced then (s.poll (f none)).run
            else .done (.error (.node (Node.hashError (.rpc e)))) := by
  have hrun := Polling.run_askOrWait_bind (.blockHash height) f
  refine (congrArg (Dialogue.relay s.answerPoll) hrun).trans ?_
  rw [Dialogue.relay, answerPoll, askNode_blockHash]
  refine congrArg (Dialogue.ask _) (funext fun answer => ?_)
  cases answer with
  | ok hash => rfl
  | error e =>
      dsimp only [Dialogue.done_bind, Except.mapError]
      split
      · rfl
      · rfl

/-- What becomes of the answer to the call for a block. -/
def blockOf (s : Service) (height : Int) (hash : Datum) (answer : Except Rpc.Error Datum) :
    Except Polling.Failure Block :=
  match answer with
  | .error e => .error (.node (.rpc e))
  | .ok answer =>
      match Node.readBlock hash s.rollup answer with
      | .error e => .error (.node e)
      | .ok block => .ok { block with height? := some height }

theorem run_poll_fetch (s : Service) (hash : Datum) (height : Int) :
    (s.poll (s.tracker.fetch hash height)).run =
      .ask (.call (.block hash (.int 0))) fun answer => .done (s.blockOf height hash answer) := by
  simp only [poll, ExceptT.run_mk, Polling.run_fetch, Dialogue.relay, answerPoll, askNode_block,
    Dialogue.ask_bind, Dialogue.done_bind]
  refine congrArg (Dialogue.ask _) (funext fun answer => ?_)
  cases answer with
  | error e => rfl
  | ok answer =>
      dsimp only [Except.mapError, bind, Except.bind]
      cases hread : Node.readBlock hash s.rollup answer with
      | error e => simp [blockOf, tracker, hread, Dialogue.relay]
      | ok block => simp [blockOf, tracker, hread, Dialogue.relay]

/-- The hash of a block is asked for. -/
def hashAsked (nesting : Nat) (height : Int) (reply : Rpc.Reply) : List (Exchange Answer) :=
  [⟨.cancelled, false⟩, ⟨.call (.blockHash (.int height)), reply.result nesting⟩]

/-- A round of the wait whose reply is waited out by a sleep. -/
def waitedOut (s : Service) (nesting : Nat) (height : Int) (reply : Rpc.Reply) :
    List (Exchange Answer) :=
  hashAsked nesting height reply ++ [⟨.cancelled, false⟩, ⟨.sleep s.interval, .ok ()⟩]

theorem hasCode_ofDatum {error : Datum} :
    (Rpc.Refusal.ofDatum error).hasCode Rpc.Refusal.invalidParameter = true ↔
      ∃ entries code, error = .map entries ∧ Datum.lookup? entries "code" = some code ∧
        code.same (.int (-8)) = true := by
  cases error with
  | map entries =>
      cases hcode : Datum.lookup? entries "code" with
      | none =>
          simp [Rpc.Refusal.ofDatum, Rpc.Refusal.hasCode, Rpc.Refusal.invalidParameter, hcode,
            Datum.same]
      | some code =>
          simp [Rpc.Refusal.ofDatum, Rpc.Refusal.hasCode, Rpc.Refusal.invalidParameter, hcode]
  | _ => simp [Rpc.Refusal.ofDatum, Rpc.Refusal.hasCode, Rpc.Refusal.invalidParameter, Datum.same]

theorem hashError_of_result {e : Rpc.Error} (hresult : reply.result nesting = .error e)
    (hreply : ¬ reply.SaysNotProduced nesting) :
    Node.hashError (.rpc e) = .rpc e ∧ (NodeError.rpc e).isHeightNotProduced = false := by
  rcases reply.result_cases nesting with
    ⟨error, herror, h⟩ | ⟨_, -, -, -, h⟩ | ⟨_, -, -, -, h⟩ | ⟨_, -, -, -, h⟩
  · rw [hresult, Except.error.injEq] at h
    subst h
    have hcode : ¬ (Rpc.Refusal.ofDatum error).hasCode Rpc.Refusal.invalidParameter = true := by
      rw [hasCode_ofDatum]
      rintro ⟨entries, code, rfl, hlookup, hsame⟩
      exact hreply ⟨entries, code, herror, hlookup, hsame⟩
    exact ⟨if_neg hcode, rfl⟩
  · simp [hresult] at h
  · rw [hresult, Except.error.injEq] at h
    subst h
    exact ⟨rfl, rfl⟩
  · rw [hresult, Except.error.injEq] at h
    subst h
    exact ⟨rfl, rfl⟩

theorem result_of_saysNotProduced (h : reply.SaysNotProduced nesting) :
    ∃ refusal, reply.result nesting = .error (.refused refusal) ∧
      Node.hashError (.rpc (.refused refusal)) = .rpc (.heightNotProduced refusal) := by
  obtain ⟨entries, code, herror, hlookup, hsame⟩ := h
  refine ⟨_, Rpc.Reply.result_of_error herror, ?_⟩
  have hcode := hasCode_ofDatum.mpr ⟨entries, code, rfl, hlookup, hsame⟩
  simp [Node.hashError, hcode]

theorem run_blockAt_succ (s : Service) (patience : Nat) (height : Int) :
    (s.blockAt (patience + 1) height).run = .ask .cancelled fun cancelled =>
      if cancelled then .done (.error (.cancelled .beforehand))
      else .ask (.call (.blockHash (.int height))) fun answer =>
        match answer with
        | .ok hash => (s.poll (s.tracker.fetch hash height)).run
        | .error e =>
            if (Node.hashError (.rpc e)).isHeightNotProduced then
              (s.poll (Polling.check >>= fun _ => Polling.sleep s.interval >>= fun _ =>
                s.tracker.blockAt patience height)).run
            else .done (.error (.node (Node.hashError (.rpc e)))) := by
  rw [blockAt, BlockTracker.blockAt_succ, run_poll_check_bind]
  refine congrArg (Dialogue.ask _) (funext fun cancelled => ?_)
  cases cancelled with
  | true => rfl
  | false => exact run_poll_askOrWait_bind _

theorem answered_blockAt_nil (s : Service) (nesting patience : Nat) (height : Int) :
    let told := answered nesting (s.blockAt (patience + 1) height).run []
    told.1 = [⟨.cancelled, false⟩] ∧
      told.2.standing = .inl (.call (.blockHash (.int height))) := by
  rw [run_blockAt_succ]
  exact ⟨rfl, rfl⟩

theorem answered_blockAt_of_saysNotProduced (hreply : reply.SaysNotProduced nesting) :
    answered nesting (s.blockAt (patience + 1) height).run (reply :: later) =
      let told := answered nesting (s.blockAt patience height).run later
      (s.waitedOut nesting height reply ++ told.1, told.2) := by
  obtain ⟨refusal, hresult, herror⟩ := result_of_saysNotProduced hreply
  rw [run_blockAt_succ]
  simp [answered, onto, waitedOut, hashAsked, hresult, herror, NodeError.isHeightNotProduced,
    run_poll_check_bind, run_poll_sleep_bind, blockAt]

theorem answered_blockAt_of_ok {hash : Datum} (hresult : reply.result nesting = .ok hash) :
    answered nesting (s.blockAt (patience + 1) height).run (reply :: later) =
      let told := answered nesting (s.poll (s.tracker.fetch hash height)).run later
      (hashAsked nesting height reply ++ told.1, told.2) := by
  simp [run_blockAt_succ, answered, hashAsked, onto, hresult]

theorem answered_blockAt_of_error {e : Rpc.Error} (hresult : reply.result nesting = .error e)
    (hreply : ¬ reply.SaysNotProduced nesting) :
    answered nesting (s.blockAt (patience + 1) height).run (reply :: later) =
      (hashAsked nesting height reply, .done (.error (.node (.rpc e)))) := by
  obtain ⟨herror, hproduced⟩ := hashError_of_result hresult hreply
  simp [run_blockAt_succ, answered, onto, hashAsked, hresult, herror, hproduced]

/-- Replies that say that there is no block yet are waited out one by one. -/
theorem answered_blockAt_append {leading : List Rpc.Reply}
    (hleading : ∀ r ∈ leading, r.SaysNotProduced nesting) (later : List Rpc.Reply) :
    answered nesting (s.blockAt (patience + leading.length) height).run (leading ++ later) =
      let told := answered nesting (s.blockAt patience height).run later
      (leading.flatMap (s.waitedOut nesting height) ++ told.1, told.2) := by
  induction leading with
  | nil => rfl
  | cons r leading ih =>
      rw [List.forall_mem_cons] at hleading
      rw [List.length_cons, ← Nat.add_assoc, List.cons_append,
        answered_blockAt_of_saysNotProduced hleading.1, ih hleading.2]
      simp

end Service

end BlobInscription
