import BlobInscription.Proofs.Polling.Steps
import Mathlib.Data.Sum.Basic
import Mathlib.Tactic.Common

/-!
The wait for a final block as a machine: six stages, what is asked at each, and where each answer
leads. The patience of a poll only cuts its runs off, so what a run asks and how it ends are those
of the machine.
-/

namespace BlobInscription

open Dialogue (Exchange Trail)

namespace Dialogue

variable {Q : Type} {A : Q → Type} {α : Type}

/-- This was asked and answered, and there the dialogue stands then, for every patience from some
number on. -/
def Patiently (d : Nat → Dialogue A α) (history : List (Exchange A)) (standing : Q ⊕ α) : Prop :=
  ∃ least, ∀ patience, least ≤ patience →
    ∃ rest, Trail (d patience) history rest ∧ rest.standing = standing

end Dialogue

/-- The failure that a call ends with. -/
def Polling.failure? : Exchange Polling.Answer → Option Polling.Failure
  | ⟨.sleep _, .error cancellation⟩ => some (.cancelled cancellation)
  | ⟨.node _, .error e⟩ => some (.node e)
  | _ => none

namespace BlockTracker

open Polling (Question Answer)

/-- The stages of the wait for a final block. -/
inductive Stage
  /-- Looks at the token before it asks for the tip. -/
  | checking
  | counting
  /-- Looks at the token before it sleeps. -/
  | hesitating
  | sleeping
  | naming
  | fetching (hash : Datum)

namespace Stage

/-- What is asked at a stage. -/
@[reducible] def question (t : BlockTracker) (height : Int) : Stage → Question
  | checking | hesitating => .cancelled
  | counting => .node .blockCount
  | sleeping => .sleep t.interval
  | naming => .node (.blockHash height)
  | fetching hash => .node (.block hash t.rollup)

/-- Where an answer leads. -/
def next (t : BlockTracker) (height : Int) :
    (s : Stage) → Answer (s.question t height) → Stage ⊕ Except Polling.Failure Block
  | checking, cancelled =>
      if cancelled then .inr (.error (.cancelled .beforehand)) else .inl counting
  | counting, .ok tip => .inl (if height + t.depth ≤ tip then naming else hesitating)
  | counting, .error e => .inr (.error (.node e))
  | hesitating, cancelled =>
      if cancelled then .inr (.error (.cancelled .beforehand)) else .inl sleeping
  | sleeping, .ok () => .inl checking
  | sleeping, .error c => .inr (.error (.cancelled c))
  | naming, .ok hash => .inl (fetching hash)
  | naming, .error e => .inr (.error (.node e))
  | fetching _, .ok block => .inr (.ok { block with height? := some height })
  | fetching _, .error e => .inr (.error (.node e))

end Stage

/-- Where the wait for a final block stands: at a stage, or at its end. -/
abbrev Place := Stage ⊕ Except Polling.Failure Block

variable {t : BlockTracker} {height : Int} {place place' : Place} {s : Stage}
  {history later : List (Exchange Answer)} {x : Exchange Answer}

/-- All that can happen at a stage: what is asked and answered, and where it leads. -/
inductive Moves (t : BlockTracker) (height : Int) : Stage → Exchange Answer → Place → Prop
  | check : Moves t height .checking ⟨.cancelled, false⟩ (.inl .counting)
  | stop : Moves t height .checking ⟨.cancelled, true⟩ (.inr (.error (.cancelled .beforehand)))
  | deep {tip : Int} (h : height + t.depth ≤ tip) :
      Moves t height .counting ⟨.node .blockCount, .ok tip⟩ (.inl .naming)
  | short {tip : Int} (h : tip < height + t.depth) :
      Moves t height .counting ⟨.node .blockCount, .ok tip⟩ (.inl .hesitating)
  | hesitate : Moves t height .hesitating ⟨.cancelled, false⟩ (.inl .sleeping)
  | giveUp : Moves t height .hesitating ⟨.cancelled, true⟩ (.inr (.error (.cancelled .beforehand)))
  | sleep : Moves t height .sleeping ⟨.sleep t.interval, .ok ()⟩ (.inl .checking)
  | name {hash : Datum} :
      Moves t height .naming ⟨.node (.blockHash height), .ok hash⟩ (.inl (.fetching hash))
  | fetch {hash : Datum} {block : Block} :
      Moves t height (.fetching hash) ⟨.node (.block hash t.rollup), .ok block⟩
        (.inr (.ok { block with height? := some height }))
  | fail {s : Stage} {x : Exchange Answer} {failure : Polling.Failure}
      (hquestion : x.question = s.question t height) (h : Polling.failure? x = some failure) :
      Moves t height s x (.inr (.error failure))

theorem Stage.moves_next (s : Stage) (answer : Answer (s.question t height)) :
    Moves t height s ⟨s.question t height, answer⟩ (s.next t height answer) := by
  cases s with
  | checking =>
      cases answer with
      | true => exact .stop
      | false => exact .check
  | counting =>
      cases answer with
      | error e => exact .fail rfl rfl
      | ok tip =>
          simp only [Stage.next]
          split
          · rename_i hdeep
            exact .deep hdeep
          · rename_i hshort
            exact .short (Int.not_le.mp hshort)
  | hesitating =>
      cases answer with
      | true => exact .giveUp
      | false => exact .hesitate
  | sleeping =>
      cases answer with
      | error cancellation => exact .fail rfl rfl
      | ok _ => exact .sleep
  | naming =>
      cases answer with
      | error e => exact .fail rfl rfl
      | ok hash => exact .name
  | fetching hash =>
      cases answer with
      | error e => exact .fail rfl rfl
      | ok block => exact .fetch

theorem Moves.question_eq (h : Moves t height s x place) : x.question = s.question t height := by
  cases h with
  | fail hquestion => exact hquestion
  | _ => rfl

/-- The exchanges that lead from one place to another. -/
inductive Leads (t : BlockTracker) (height : Int) :
    Place → List (Exchange Answer) → Place → Prop
  | nil (place : Place) : Leads t height place [] place
  | cons {s : Stage} {answer : Answer (s.question t height)} {history : List (Exchange Answer)}
      {place : Place} (h : Leads t height (s.next t height answer) history place) :
      Leads t height (.inl s) (⟨s.question t height, answer⟩ :: history) place

theorem leads_nil : Leads t height place [] place' ↔ place' = place := by
  constructor
  · intro h
    cases h
    rfl
  · rintro rfl
    exact .nil _

theorem leads_end {r : Except Polling.Failure Block} :
    Leads t height (.inr r) history place ↔ history = [] ∧ place = .inr r := by
  constructor
  · intro h
    cases h
    exact ⟨rfl, rfl⟩
  · rintro ⟨rfl, rfl⟩
    exact .nil _

theorem leads_cons : Leads t height (.inl s) (x :: history) place ↔
    ∃ answer, x = ⟨s.question t height, answer⟩ ∧
      Leads t height (s.next t height answer) history place := by
  constructor
  · intro h
    cases h with
    | cons h => exact ⟨_, rfl, h⟩
  · rintro ⟨answer, rfl, h⟩
    exact .cons h

theorem leads_append : Leads t height place (history ++ later) place' ↔
    ∃ middle, Leads t height place history middle ∧ Leads t height middle later place' := by
  induction history generalizing place with
  | nil => simp [leads_nil]
  | cons x history ih =>
      cases place with
      | inr r => simp [leads_end]
      | inl s =>
          simp only [List.cons_append, leads_cons, ih]
          constructor
          · rintro ⟨answer, hx, middle, hhistory, hlater⟩
            exact ⟨middle, ⟨answer, hx, hhistory⟩, hlater⟩
          · rintro ⟨middle, ⟨answer, hx, hhistory⟩, hlater⟩
            exact ⟨answer, hx, middle, hhistory, hlater⟩

theorem Leads.head (h : Leads t height (.inl s) (x :: later) place') :
    ∃ middle, Moves t height s x middle ∧ Leads t height middle later place' := by
  obtain ⟨answer, rfl, hlater⟩ := leads_cons.mp h
  exact ⟨_, s.moves_next answer, hlater⟩

theorem Leads.split (h : Leads t height place (history ++ x :: later) place') :
    ∃ s middle, Leads t height place history (.inl s) ∧ Moves t height s x middle ∧
      Leads t height middle later place' := by
  obtain ⟨start, hhistory, hrest⟩ := leads_append.mp h
  cases start with
  | inr r => simp [leads_end] at hrest
  | inl s =>
      obtain ⟨middle, hmove, hlater⟩ := hrest.head
      exact ⟨s, middle, hhistory, hmove, hlater⟩

theorem Leads.last (h : Leads t height place (history ++ [x]) place') :
    ∃ s, Leads t height place history (.inl s) ∧ Moves t height s x place' := by
  obtain ⟨s, middle, hhistory, hmove, hlast⟩ := h.split
  rw [leads_nil] at hlast
  subst hlast
  exact ⟨s, hhistory, hmove⟩

theorem Leads.exists_last (h : Leads t height place history place') (hplace : place' ≠ place) :
    ∃ earlier x s, history = earlier ++ [x] ∧ Leads t height place earlier (.inl s) ∧
      Moves t height s x place' := by
  rcases List.eq_nil_or_concat history with rfl | ⟨earlier, x, rfl⟩
  · exact absurd (leads_nil.mp h) hplace
  · rw [List.concat_eq_append] at h ⊢
    obtain ⟨s, hearlier, hmove⟩ := h.last
    exact ⟨earlier, x, s, rfl, hearlier, hmove⟩

theorem Leads.snoc (h : Leads t height place history (.inl s))
    (answer : Answer (s.question t height)) :
    Leads t height place (history ++ [⟨s.question t height, answer⟩]) (s.next t height answer) :=
  leads_append.mpr ⟨.inl s, h, .cons (.nil _)⟩

/-- What is asked at a place, or the result there. -/
def Place.standing (t : BlockTracker) (height : Int) (place : Place) :
    Question ⊕ Except Polling.Failure Block :=
  place.map (Stage.question t height) id

section Patience

/-- What follows once the block is final. -/
def finish (t : BlockTracker) (height : Int) : Polling Block := do
  let hash ← Polling.ask (.blockHash height)
  t.fetch hash height

/-- What is left to do at a stage, with the patience that remains for later rounds. -/
def Stage.rest (t : BlockTracker) (height : Int) (patience : Nat) : Stage → Polling Block
  | checking => t.finalizedAt (patience + 1) height
  | counting => do
      let tip ← Polling.ask .blockCount
      if height + t.depth ≤ tip then t.finish height
      else
        Polling.pause t.interval
        t.finalizedAt patience height
  | hesitating => do
      Polling.pause t.interval
      t.finalizedAt patience height
  | sleeping => do
      Polling.sleep t.interval
      t.finalizedAt patience height
  | naming => t.finish height
  | fetching hash => t.fetch hash height

/-- What is left to do at a place. -/
def Place.rest (t : BlockTracker) (height : Int) (patience : Nat) :
    Place → Dialogue Answer (Except Polling.Failure Block)
  | .inr r => .done r
  | .inl s => (s.rest t height patience).run

/-- The patience that remains after an answer at a stage: a sleep ends a round. -/
def Stage.spend (patience : Nat) : Stage → Nat
  | sleeping => patience - 1
  | _ => patience

theorem finalizedAt_succ (t : BlockTracker) (height : Int) (patience : Nat) :
    t.finalizedAt (patience + 1) height =
      Polling.check >>= fun _ => Stage.counting.rest t height patience := by
  simp only [finalizedAt, awaitDepth, bind_assoc, Stage.rest, finish]
  congr! 5
  split
  · simp
  · simp

theorem Stage.run_rest (t : BlockTracker) (height : Int) (patience : Nat) (s : Stage) :
    (s.rest t height (patience + 1)).run = .ask (s.question t height) fun answer =>
      Place.rest t height (s.spend (patience + 1)) (s.next t height answer) := by
  cases s with
  | checking =>
      rw [Stage.rest, finalizedAt_succ, Polling.run_check_bind]
      refine congrArg (Dialogue.ask _) (funext fun cancelled => ?_)
      cases cancelled with
      | true => rfl
      | false => rfl
  | counting =>
      rw [Stage.rest, Polling.run_ask_bind]
      refine congrArg (Dialogue.ask _) (funext fun answer => ?_)
      cases answer with
      | error e => rfl
      | ok tip =>
          dsimp only [Stage.next]
          split
          · rfl
          · rfl
  | hesitating =>
      rw [Stage.rest, Polling.pause_eq, bind_assoc, Polling.run_check_bind]
      refine congrArg (Dialogue.ask _) (funext fun cancelled => ?_)
      cases cancelled with
      | true => rfl
      | false => rfl
  | sleeping =>
      rw [Stage.rest, Polling.run_sleep_bind]
      refine congrArg (Dialogue.ask _) (funext fun answer => ?_)
      cases answer with
      | error cancellation => rfl
      | ok _ => rfl
  | naming =>
      rw [Stage.rest, finish, Polling.run_ask_bind]
      refine congrArg (Dialogue.ask _) (funext fun answer => ?_)
      cases answer with
      | error e => rfl
      | ok hash => rfl
  | fetching hash =>
      rw [Stage.rest, Polling.run_fetch]
      refine congrArg (Dialogue.ask _) (funext fun answer => ?_)
      cases answer with
      | error e => rfl
      | ok block => rfl

theorem Place.standing_rest (t : BlockTracker) (height : Int) (patience : Nat) (place : Place) :
    (place.rest t height (patience + 1)).standing = place.standing t height := by
  cases place with
  | inr r => rfl
  | inl s =>
      rw [Place.rest, Stage.run_rest]
      rfl

theorem Stage.le_spend (s : Stage) (patience : Nat) : patience ≤ s.spend (patience + 1) := by
  cases s with
  | sleeping => exact Nat.le_refl _
  | _ => exact Nat.le_succ _

/-- With enough patience, exchanges lead from place to place as the machine says. -/
theorem leads_of_trail {rest : Dialogue Answer (Except Polling.Failure Block)} {patience : Nat}
    (h : Trail (place.rest t height patience) history rest)
    (hpatience : history.length < patience) :
    ∃ place' left, Leads t height place history place' ∧ rest = place'.rest t height left ∧
      patience ≤ left + history.length := by
  induction history generalizing place patience with
  | nil =>
      exact ⟨place, patience, .nil _, Dialogue.trail_nil.mp h, Nat.le_refl _⟩
  | cons x history ih =>
      cases place with
      | inr r => simp [Place.rest, Dialogue.trail_done] at h
      | inl s =>
          rw [List.length_cons] at hpatience
          obtain ⟨patience, rfl⟩ := Nat.exists_eq_succ_of_ne_zero (by omega : patience ≠ 0)
          -- An exchange spends at most one unit of patience, and most spend none.
          have hspend := s.le_spend patience
          rw [Place.rest, Stage.run_rest] at h
          cases h with
          | cons h =>
              obtain ⟨place', left, hleads, hrest, hleft⟩ := ih h (by omega)
              refine ⟨place', left, .cons hleads, hrest, ?_⟩
              rw [List.length_cons]
              omega

theorem Leads.trail (h : Leads t height place history place') (patience : Nat)
    (hpatience : history.length < patience) :
    ∃ left, 0 < left ∧
      Trail (place.rest t height patience) history (place'.rest t height left) := by
  induction h generalizing patience with
  | nil place => exact ⟨patience, hpatience, .nil _⟩
  | @cons s answer history place _ ih =>
      rw [List.length_cons] at hpatience
      obtain ⟨patience, rfl⟩ := Nat.exists_eq_succ_of_ne_zero (by omega : patience ≠ 0)
      have hspend := s.le_spend patience
      obtain ⟨left, hpos, htrail⟩ := ih (s.spend (patience + 1)) (by omega)
      refine ⟨left, hpos, ?_⟩
      rw [Place.rest, Stage.run_rest]
      exact .cons htrail

end Patience

/-- A run so far of the wait for a final block: what was asked and answered, and where it stands.
Patience plays no part. -/
def Finalizing (t : BlockTracker) (height : Int) (history : List (Exchange Answer))
    (standing : Question ⊕ Except Polling.Failure Block) : Prop :=
  Dialogue.Patiently (fun patience => (t.finalizedAt patience height).run) history standing

/-- Runs are those of the machine. -/
theorem finalizing_iff {standing : Question ⊕ Except Polling.Failure Block} :
    t.Finalizing height history standing ↔
      ∃ place, Leads t height (.inl .checking) history place ∧
        standing = place.standing t height := by
  constructor
  · rintro ⟨least, hrun⟩
    obtain ⟨rest, htrail, hstanding⟩ := hrun (least + history.length + 2) (by omega)
    have hplace : Trail (Place.rest t height (least + history.length + 1) (.inl .checking))
        history rest := htrail
    obtain ⟨place, left, hleads, rfl, hleft⟩ := leads_of_trail hplace (by omega)
    obtain ⟨left, rfl⟩ := Nat.exists_eq_succ_of_ne_zero (by omega : left ≠ 0)
    rw [Place.standing_rest] at hstanding
    exact ⟨place, hleads, hstanding.symm⟩
  · rintro ⟨place, hleads, rfl⟩
    refine ⟨history.length + 2, ?_⟩
    intro patience hpatience
    obtain ⟨patience, rfl⟩ := Nat.exists_eq_succ_of_ne_zero (by omega : patience ≠ 0)
    obtain ⟨left, hpos, htrail⟩ := hleads.trail patience (by omega)
    obtain ⟨left, rfl⟩ := Nat.exists_eq_succ_of_ne_zero (by omega : left ≠ 0)
    exact ⟨_, htrail, Place.standing_rest t height left place⟩

end BlockTracker

end BlobInscription
