import BlobInscription.Proofs.Submission.Agenda
import Mathlib.Logic.Function.Basic
import Mathlib.Logic.Relation

/-!
Submissions side by side. Any number of them share a store of checkpoints, and in each step one call
of one of them is answered, in any way. The store only grows, so a reveal that was saved can be
found from then on, whatever the others do.
-/

namespace BlobInscription

open Dialogue (Exchange Trail)
open Relation (ReflTransGen)
open Submission

namespace Submission

/-- A submission under way. -/
structure Run where
  history : List (Exchange Answer)
  rest : Dialogue Answer (Except SubmissionFailure Receipt)

/-- The submissions under way, and the store that they share. -/
structure World (ι : Type) where
  store : CheckpointStore
  runs : ι → Run

namespace World

variable {ι : Type}

/-- No submission has asked anything yet. -/
def start (store : CheckpointStore) (tasks : ι → Submitter × Bytes) : World ι where
  store
  runs i := ⟨[], ((tasks i).1.submit (tasks i).2).run⟩

/-- What holds at all times: each submission has come to where its history leads, and what it saved
can be found. -/
structure Sound (tasks : ι → Submitter × Bytes) (w : World ι) : Prop where
  trail : ∀ i, Trail ((tasks i).1.submit (tasks i).2).run (w.runs i).history (w.runs i).rest
  saved : ∀ i id raw, ⟨.saveReveal id raw, .ok ()⟩ ∈ (w.runs i).history →
    w.store.load id = .ok (some raw)

variable {store : CheckpointStore} {tasks : ι → Submitter × Bytes} {w w' : World ι}

theorem sound_start : (start store tasks).Sound tasks where
  trail i := .nil _
  saved i id raw h := by cases h

variable [DecidableEq ι]

/-- One call of one submission is answered. -/
inductive Step : World ι → World ι → Prop
  | answer {w : World ι} {i : ι} {history : List (Exchange Answer)} {question : Question}
      {next : Answer question → Dialogue Answer (Except SubmissionFailure Receipt)}
      {store : CheckpointStore} (answer : Answer question)
      (hrun : w.runs i = ⟨history, .ask question next⟩)
      (hstore : StoreStep ⟨question, answer⟩ w.store store) :
      Step w ⟨store, Function.update w.runs i ⟨history ++ [⟨question, answer⟩], next answer⟩⟩

theorem Step.extends (h : Step w w') : w.store.Extends w'.store := by
  cases h with
  | answer _ _ hstore => exact hstore.extends

theorem Step.sound (h : Step w w') (hw : w.Sound tasks) : w'.Sound tasks := by
  have hextends := h.extends
  cases h with
  | @answer i history question next store answer hrun hstore =>
      have htrail := hw.trail i
      rw [hrun] at htrail
      constructor
      · intro j
        by_cases hj : j = i
        · subst hj
          simp only [Function.update_self]
          exact htrail.snoc answer
        · simp only [Function.update_of_ne hj]
          exact hw.trail j
      · intro j id raw hsave
        by_cases hj : j = i
        · subst hj
          simp only [Function.update_self, List.mem_append, List.mem_singleton] at hsave
          rcases hsave with hbefore | hnow
          · refine hextends id raw (hw.saved j id raw ?_)
            rw [hrun]
            exact hbefore
          · cases hnow
            exact hstore.load_of_saved
        · simp only [Function.update_of_ne hj] at hsave
          exact hextends id raw (hw.saved j id raw hsave)

theorem extends_of_reaches (h : ReflTransGen Step w w') : w.store.Extends w'.store := by
  induction h with
  | refl => exact .refl _
  | tail _ hstep ih => exact ih.trans hstep.extends

theorem sound_of_reaches (h : ReflTransGen Step (start store tasks) w) : w.Sound tasks := by
  induction h with
  | refl => exact sound_start
  | tail _ hstep ih => exact hstep.sound ih

/-- A submission can go on while the others wait. -/
theorem reaches_of_trail {i : ι} {history later : List (Exchange Answer)}
    {d rest : Dialogue Answer (Except SubmissionFailure Receipt)} (hrun : w.runs i = ⟨history, d⟩)
    (htrail : Trail d later rest) (hstore : StoreRun later w.store store) :
    ReflTransGen Step w ⟨store, Function.update w.runs i ⟨history ++ later, rest⟩⟩ := by
  induction htrail generalizing w history with
  | nil d =>
      cases hstore
      rw [List.append_nil, ← hrun, Function.update_eq_self]
  | @cons question next answer later rest _ ih =>
      cases hstore with
      | cons hstep hlater =>
          refine .head (.answer answer hrun hstep) ?_
          have hreaches := ih (w := ⟨_, Function.update w.runs i
            ⟨history ++ [⟨question, answer⟩], next answer⟩⟩) (Function.update_self ..) hlater
          rwa [Function.update_idem, List.append_assoc, List.singleton_append] at hreaches

/-- Whenever a submission broadcasts a transaction, it is the commit that its wallet has signed, and
nothing was broadcast before; or the commit has been broadcast, the transaction is the reveal, and
the store gives its bytes for the commit's identifier, then and at all later times. -/
theorem load_of_broadcast (store : CheckpointStore) (tasks : ι → Submitter × Bytes)
    {w : World ι} (hw : ReflTransGen Step (start store tasks) w) {i : ι}
    {history : List (Exchange Answer)} {data : Datum}
    {next : Answer (.node (.broadcast data)) → Dialogue Answer (Except SubmissionFailure Receipt)}
    (hrun : w.runs i = ⟨history, .ask (.node (.broadcast data)) next⟩) :
    ∃ (order : BuildOrder) (pair : TransactionPair) (unsigned : String) (signed : Datum),
      ⟨.build order, .ok pair⟩ ∈ history ∧ pair.commit.toHex = .ok unsigned ∧
      ⟨.node (.sign unsigned), .ok signed⟩ ∈ history ∧
      ((data = signed ∧ ∀ x ∈ history, x.question.broadcasts = false) ∨
        ∃ (commitId : String) (raw : Bytes) (reply : Datum),
          pair.commit.txidText = .ok commitId ∧ pair.reveal.serialize = .ok raw ∧
          data = .text (Bytes.hex raw) ∧ ⟨.node (.broadcast signed), .ok reply⟩ ∈ history ∧
          ∀ w', ReflTransGen Step w w' → w'.store.load commitId = .ok (some raw)) := by
  have hsound := sound_of_reaches hw
  have htrail := hsound.trail i
  have hsaved := hsound.saved i
  simp only [hrun] at htrail hsaved
  obtain ⟨order, pair, unsigned, signed, hpair, hunsigned, hsigned, hcase⟩ :=
    Submitter.broadcast_of_trail htrail
  refine ⟨order, pair, unsigned, signed, hpair, hunsigned, hsigned, ?_⟩
  rcases hcase with hcommit | ⟨commitId, raw, reply, hcommitId, hraw, hdata, hsent, hsave⟩
  · exact .inl hcommit
  · refine .inr ⟨commitId, raw, reply, hcommitId, hraw, hdata, hsent, ?_⟩
    intro w' hw'
    exact extends_of_reaches hw' commitId raw (hsaved commitId raw hsave)

end World

end Submission

namespace Specimen

/-- Another reveal for the same commit. -/
def rival : Contributions :=
  { contributions with
    pair := ⟨contributions.pair.commit, { version := 3, inputs := [], outputs := [] }⟩
    raw := [3, 0, 0, 0, 0, 0, 0, 0, 0, 0] }

theorem follows_rival :
    Follows (submitter.submit [1]).run (submitter.agenda [1] rival)
      (.ok ⟨rival.commitId, rival.revealReply⟩) := by
  have hraw : rival.pair.reveal.serialize = .ok rival.raw := by decide
  exact Submitter.follows_submit_iff.mpr
    ⟨rival, .receipt txidText_contributions toHex_contributions hraw⟩

end Specimen

namespace Submission.World

/-- Two submissions with the same commit and different reveals: one has saved its reveal and is
about to broadcast it, and then the other is refused. -/
theorem load_of_broadcast_rival :
    let c := Specimen.contributions
    let w₀ : World Bool := start (.table {}) fun _ => (Specimen.submitter, [1])
    ∃ (w w' : World Bool) (history : List (Exchange Answer))
      (next : Answer (.node (.broadcast (.text (Bytes.hex c.raw)))) →
        Dialogue Answer (Except SubmissionFailure Receipt)),
      ReflTransGen Step w₀ w ∧
      w.runs false = ⟨history, .ask (.node (.broadcast (.text (Bytes.hex c.raw)))) next⟩ ∧
      ReflTransGen Step w w' ∧
      (w'.runs true).rest = .done (.error (.atStep .checkpointReveal
        (.checkpoint (.conflict c.commitId)) (some c.commitId))) ∧
      w'.store.load c.commitId = .ok (some c.raw) := by
  intro c w₀
  let calls := Specimen.submitter.agenda [1] c
  let rivals := Specimen.submitter.agenda [1] Specimen.rival
  let mine := (calls.take 11).map Call.exchange
  let theirs := (rivals.take 10).map Call.exchange ++
    [⟨.saveReveal c.commitId Specimen.rival.raw, .error (.checkpoint (.conflict c.commitId))⟩]
  let saved : CheckpointStore := .table ⟨[⟨Text.lower c.commitId, c.raw, 0⟩]⟩
  have hfollows : Follows (Specimen.submitter.submit [1]).run (calls.take 11 ++ calls.drop 11)
      (.ok ⟨c.commitId, c.revealReply⟩) := Specimen.follows_contributions
  have hrivals : Follows (Specimen.submitter.submit [1]).run
      (rivals.take 10 ++ rivals[10] :: rivals.drop 11)
      (.ok ⟨Specimen.rival.commitId, Specimen.rival.revealReply⟩) := Specimen.follows_rival
  have hstore : StoreRun mine w₀.store saved := by
    have hsave : w₀.store.save 0 c.commitId c.raw = .ok saved := rfl
    exact (Specimen.submitter.storeRun_take_agenda [1] c w₀.store).append
      (.cons (.saved hsave) (.nil _))
  have hrefused : StoreRun theirs saved saved :=
    (Specimen.submitter.storeRun_take_agenda [1] Specimen.rival saved).append
      (.cons .failed (.nil _))
  have hended : Trail (Specimen.submitter.submit [1]).run theirs
      (.done (.error (.atStep .checkpointReveal (.checkpoint (.conflict c.commitId))
        (some c.commitId)))) := hrivals.trail_failing _
  obtain ⟨rest, htrail, hrest⟩ := hfollows.trail
  cases hrest with
  | @ask _ _ _ next _ _ _ _ _ =>
      let w : World Bool := ⟨saved, Function.update w₀.runs false ⟨mine, .ask _ next⟩⟩
      have hw : ReflTransGen Step w₀ w := reaches_of_trail rfl htrail hstore
      have hrun : w.runs false = ⟨mine, .ask _ next⟩ := by simp only [w, Function.update_self]
      have hw' := reaches_of_trail (w := w) (i := true) rfl hended hrefused
      refine ⟨w, _, mine, next, hw, hrun, hw', ?_, ?_⟩
      · simp only [Function.update_self]
      · obtain ⟨order, pair, _, _, hpair, -, -, hcase⟩ :=
          load_of_broadcast (.table {}) (fun _ => (Specimen.submitter, [1])) hw hrun
        rcases hcase with ⟨-, hquiet⟩ | ⟨commitId, raw, _, hcommitId, hraw, -, -, hload⟩
        · have hcommit : calls[9] ∈ calls.take 11 :=
            Submitter.mem_made (k := 9) (List.take_prefix 11 calls) (by decide) rfl
          have hsent := hquiet _ (List.mem_map_of_mem hcommit)
          cases hsent
        · have hbuilt : pair = c.pair := by
            simp [mine, calls, Submitter.agenda, Call.exchange] at hpair
            exact hpair.2
          subst hbuilt
          have hid : commitId = c.commitId :=
            Except.ok.inj (hcommitId.symm.trans Specimen.txidText_contributions)
          have hbytes : raw = c.raw :=
            Except.ok.inj (hraw.symm.trans Specimen.serialize_contributions)
          rw [hid, hbytes] at hload
          exact hload _ hw'

end Submission.World

end BlobInscription
