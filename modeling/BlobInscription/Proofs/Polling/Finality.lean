import BlobInscription.Proofs.Polling.Stage
import Mathlib.Data.List.Induction

namespace BlobInscription

open Dialogue (Exchange)

namespace Polling

variable {β : Type}

/-- A call to the node or to the clock, and not a look at the token. -/
def Question.isCall : Question → Bool
  | .cancelled => false
  | _ => true

/-- The tip that an exchange tells. -/
def tip? : Exchange Answer → Option Int
  | ⟨.node .blockCount, .ok tip⟩ => some tip
  | _ => none

/-- The questions of a part of a run: the answered ones, and the one under way. -/
def asked (history : List (Exchange Answer)) (standing : Question ⊕ β) : List Question :=
  history.map Exchange.question ++ standing.elim (fun question => [question]) fun _ => []

/-- The calls begun in a part of a run. -/
def begun (history : List (Exchange Answer)) (standing : Question ⊕ β) : List Question :=
  (asked history standing).filter Question.isCall

@[simp] theorem asked_cons (x : Exchange Answer) (history : List (Exchange Answer))
    (standing : Question ⊕ β) :
    asked (x :: history) standing = x.question :: asked history standing :=
  rfl

theorem begun_cons (x : Exchange Answer) (history : List (Exchange Answer))
    (standing : Question ⊕ β) :
    begun (x :: history) standing =
      if x.question.isCall then x.question :: begun history standing
      else begun history standing := by
  rw [begun, asked_cons, List.filter_cons]
  rfl

theorem exists_split_of_mem_asked {history : List (Exchange Answer)} {standing : Question ⊕ β}
    {q : Question} (h : q ∈ asked history standing) :
    ∃ before later more, history = before ++ later ∧ asked later standing = q :: more := by
  induction history with
  | nil =>
      cases standing with
      | inr r => simp [asked] at h
      | inl question =>
          have hq : q = question := by simpa [asked] using h
          exact ⟨[], [], [], rfl, by rw [hq]; rfl⟩
  | cons x history ih =>
      rcases List.mem_cons.mp h with rfl | h
      · exact ⟨[], x :: history, asked history standing, rfl, rfl⟩
      · obtain ⟨before, later, more, rfl, hasked⟩ := ih h
        exact ⟨x :: before, later, more, rfl, hasked⟩

theorem isCall_of_failure? {x : Exchange Answer} {failure : Failure}
    (h : failure? x = some failure) : x.question.isCall := by
  unfold failure? at h
  split at h
  · rfl
  · rfl
  · cases h

/-- The state of the token before and after exchanges. A look at the token tells its state. It may
be cancelled before the first exchange or while a call lasts, and then stays cancelled. -/
inductive Observed : (before : Bool) → List (Exchange Answer) → (after : Bool) → Prop
  | nil (state : Bool) : Observed state [] state
  | look {state after : Bool} {history : List (Exchange Answer)}
      (h : Observed state history after) :
      Observed state (⟨.cancelled, state⟩ :: history) after
  | call {state later after : Bool} {question : Question} {answer : Answer question}
      {history : List (Exchange Answer)} (hcall : question.isCall)
      (hstays : state = true → later = true) (h : Observed later history after) :
      Observed state (⟨question, answer⟩ :: history) after

section Observed

variable {state after : Bool} {history later : List (Exchange Answer)}

theorem Observed.stays (h : Observed state history after) (hstate : state = true) :
    after = true := by
  induction h with
  | nil => exact hstate
  | look _ ih => exact ih hstate
  | call _ hstays _ ih => exact ih (hstays hstate)

theorem observed_append : Observed state (history ++ later) after ↔
    ∃ middle, Observed state history middle ∧ Observed middle later after := by
  constructor
  · intro h
    induction history generalizing state with
    | nil => exact ⟨state, .nil state, h⟩
    | cons x history ih =>
        cases h with
        | look h =>
            obtain ⟨middle, hhistory, hlater⟩ := ih h
            exact ⟨middle, .look hhistory, hlater⟩
        | call hcall hstays h =>
            obtain ⟨middle, hhistory, hlater⟩ := ih h
            exact ⟨middle, .call hcall hstays hhistory, hlater⟩
  · rintro ⟨middle, hhistory, hlater⟩
    induction hhistory with
    | nil => exact hlater
    | look _ ih => exact .look (ih hlater)
    | call hcall hstays _ ih => exact .call hcall hstays (ih hlater)

theorem Observed.eq_of_look {seen : Bool} (h : Observed state (⟨.cancelled, seen⟩ :: later) after) :
    state = seen ∧ Observed state later after := by
  cases h with
  | look h => exact ⟨rfl, h⟩
  | call hcall => simp [Question.isCall] at hcall

end Observed

end Polling

namespace BlockTracker

open Polling

variable {t : BlockTracker} {height : Int} {s s' : Stage} {place : Place}
  {history before later : List (Exchange Answer)} {x : Exchange Answer}

/-- An exchange after which the wait goes on. -/
inductive Idle (t : BlockTracker) (height : Int) : Exchange Answer → Prop
  | look : Idle t height ⟨.cancelled, false⟩
  | count {tip : Int} (h : tip < height + t.depth) : Idle t height ⟨.node .blockCount, .ok tip⟩
  | sleep : Idle t height ⟨.sleep t.interval, .ok ()⟩

/-- The stages at which the block is not known to be final. -/
def Stage.waits : Stage → Bool
  | checking | counting | hesitating | sleeping => true
  | naming | fetching _ => false

theorem Idle.tip_lt {x : Exchange Answer} (h : Idle t height x) {tip : Int}
    (htip : tip? x = some tip) : tip < height + t.depth := by
  cases h with
  | look => simp [tip?] at htip
  | count hlt =>
      cases htip
      exact hlt
  | sleep => simp [tip?] at htip

theorem Moves.waits (h : Moves t height s x (.inl s')) (hwaits : s'.waits) :
    s.waits ∧ Idle t height x := by
  cases h with
  | check | hesitate => exact ⟨rfl, .look⟩
  | short hlt => exact ⟨rfl, .count hlt⟩
  | sleep => exact ⟨rfl, .sleep⟩
  | deep | name => cases hwaits

/-- While the block is not known to be final, nothing but idle exchanges has happened. -/
theorem idle_of_waits (h : Leads t height (.inl .checking) history (.inl s)) (hwaits : s.waits) :
    ∀ x ∈ history, Idle t height x := by
  -- From the end backwards: a stage that waits is reached only from stages that wait.
  induction history using List.reverseRecOn generalizing s with
  | nil => simp
  | append_singleton history x ih =>
      obtain ⟨s', hhistory, hmove⟩ := h.last
      obtain ⟨hwaits', hidle⟩ := hmove.waits hwaits
      simp only [List.mem_append, List.mem_singleton]
      rintro y (hy | rfl)
      · exact ih hhistory hwaits' y hy
      · exact hidle

theorem exists_of_naming (h : Leads t height (.inl .checking) history (.inl .naming)) :
    ∃ earlier tip, history = earlier ++ [⟨.node .blockCount, .ok tip⟩] ∧
      height + t.depth ≤ tip ∧ ∀ x ∈ earlier, Idle t height x := by
  obtain ⟨earlier, x, s, rfl, hearlier, hmove⟩ := h.exists_last (by simp)
  cases hmove with
  | @deep tip hdeep => exact ⟨earlier, tip, rfl, hdeep, idle_of_waits hearlier rfl⟩

theorem exists_of_fetching {hash : Datum}
    (h : Leads t height (.inl .checking) history (.inl (.fetching hash))) :
    ∃ earlier, history = earlier ++ [⟨.node (.blockHash height), .ok hash⟩] ∧
      Leads t height (.inl .checking) earlier (.inl .naming) := by
  obtain ⟨earlier, x, s, rfl, hearlier, hmove⟩ := h.exists_last (by simp)
  cases hmove with
  | name => exact ⟨earlier, rfl, hearlier⟩

theorem exists_of_polls (h : Leads t height (.inl .checking) history (.inl s))
    (hs : s = .counting ∨ s = .sleeping) :
    ∃ earlier, history = earlier ++ [⟨.cancelled, false⟩] := by
  rcases hs with rfl | rfl
  · obtain ⟨earlier, x, s', rfl, -, hmove⟩ := h.exists_last (by simp)
    cases hmove with
    | check => exact ⟨earlier, rfl⟩
  · obtain ⟨earlier, x, s', rfl, -, hmove⟩ := h.exists_last (by simp)
    cases hmove with
    | hesitate => exact ⟨earlier, rfl⟩

theorem eq_false_of_polls {state after : Bool}
    (h : Leads t height (.inl .checking) history (.inl s)) (hs : s = .counting ∨ s = .sleeping)
    (htoken : Observed state history after) : after = false := by
  obtain ⟨earlier, rfl⟩ := exists_of_polls h hs
  obtain ⟨middle, -, hlook⟩ := observed_append.mp htoken
  obtain ⟨rfl, hnil⟩ := hlook.eq_of_look
  cases hnil
  rfl

theorem exists_asked_of_leads (h : Leads t height (.inl s) later place) :
    ∃ more, asked later (place.standing t height) = s.question t height :: more := by
  cases h with
  | nil => exact ⟨[], rfl⟩
  | cons => exact ⟨_, rfl⟩

theorem leads_of_asked {q : Question} {more : List Question}
    (h : Leads t height (.inl .checking) (before ++ later) place)
    (hasked : asked later (place.standing t height) = q :: more) :
    ∃ s, Leads t height (.inl .checking) before (.inl s) ∧ Leads t height (.inl s) later place ∧
      q = s.question t height := by
  obtain ⟨middle, hbefore, hlater⟩ := leads_append.mp h
  cases middle with
  | inr r =>
      obtain ⟨rfl, rfl⟩ := leads_end.mp hlater
      cases hasked
  | inl s =>
      obtain ⟨more', hmore⟩ := exists_asked_of_leads hlater
      rw [hmore, List.cons.injEq] at hasked
      exact ⟨s, hbefore, hlater, hasked.1.symm⟩

theorem eq_block_of_naming {q : Question} {more : List Question}
    (h : Leads t height (.inl .naming) later place)
    (hasked : asked later (place.standing t height) = q :: more) :
    ∀ q' ∈ more, ∃ hash, q' = .node (.block hash t.rollup) := by
  cases later with
  | nil =>
      rw [leads_nil] at h
      subst h
      cases hasked
      simp
  | cons x later =>
      obtain ⟨middle, hmove, hlater⟩ := h.head
      rw [asked_cons, List.cons.injEq] at hasked
      rw [← hasked.2]
      cases hmove with
      | fail =>
          obtain ⟨rfl, rfl⟩ := leads_end.mp hlater
          simp [asked, Place.standing]
      | @name hash =>
          cases later with
          | nil =>
              rw [leads_nil] at hlater
              subst hlater
              simp [asked, Place.standing]
          | cons y later =>
              obtain ⟨last, hmove, hend⟩ := hlater.head
              have hquestion := hmove.question_eq
              have hended : ∃ r, last = .inr r := by
                cases hmove with
                | fetch => exact ⟨_, rfl⟩
                | fail => exact ⟨_, rfl⟩
              obtain ⟨r, rfl⟩ := hended
              obtain ⟨rfl, rfl⟩ := leads_end.mp hend
              simp [asked, Place.standing, hquestion]

theorem not_blockHash_of_idle (hidle : ∀ x ∈ history, Idle t height x) (k : Int) :
    .node (.blockHash k) ∉ history.map Exchange.question := by
  simp only [List.mem_map, not_exists, not_and]
  intro x hx hquestion
  cases hidle x hx with
  | look | count | sleep => cases hquestion

theorem named_once {k : Int} {more : List Question}
    (h : Leads t height (.inl .checking) (before ++ later) place)
    (hasked : asked later (place.standing t height) = .node (.blockHash k) :: more) :
    k = height ∧ (∀ k', .node (.blockHash k') ∉ before.map Exchange.question ++ more) ∧
      ∃ earlier tip, before = earlier ++ [⟨.node .blockCount, .ok tip⟩] ∧ height + t.depth ≤ tip ∧
        ∀ tip' ∈ earlier.filterMap tip?, tip' < height + t.depth := by
  obtain ⟨s, hbefore, hlater, hquestion⟩ := leads_of_asked h hasked
  cases s with
  | naming =>
      cases hquestion
      obtain ⟨earlier, tip, rfl, hdeep, hidle⟩ := exists_of_naming hbefore
      refine ⟨rfl, ?_, earlier, tip, rfl, hdeep, ?_⟩
      · intro k'
        have hblocks := eq_block_of_naming hlater hasked
        have hearlier := not_blockHash_of_idle hidle k'
        simp only [List.map_append, List.mem_append, not_or]
        refine ⟨⟨hearlier, by simp⟩, ?_⟩
        intro hmore
        obtain ⟨hash, heq⟩ := hblocks _ hmore
        cases heq
      · simp only [List.mem_filterMap]
        rintro tip' ⟨x, hx, htip⟩
        exact (hidle x hx).tip_lt htip
  | checking | counting | hesitating | sleeping | fetching => cases hquestion

theorem begun_of_checking (h : Leads t height (.inl .checking) later place) :
    ∀ q ∈ (begun later (place.standing t height)).head?, q = .node .blockCount := by
  cases later with
  | nil =>
      rw [leads_nil] at h
      subst h
      simp [begun, asked, Place.standing, Question.isCall]
  | cons x later =>
      obtain ⟨middle, hmove, hlater⟩ := h.head
      cases hmove with
      | check =>
          obtain ⟨more, hasked⟩ := exists_asked_of_leads hlater
          rw [begun_cons, begun, hasked]
          simp [Question.isCall]
      | stop =>
          obtain ⟨rfl, rfl⟩ := leads_end.mp hlater
          simp [begun, asked, Place.standing, Question.isCall]
      | fail hquestion hfailure =>
          have hcall := isCall_of_failure? hfailure
          rw [hquestion] at hcall
          cases hcall

theorem begun_of_sleeping (h : Leads t height (.inl .sleeping) later place) :
    ∃ more, begun later (place.standing t height) = .sleep t.interval :: more ∧
      ∀ q ∈ more.head?, q = .node .blockCount := by
  cases later with
  | nil =>
      rw [leads_nil] at h
      subst h
      exact ⟨[], rfl, by simp⟩
  | cons x later =>
      obtain ⟨middle, hmove, hlater⟩ := h.head
      cases hmove with
      | sleep => exact ⟨_, rfl, begun_of_checking hlater⟩
      | fail hquestion =>
          obtain ⟨rfl, rfl⟩ := leads_end.mp hlater
          refine ⟨[], ?_, by simp⟩
          simp [begun, asked, Place.standing, hquestion, Question.isCall]

theorem begun_of_hesitating {state after : Bool} (h : Leads t height (.inl .hesitating) later place)
    (htoken : Observed state later after) :
    if state then begun later (place.standing t height) = []
    else later = [] ∧ place = .inl .hesitating ∨
      ∃ more, begun later (place.standing t height) = .sleep t.interval :: more ∧
        ∀ q ∈ more.head?, q = .node .blockCount := by
  cases later with
  | nil =>
      rw [leads_nil] at h
      subst h
      cases state with
      | true => rfl
      | false => exact .inl ⟨rfl, rfl⟩
  | cons x later =>
      obtain ⟨middle, hmove, hlater⟩ := h.head
      cases hmove with
      | hesitate =>
          obtain ⟨rfl, -⟩ := htoken.eq_of_look
          refine .inr ?_
          rw [begun_cons]
          exact begun_of_sleeping hlater
      | giveUp =>
          obtain ⟨rfl, -⟩ := htoken.eq_of_look
          obtain ⟨rfl, rfl⟩ := leads_end.mp hlater
          rfl
      | fail hquestion hfailure =>
          have hcall := isCall_of_failure? hfailure
          rw [hquestion] at hcall
          cases hcall

theorem not_polls_of_cancelled {before' after : Bool} {q : Question}
    (h : Leads t height (.inl .checking) (before ++ later) place)
    (hbefore : Observed before' before true) (hlater : Observed true later after)
    (hq : q ∈ asked later (place.standing t height)) :
    q ≠ .node .blockCount ∧ ∀ seconds, q ≠ .sleep seconds := by
  obtain ⟨first, rest, more, rfl, hasked⟩ := exists_split_of_mem_asked hq
  rw [← List.append_assoc] at h
  obtain ⟨s, hfirst, -, rfl⟩ := leads_of_asked h hasked
  obtain ⟨state, htoken, -⟩ := observed_append.mp hlater
  have hstate : state = true := htoken.stays rfl
  subst hstate
  have hpolls : ¬ (s = .counting ∨ s = .sleeping) := by
    intro hs
    cases eq_false_of_polls hfirst hs (observed_append.mpr ⟨true, hbefore, htoken⟩)
  cases s with
  | counting => exact absurd (.inl rfl) hpolls
  | sleeping => exact absurd (.inr rfl) hpolls
  | checking | hesitating | naming | fetching =>
      constructor
      · rintro ⟨⟩
      · rintro seconds ⟨⟩

theorem standing_of_cancelled {cancelled : Bool}
    (h : Leads t height (.inl .checking) history place) (htoken : Observed cancelled history true) :
    place = .inr (.error (.cancelled .beforehand)) ∨
      (place.standing t height = .inl .cancelled ∧
        Leads t height (.inl .checking) (history ++ [⟨.cancelled, true⟩])
          (.inr (.error (.cancelled .beforehand)))) ∨
      (∃ tip ∈ (history.filterMap tip?).getLast?, height + t.depth ≤ tip) ∨
      ∃ earlier x failure, history = earlier ++ [x] ∧ failure? x = some failure := by
  have hnaming : ∀ {history}, Leads t height (.inl .checking) history (.inl .naming) →
      ∃ tip ∈ (history.filterMap tip?).getLast?, height + t.depth ≤ tip := by
    intro history hnaming
    obtain ⟨earlier, tip, rfl, hdeep, -⟩ := exists_of_naming hnaming
    exact ⟨tip, by simp [tip?], hdeep⟩
  have hfetching : ∀ {history hash},
      Leads t height (.inl .checking) history (.inl (.fetching hash)) →
      ∃ tip ∈ (history.filterMap tip?).getLast?, height + t.depth ≤ tip := by
    intro history hash hfetching
    obtain ⟨earlier, rfl, hearlier⟩ := exists_of_fetching hfetching
    simpa [tip?] using hnaming hearlier
  cases place with
  | inl s =>
      cases s with
      | checking | hesitating => exact .inr (.inl ⟨rfl, h.snoc true⟩)
      | counting => cases eq_false_of_polls h (.inl rfl) htoken
      | sleeping => cases eq_false_of_polls h (.inr rfl) htoken
      | naming => exact .inr (.inr (.inl (hnaming h)))
      | fetching => exact .inr (.inr (.inl (hfetching h)))
  | inr r =>
      obtain ⟨earlier, x, s, rfl, hearlier, hmove⟩ := h.exists_last (by simp)
      cases hmove with
      | stop | giveUp => exact .inl rfl
      | fetch =>
          refine .inr (.inr (.inl ?_))
          simpa [tip?] using hfetching hearlier
      | fail _ hfailure => exact .inr (.inr (.inr ⟨earlier, x, _, rfl, hfailure⟩))

theorem eq_error_of_failure? {failure : Failure}
    (h : Leads t height (.inl .checking) (before ++ x :: later) place)
    (hfailure : failure? x = some failure) : later = [] ∧ place = .inr (.error failure) := by
  obtain ⟨s, middle, -, hmove, hlater⟩ := h.split
  cases hmove with
  | fail _ hfailed =>
      rw [hfailed, Option.some.injEq] at hfailure
      subst hfailure
      exact leads_end.mp hlater
  | _ => simp [failure?] at hfailure

theorem exists_of_ok {block : Block}
    (h : Leads t height (.inl .checking) history (.inr (.ok block))) :
    ∃ earlier hash fetched, history = earlier ++
        [⟨.node (.blockHash height), .ok hash⟩, ⟨.node (.block hash t.rollup), .ok fetched⟩] ∧
      block = { fetched with height? := some height } := by
  obtain ⟨earlier, x, s, rfl, hearlier, hmove⟩ := h.exists_last (by simp)
  cases hmove with
  | @fetch hash fetched =>
      obtain ⟨earlier, rfl, -⟩ := exists_of_fetching hearlier
      exact ⟨earlier, hash, fetched, by simp, rfl⟩

/-- Whatever a question is answered, the wait goes on. -/
theorem exists_leads_of_question {q : Question}
    (h : Leads t height (.inl .checking) history place)
    (hq : place.standing t height = .inl q) (answer : Answer q) :
    ∃ place', Leads t height (.inl .checking) (history ++ [⟨q, answer⟩]) place' := by
  cases place with
  | inr r => cases hq
  | inl s =>
      cases hq
      exact ⟨_, h.snoc answer⟩

/-- The wait for a final block, whatever the chain, the node, the clock and the token do. Its block
is named once, right after the first tip that is high enough, and always then. A tip that is too low
is followed by one sleep, unless the token is cancelled by then; a cancelled wait asks for no tip
and sleeps no more. A failed call ends the wait with its failure, and what it returns is the block that the node
told last. -/
theorem finalizing_disciplined {standing : Question ⊕ Except Failure Block}
    {cancelled cancelled' : Bool} (hrun : t.Finalizing height history standing)
    (htoken : Observed cancelled history cancelled') :
    (∀ before later, history = before ++ later →
      ∀ k more, asked later standing = .node (.blockHash k) :: more →
        k = height ∧ (∀ k', .node (.blockHash k') ∉ before.map Exchange.question ++ more) ∧
          ∃ earlier tip, before = earlier ++ [⟨.node .blockCount, .ok tip⟩] ∧
            height + t.depth ≤ tip ∧ ∀ tip' ∈ earlier.filterMap tip?, tip' < height + t.depth) ∧
    (∀ before tip later, history = before ++ ⟨.node .blockCount, .ok tip⟩ :: later →
      height + t.depth ≤ tip → ∃ more, asked later standing = .node (.blockHash height) :: more) ∧
    (∀ before tip later, history = before ++ ⟨.node .blockCount, .ok tip⟩ :: later →
      tip < height + t.depth →
      ∀ state, Observed cancelled (before ++ [⟨.node .blockCount, .ok tip⟩]) state →
        Observed state later cancelled' →
        if state then begun later standing = []
        else later = [] ∧ standing = .inl .cancelled ∨
          ∃ more, begun later standing = .sleep t.interval :: more ∧
            ∀ q ∈ more.head?, q = .node .blockCount) ∧
    (∀ before later, history = before ++ later →
      Observed cancelled before true → Observed true later cancelled' →
      ∀ q ∈ asked later standing, q ≠ .node .blockCount ∧ ∀ seconds, q ≠ .sleep seconds) ∧
    (cancelled' = true →
      standing = .inr (.error (.cancelled .beforehand)) ∨
      (standing = .inl .cancelled ∧ t.Finalizing height (history ++ [⟨.cancelled, true⟩])
        (.inr (.error (.cancelled .beforehand)))) ∨
      (∃ tip ∈ (history.filterMap tip?).getLast?, height + t.depth ≤ tip) ∨
      ∃ earlier x failure, history = earlier ++ [x] ∧ failure? x = some failure) ∧
    (∀ before x later failure, history = before ++ x :: later → failure? x = some failure →
      later = [] ∧ standing = .inr (.error failure)) ∧
    (∀ block, standing = .inr (.ok block) →
      ∃ earlier hash fetched, history = earlier ++
          [⟨.node (.blockHash height), .ok hash⟩, ⟨.node (.block hash t.rollup), .ok fetched⟩] ∧
        block = { fetched with height? := some height }) ∧
    (∀ q, standing = .inl q → ∀ answer,
      ∃ standing', t.Finalizing height (history ++ [⟨q, answer⟩]) standing') := by
  obtain ⟨place, hleads, rfl⟩ := finalizing_iff.mp hrun
  refine ⟨?named, ?deep, ?short, ?cancelled, ?ends, ?fails, ?returns, ?goes⟩
  case named =>
    rintro before later rfl k more hasked
    exact named_once hleads hasked
  case deep =>
    rintro before tip later rfl hdeep
    obtain ⟨s, middle, -, hmove, hrest⟩ := hleads.split
    cases hmove with
    | deep => exact exists_asked_of_leads hrest
    | short hshort => omega
    | fail _ hfailure => simp [failure?] at hfailure
  case short =>
    rintro before tip later rfl hshort state - hlater
    obtain ⟨s, middle, -, hmove, hrest⟩ := hleads.split
    cases hmove with
    | deep hdeep => omega
    | short =>
        have hbegun := begun_of_hesitating hrest hlater
        cases state with
        | true => exact hbegun
        | false =>
            rcases hbegun with ⟨rfl, rfl⟩ | hsleep
            · exact .inl ⟨rfl, rfl⟩
            · exact .inr hsleep
    | fail _ hfailure => simp [failure?] at hfailure
  case cancelled =>
    rintro before later rfl hbefore hlater q hq
    exact not_polls_of_cancelled hleads hbefore hlater hq
  case ends =>
    rintro rfl
    rcases standing_of_cancelled hleads htoken with rfl | ⟨hstanding, hstop⟩ | hrest
    · exact .inl rfl
    · exact .inr (.inl ⟨hstanding, finalizing_iff.mpr ⟨_, hstop, rfl⟩⟩)
    · exact .inr (.inr hrest)
  case fails =>
    rintro before x later failure rfl hfailure
    obtain ⟨rfl, rfl⟩ := eq_error_of_failure? hleads hfailure
    exact ⟨rfl, rfl⟩
  case returns =>
    intro block hstanding
    cases place with
    | inl s => cases hstanding
    | inr r =>
        cases hstanding
        exact exists_of_ok hleads
  case goes =>
    intro q hstanding answer
    obtain ⟨place', hleads'⟩ := exists_leads_of_question hleads hstanding answer
    exact ⟨_, finalizing_iff.mpr ⟨place', hleads', rfl⟩⟩

theorem finalizing_disciplined_asleep :
    let t : BlockTracker := { rollup := "r", depth := 2 }
    let start : List (Exchange Answer) := [⟨.cancelled, false⟩, ⟨.node .blockCount, .ok 6⟩]
    let rest : List (Exchange Answer) := [⟨.cancelled, false⟩, ⟨.sleep t.interval, .ok ()⟩]
    t.Finalizing 5 (start ++ rest) (.inl .cancelled) ∧
      Observed false start false ∧ Observed false rest true ∧
      (∃ more, begun rest (.inl .cancelled : Question ⊕ Except Failure Block) =
        .sleep t.interval :: more) ∧
      t.Finalizing 5 (start ++ rest ++ [⟨.cancelled, true⟩])
        (.inr (.error (.cancelled .beforehand))) := by
  intro t start rest
  have hrun : t.Finalizing 5 (start ++ rest) (.inl .cancelled) :=
    finalizing_iff.mpr ⟨.inl .checking, .cons (s := .checking) (.cons (s := .counting)
      (.cons (s := .hesitating) (.cons (s := .sleeping) (.nil _)))), rfl⟩
  have hstart : Observed false start false := .look (.call rfl (by simp) (.nil _))
  have hrest : Observed false rest true := .look (.call rfl (by simp) (.nil _))
  have htoken : Observed false (start ++ rest) true := observed_append.mpr ⟨false, hstart, hrest⟩
  obtain ⟨-, -, hshort, -, hends, -⟩ := finalizing_disciplined hrun htoken
  refine ⟨hrun, hstart, hrest, ?_, ?_⟩
  · rcases hshort [⟨.cancelled, false⟩] 6 rest rfl (by decide) false hstart hrest with
      ⟨hnil, -⟩ | ⟨more, hbegun, -⟩
    · simp [rest] at hnil
    · exact ⟨more, hbegun⟩
  · rcases hends rfl with
      hended | ⟨-, hstop⟩ | ⟨tip, htip, hdeep⟩ | ⟨earlier, x, failure, hlast, hx⟩
    · cases hended
    · exact hstop
    · have htips : (start ++ rest).filterMap tip? = [6] := rfl
      rw [htips, List.getLast?_singleton, Option.mem_some_iff] at htip
      rw [← htip] at hdeep
      cases hdeep
    · have hsleep : x = ⟨.sleep t.interval, .ok ()⟩ := by
        have hlast' := congrArg List.getLast? hlast
        simpa [start, rest, eq_comm] using hlast'
      rw [hsleep] at hx
      cases hx

end BlockTracker

end BlobInscription
