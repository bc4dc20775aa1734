import BlobInscription.Fee
import BlobInscription.Proofs.Dialogue.Trail
import BlobInscription.Proofs.Number.Comparison
import Mathlib.Data.List.Induction
import Mathlib.Tactic.Common

namespace BlobInscription

namespace Rpc.Session

variable {α β : Type}

theorem run_tryCall_bind (call : Call) (f : Option Datum → Session β) :
    (tryCall call >>= f).run = .ask call fun answer =>
      match unlessRefused answer with
      | .ok value? => (f value?).run
      | .error e => .done (.error e) := by
  refine congrArg (Dialogue.ask _) (funext fun answer => ?_)
  dsimp only [Dialogue.bind]
  cases unlessRefused answer with
  | ok value? => rfl
  | error e => rfl

theorem reading_ok (a : α) : reading (.ok a) = pure a :=
  rfl

end Rpc.Session

namespace Fee

open Dialogue (Trail)
open Rpc (Session Call)

/-- The rate that a node gives under a key, if it gives one that can be read. -/
def given? (key : String) : Except Rpc.Error Datum → Option Binary64
  | .ok (.map entries) =>
      match (Datum.lookup entries key).toFloat with
      | .ok rate => some (ofCoinsPerKilobyte rate)
      | .error _ => none
  | _ => none

/-- A node has nothing to say, refuses to, or gives a map, in which any value may stand under the
key but an integer beyond the range of doubles. -/
def Answers (key : String) : Except Rpc.Error Datum → Prop
  | .ok .null | .error (.refused _) | .error (.heightNotProduced _) => True
  | .ok (.map entries) =>
      ∀ e, (Datum.lookup entries key).toFloat = .error e → e.isOverflow = false
  | _ => False

/-- The floors that a node gives, in the order in which it is asked for them. -/
def floorsOf (mempool network : Except Rpc.Error Datum) : List FeeFloor :=
  ((given? "mempoolminfee" mempool).map (FeeFloor.mk "mempoolminfee")).toList ++
    ((given? "relayfee" network).map (FeeFloor.mk "relayfee")).toList

/-- No floor is above this one. -/
def IsLargest (floors : List FeeFloor) (floor : FeeFloor) : Prop :=
  floor ∈ floors ∧ ∀ other ∈ floors, floor.rate.lt other.rate = false

section Reading

variable {key : String} {answer : Except Rpc.Error Datum} {entries : List (Datum × Datum)}

theorem isNull_of_toFloat {d : Datum} {x : Binary64} (h : d.toFloat = .ok x) :
    d.isNull = false := by
  cases d with
  | null => cases h
  | _ => rfl

theorem rateUnder?_eq (h : Answers key (.ok (.map entries))) :
    rateUnder? entries key = .ok (given? key (.ok (.map entries))) := by
  rw [rateUnder?, given?]
  cases hvalue : (Datum.lookup entries key).toFloat with
  | ok rate =>
      have hgiven := isNull_of_toFloat hvalue
      simp [hgiven, readRate?, hvalue]
  | error e =>
      have hrange : e.isOverflow = false := h e hvalue
      simp [readRate?, hvalue, hrange]

theorem exists_read (h : Answers key answer) :
    ∃ value?, Session.unlessRefused answer = .ok value? ∧
      readFloor key value? = .ok ((given? key answer).map (FeeFloor.mk key)).toList ∧
      (key = "feerate" → value?.elim (.ok none) readEstimate? = .ok (given? key answer)) := by
  match answer, h with
  | .error (.refused _), _ => exact ⟨none, rfl, rfl, fun _ => rfl⟩
  | .error (.heightNotProduced _), _ => exact ⟨none, rfl, rfl, fun _ => rfl⟩
  | .ok .null, _ => exact ⟨some .null, rfl, rfl, fun _ => rfl⟩
  | .ok (.map entries), h =>
      have hrate := rateUnder?_eq h
      refine ⟨some (.map entries), rfl, ?_, ?_⟩
      · rw [readFloor, hrate]
        rfl
      · rintro rfl
        cases entries with
        | nil => rfl
        | cons entry rest => exact hrate

end Reading

section Asking

variable {α : Type} {target : Int} {answer mempool network : Except Rpc.Error Datum}

theorem run_estimate?_bind (h : Answers "feerate" answer) (f : Option Binary64 → Session α) :
    Trail (estimate? target >>= f).run [⟨Call.feeEstimate (.int target) .null, answer⟩]
      (f (given? "feerate" answer)).run := by
  obtain ⟨value?, hvalue, -, hread⟩ := exists_read h
  have hnext := hread rfl
  rw [estimate?, bind_assoc, Session.run_tryCall_bind]
  refine .cons ?_
  rw [hvalue]
  cases value? with
  | none =>
      rw [Option.elim_none, Except.ok.injEq] at hnext
      rw [← hnext]
      exact .nil _
  | some value =>
      rw [Option.elim_some] at hnext
      dsimp only
      rw [hnext]
      exact .nil _

theorem run_policyFloors_bind (hmempool : Answers "mempoolminfee" mempool)
    (hnetwork : Answers "relayfee" network) (f : List FeeFloor → Session α) :
    Trail (policyFloors >>= f).run [⟨Call.mempoolInfo, mempool⟩, ⟨Call.networkInfo, network⟩]
      (f (floorsOf mempool network)).run := by
  obtain ⟨mempool?, hmempool, hfirst, -⟩ := exists_read hmempool
  obtain ⟨network?, hnetwork, hsecond, -⟩ := exists_read hnetwork
  rw [policyFloors, bind_assoc, Session.run_tryCall_bind]
  refine .cons ?_
  rw [hmempool]
  dsimp only
  rw [hfirst, Session.reading_ok, pure_bind, bind_assoc, Session.run_tryCall_bind]
  refine .cons ?_
  rw [hnetwork]
  dsimp only
  rw [hsecond, Session.reading_ok, pure_bind, pure_bind]
  exact .nil _

theorem trail_select (fallback : Binary64) (hestimate : Answers "feerate" answer)
    (hmempool : Answers "mempoolminfee" mempool) (hnetwork : Answers "relayfee" network) :
    Trail (select target fallback).run
      [⟨Call.feeEstimate (.int target) .null, answer⟩, ⟨Call.mempoolInfo, mempool⟩,
        ⟨Call.networkInfo, network⟩]
      (.done (.ok (raise ((given? "feerate" answer).getD fallback)
        (if (given? "feerate" answer).isSome then .estimate else .fallback)
        (floorsOf mempool network)))) := by
  refine (run_estimate?_bind hestimate _).append ?_
  cases given? "feerate" answer with
  | none => exact run_policyFloors_bind hmempool hnetwork _
  | some rate => exact run_policyFloors_bind hmempool hnetwork _

end Asking

section Raising

variable {floors : List FeeFloor}

theorem greatest_concat (first : FeeFloor) (rest : List FeeFloor) (floor : FeeFloor) :
    greatest first (rest ++ [floor]) =
      if (greatest first rest).lt floor.rate then floor.rate else greatest first rest := by
  rw [greatest, List.foldl_append]
  rfl

theorem exists_isLargest (first : FeeFloor) (rest : List FeeFloor)
    (hnumbers : ∀ floor ∈ first :: rest, floor.rate.isNaN = false) :
    ∃ largest, IsLargest (first :: rest) largest ∧ largest.rate = greatest first rest := by
  induction rest using List.reverseRecOn with
  | nil =>
      have hself : first.rate.lt first.rate = false := Binary64.lt_self _
      exact ⟨first, ⟨List.mem_cons_self, by simpa using hself⟩, rfl⟩
  | append_singleton rest floor ih =>
      rw [← List.cons_append, List.forall_mem_append, List.forall_mem_singleton] at hnumbers
      obtain ⟨hbefore, hfloor⟩ := hnumbers
      obtain ⟨largest, ⟨hmem, hnone⟩, hrate⟩ := ih hbefore
      rw [greatest_concat, ← List.cons_append, ← hrate]
      split
      · rename_i habove
        refine ⟨floor, ⟨by simp, ?_⟩, rfl⟩
        rw [List.forall_mem_append, List.forall_mem_singleton]
        refine ⟨?_, Binary64.lt_self _⟩
        intro other hother
        have hle := (Binary64.lt_eq_false_iff (hbefore _ hmem) (hbefore _ hother)).mp
          (hnone other hother)
        apply (Binary64.lt_eq_false_iff hfloor (hbefore _ hother)).mpr
        exact hle.trans (Binary64.lt_iff.mp habove).2.2.le
      · rename_i hbelow
        refine ⟨largest, ⟨List.mem_append_left _ hmem, ?_⟩, rfl⟩
        rw [List.forall_mem_append, List.forall_mem_singleton]
        exact ⟨hnone, by simpa using hbelow⟩

theorem filter_eq_of_isLargest (hnumbers : ∀ floor ∈ floors, floor.rate.isNaN = false)
    {largest largest' : FeeFloor} (h : IsLargest floors largest) (h' : IsLargest floors largest') :
    (floors.filter fun floor => floor.rate.eq largest.rate) =
      floors.filter fun floor => floor.rate.eq largest'.rate := by
  have hnumber := hnumbers _ h.1
  have hnumber' := hnumbers _ h'.1
  have hlevel : largest.rate.level = largest'.rate.level := by
    apply le_antisymm
    · exact (Binary64.lt_eq_false_iff hnumber' hnumber).mp (h'.2 _ h.1)
    · exact (Binary64.lt_eq_false_iff hnumber hnumber').mp (h.2 _ h'.1)
  congr 1
  funext floor
  rw [Bool.eq_iff_iff, Binary64.eq_iff, Binary64.eq_iff, hnumber, hnumber', hlevel]

theorem raise_cases (base : Binary64) (source : FeeSource)
    (hnumbers : ∀ floor ∈ floors, floor.rate.isNaN = false) :
    ((∀ floor ∈ floors, base.lt floor.rate = false) ∧
      raise base source floors = ⟨base, source, []⟩) ∨
    ∃ largest, IsLargest floors largest ∧ base.lt largest.rate = true ∧
      raise base source floors =
        ⟨largest.rate, source, floors.filter fun floor => floor.rate.eq largest.rate⟩ := by
  cases floors with
  | nil => exact .inl ⟨by simp, rfl⟩
  | cons first rest =>
      obtain ⟨largest, hlargest, hrate⟩ := exists_isLargest first rest hnumbers
      rw [raise, ← hrate]
      split
      · rename_i hbelow
        exact .inr ⟨largest, hlargest, hbelow, rfl⟩
      · rename_i hbelow
        refine .inl ⟨?_, rfl⟩
        intro floor hfloor
        rw [← Bool.not_eq_true]
        intro habove
        obtain ⟨hbase, hfloor', hlevel⟩ := Binary64.lt_iff.mp habove
        have hle := (Binary64.lt_eq_false_iff (hnumbers _ hlargest.1) hfloor').mp
          (hlargest.2 _ hfloor)
        exact hbelow (Binary64.lt_iff.mpr ⟨hbase, hnumbers _ hlargest.1, hlevel.trans_le hle⟩)

end Raising

/-- A node is asked once for an estimate and once for each of its floors. What it shows of them
makes the selection: the rate is the greatest of all, and floors are told exactly when one is above
the estimate or the fallback, namely all those that are as great as the greatest. -/
theorem select_greatest (target : Int) (fallback : Binary64)
    {estimate mempool network : Except Rpc.Error Datum} (hestimate : Answers "feerate" estimate)
    (hmempool : Answers "mempoolminfee" mempool) (hnetwork : Answers "relayfee" network)
    (hnumbers : ∀ floor ∈ floorsOf mempool network, floor.rate.isNaN = false) :
    let base := (given? "feerate" estimate).getD fallback
    let floors := floorsOf mempool network
    ∃ selection : FeeSelection,
      Trail (select target fallback).run
        [⟨Call.feeEstimate (.int target) .null, estimate⟩, ⟨Call.mempoolInfo, mempool⟩,
          ⟨Call.networkInfo, network⟩] (.done (.ok selection)) ∧
      selection.source.name =
        (if (given? "feerate" estimate).isSome then "estimatesmartfee" else "fallback") ∧
      selection.rate ∈ base :: floors.map FeeFloor.rate ∧
      (∀ rate ∈ base :: floors.map FeeFloor.rate, selection.rate.lt rate = false) ∧
      (selection.floors = [] → selection.rate = base) ∧
      (selection.floors ≠ [] ↔
        ∃ largest, IsLargest floors largest ∧ base.lt largest.rate = true) ∧
      (selection.floors ≠ [] → ∀ largest, IsLargest floors largest →
        selection.floors = floors.filter fun floor => floor.rate.eq largest.rate) := by
  intro base floors
  refine ⟨_, trail_select fallback hestimate hmempool hnetwork, ?_⟩
  generalize hsource : (if (given? "feerate" estimate).isSome then FeeSource.estimate
    else FeeSource.fallback) = source
  have hname : source.name =
      if (given? "feerate" estimate).isSome then "estimatesmartfee" else "fallback" := by
    rw [← hsource, apply_ite FeeSource.name]
    rfl
  rcases raise_cases base source hnumbers with
    ⟨hnone, hraise⟩ | ⟨largest, hlargest, habove, hraise⟩
  · rw [hraise]
    refine ⟨hname, List.mem_cons_self, ?_, fun _ => rfl, ?_, fun h => absurd rfl h⟩
    · rw [List.forall_mem_cons, List.forall_mem_map]
      exact ⟨Binary64.lt_self _, hnone⟩
    · refine iff_of_false (fun h => h rfl) ?_
      rintro ⟨largest, hlargest, habove⟩
      rw [hnone _ hlargest.1] at habove
      cases habove
  · rw [hraise]
    have hlevel := Binary64.lt_iff.mp habove
    have hself : largest.rate.eq largest.rate = true :=
      Binary64.eq_iff.mpr ⟨hlevel.2.1, hlevel.2.1, rfl⟩
    have hsome : (floors.filter fun floor => floor.rate.eq largest.rate) ≠ [] :=
      List.ne_nil_of_mem (List.mem_filter.mpr ⟨hlargest.1, hself⟩)
    refine ⟨hname, List.mem_cons_of_mem _ (List.mem_map_of_mem hlargest.1), ?_,
      fun h => absurd h hsome, iff_of_true hsome ⟨largest, hlargest, habove⟩, ?_⟩
    · rw [List.forall_mem_cons, List.forall_mem_map]
      refine ⟨?_, hlargest.2⟩
      apply (Binary64.lt_eq_false_iff hlevel.2.1 hlevel.1).mpr
      exact hlevel.2.2.le
    · intro _ other hother
      exact filter_eq_of_isLargest hnumbers hlargest hother

theorem select_greatest_tied :
    let estimate : Except Rpc.Error Datum :=
      .ok (.map [(.text "feerate", .float (.ofDecimal false 2 (-5)))])
    let mempool : Except Rpc.Error Datum := .ok (.map [(.text "mempoolminfee", .text " 1e-4 ")])
    let network : Except Rpc.Error Datum :=
      .ok (.map [(.text "relayfee", .float (.ofDecimal false 1 (-4)))])
    let ten : Binary64 := .ofRatio false 10 1
    Answers "feerate" estimate ∧ Answers "mempoolminfee" mempool ∧ Answers "relayfee" network ∧
      (∀ floor ∈ floorsOf mempool network, floor.rate.isNaN = false) ∧
      ∃ selection : FeeSelection,
        Trail (select 1 (.ofRatio false 1 1)).run
          [⟨Call.feeEstimate (.int 1) .null, estimate⟩, ⟨Call.mempoolInfo, mempool⟩,
            ⟨Call.networkInfo, network⟩] (.done (.ok selection)) ∧
        selection.source.name = "estimatesmartfee" ∧
        selection.floors = [⟨"mempoolminfee", ten⟩, ⟨"relayfee", ten⟩] := by
  intro estimate mempool network ten
  have hfloors : floorsOf mempool network = [⟨"mempoolminfee", ten⟩, ⟨"relayfee", ten⟩] := by
    decide +kernel
  have hestimate : Answers "feerate" estimate := by
    rintro e ⟨⟩
  have hmempool : Answers "mempoolminfee" mempool := by
    have hread : (Datum.lookup [(.text "mempoolminfee", .text " 1e-4 ")] "mempoolminfee").toFloat =
        .ok (.ofDecimal false 1 (-4)) := by
      decide +kernel
    intro e he
    rw [hread] at he
    cases he
  have hnetwork : Answers "relayfee" network := by
    rintro e ⟨⟩
  have hnumbers : ∀ floor ∈ floorsOf mempool network, floor.rate.isNaN = false := by
    rw [hfloors]
    decide +kernel
  obtain ⟨selection, htrail, hsource, -, -, -, hraised, hequal⟩ :=
    select_greatest 1 (.ofRatio false 1 1) hestimate hmempool hnetwork hnumbers
  have hlargest : IsLargest (floorsOf mempool network) ⟨"mempoolminfee", ten⟩ := by
    rw [hfloors]
    constructor
    · exact List.mem_cons_self
    · decide +kernel
  have habove : ∃ largest, IsLargest (floorsOf mempool network) largest ∧
      ((given? "feerate" estimate).getD (.ofRatio false 1 1)).lt largest.rate = true := by
    refine ⟨_, hlargest, ?_⟩
    decide +kernel
  refine ⟨hestimate, hmempool, hnetwork, hnumbers, selection, htrail, hsource, ?_⟩
  rw [hequal (hraised.mpr habove) _ hlargest, hfloors]
  decide +kernel

end Fee

end BlobInscription
