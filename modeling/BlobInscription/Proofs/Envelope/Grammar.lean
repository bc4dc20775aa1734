import BlobInscription.Envelope
import Mathlib.Data.List.GetD
import Mathlib.Tactic.Common

/-!
The grammar of envelopes, matched by index. A machine runs over the instructions of a script: at an
empty push it matches the grammar, and where the match breaks it goes on behind the instruction that
did not fit. Reading a script comes to the result of this machine.
-/

namespace BlobInscription.Envelope

open Script (Instruction)

/-- What an instruction of an envelope has to be. -/
inductive Slot
  | op (c : Opcode)
  | push (data : Bytes)
  | anyPush

def Slot.Admits : Slot → Instruction → Prop
  | op c, i => i = .op c
  | push data, i => i.pushed? = some data
  | anyPush, i => ∃ data, i.pushed? = some data

/-- The instructions of an envelope for `name` behind the empty push that opens it, up to the
body. -/
def header (name : Bytes) : List Slot :=
  [.op Opcode.ifOp, .push nameTag, .push name, .push signatureTag, .anyPush, .push publicKeyTag,
    .anyPush, .push nonceTag, .anyPush, .push bodyTag]

def signatureOffset : Nat := 4
def publicKeyOffset : Nat := 6
def bodyOffset : Nat := 10

/-- The instruction at an offset behind the marker; from the body on, any push goes. -/
def slot (name : Bytes) (n : Nat) : Slot :=
  (header name).getD n .anyPush

/-- The instruction at an index is an empty push, which may open an envelope. -/
def MarkerAt (stream : List Instruction) (i : Nat) : Prop :=
  stream[i]?.bind Instruction.pushed? = some []

variable {name : Bytes} {stream : List Instruction} {start : Nat}

/-- The first `n` instructions from `start` are those of an envelope for `name`. -/
def Fits (name : Bytes) (stream : List Instruction) (start n : Nat) : Prop :=
  ∀ k < n, ∃ i, stream[start + k]? = some i ∧ (slot name k).Admits i

/-- The first `n` instructions fit, and the next does not, or there is none. -/
structure Breaks (name : Bytes) (stream : List Instruction) (start n : Nat) : Prop where
  fits : Fits name stream start n
  misfit : ∀ i, stream[start + n]? = some i → ¬ (slot name n).Admits i

/-- The instructions from `start` are those of an envelope with `n` pushes of the body. -/
structure FullMatch (name : Bytes) (stream : List Instruction) (start n : Nat) (e : Envelope) :
    Prop where
  fits : Fits name stream start (bodyOffset + n)
  closed : stream[start + (bodyOffset + n)]? = some (.op Opcode.endIf)
  signature : stream[start + signatureOffset]?.bind Instruction.pushed? = some e.signature
  publicKey : stream[start + publicKeyOffset]?.bind Instruction.pushed? = some e.publicKey
  body : e.body =
    (((stream.drop (start + bodyOffset)).take n).filterMap Instruction.pushed?).flatten

/-- The instruction at `j` is the first, from `start`, that fits no envelope. -/
def Mismatch (name : Bytes) (stream : List Instruction) (start j : Nat) : Prop :=
  ∃ n, j = start + n ∧ Breaks name stream start n ∧
    (bodyOffset ≤ n → stream[j]? ≠ some (.op Opcode.endIf))

/-- The machine: from an index on, the envelope that it stops with, or nothing when it runs off the
end. -/
inductive Machine (name : Bytes) (stream : List Instruction) : Nat → Option Envelope → Prop
  | off {i : Nat} (hend : stream.length ≤ i) : Machine name stream i none
  | skip {i : Nat} {out : Option Envelope} (hi : i < stream.length) (hmarker : ¬ MarkerAt stream i)
      (hrest : Machine name stream (i + 1) out) : Machine name stream i out
  | stop {i n : Nat} {e : Envelope} (hmarker : MarkerAt stream i)
      (hmatch : FullMatch name stream (i + 1) n e) : Machine name stream i (some e)
  | resume {i j : Nat} {out : Option Envelope} (hmarker : MarkerAt stream i)
      (hmismatch : Mismatch name stream (i + 1) j) (hrest : Machine name stream (j + 1) out) :
      Machine name stream i out

theorem MarkerAt.lt_length {i : Nat} (h : MarkerAt stream i) : i < stream.length := by
  by_contra hend
  simp [MarkerAt, List.getElem?_eq_none (Nat.le_of_not_lt hend)] at h

theorem slot_of_bodyOffset_le {n : Nat} (h : bodyOffset ≤ n) : slot name n = .anyPush :=
  List.getD_eq_default _ _ h

theorem Breaks.unique {n m : Nat} (hn : Breaks name stream start n)
    (hm : Breaks name stream start m) : n = m := by
  rcases Nat.lt_trichotomy n m with hlt | heq | hlt
  · obtain ⟨i, hi, hadmits⟩ := hm.fits n hlt
    exact absurd hadmits (hn.misfit i hi)
  · exact heq
  · obtain ⟨i, hi, hadmits⟩ := hn.fits m hlt
    exact absurd hadmits (hm.misfit i hi)

theorem FullMatch.breaks {n : Nat} {e : Envelope} (h : FullMatch name stream start n e) :
    Breaks name stream start (bodyOffset + n) := by
  refine ⟨h.fits, ?_⟩
  intro i hi
  rw [h.closed] at hi
  cases hi
  rw [slot_of_bodyOffset_le (Nat.le_add_right _ _)]
  rintro ⟨data, hdata⟩
  cases hdata

theorem FullMatch.unique {n m : Nat} {e e' : Envelope} (h : FullMatch name stream start n e)
    (h' : FullMatch name stream start m e') : e = e' := by
  have hn : n = m := Nat.add_left_cancel (h.breaks.unique h'.breaks)
  subst hn
  have hsignature := h.signature.symm.trans h'.signature
  have hpublicKey := h.publicKey.symm.trans h'.publicKey
  have hbody := h.body.trans h'.body.symm
  cases e
  cases e'
  simp only [Option.some.injEq] at hsignature hpublicKey hbody
  rw [hsignature, hpublicKey, hbody]

theorem Mismatch.unique {j l : Nat} (h : Mismatch name stream start j)
    (h' : Mismatch name stream start l) : j = l := by
  obtain ⟨n, rfl, hn, -⟩ := h
  obtain ⟨m, rfl, hm, -⟩ := h'
  rw [hn.unique hm]

theorem FullMatch.not_mismatch {n j : Nat} {e : Envelope} (h : FullMatch name stream start n e) :
    ¬ Mismatch name stream start j := by
  rintro ⟨m, rfl, hm, hopen⟩
  have hm : m = bodyOffset + n := hm.unique h.breaks
  subst hm
  exact hopen (Nat.le_add_right _ _) h.closed

theorem Machine.unique {i : Nat} {out out' : Option Envelope} (h : Machine name stream i out)
    (h' : Machine name stream i out') : out = out' := by
  induction h generalizing out' with
  | off hend =>
      cases h' with
      | off => rfl
      | skip hi => omega
      | stop hmarker => exact absurd hmarker.lt_length (Nat.not_lt.mpr hend)
      | resume hmarker => exact absurd hmarker.lt_length (Nat.not_lt.mpr hend)
  | skip hi hplain hrest ih =>
      cases h' with
      | off hend => omega
      | skip _ _ hrest' => exact ih hrest'
      | stop hmarker => exact absurd hmarker hplain
      | resume hmarker => exact absurd hmarker hplain
  | stop hmarker hmatch =>
      cases h' with
      | off hend => exact absurd hmarker.lt_length (Nat.not_lt.mpr hend)
      | skip _ hplain => exact absurd hmarker hplain
      | stop _ hmatch' => rw [hmatch.unique hmatch']
      | resume _ hmismatch => exact absurd hmismatch hmatch.not_mismatch
  | resume hmarker hmismatch hrest ih =>
      cases h' with
      | off hend => exact absurd hmarker.lt_length (Nat.not_lt.mpr hend)
      | skip _ hplain => exact absurd hmarker hplain
      | stop _ hmatch => exact absurd hmismatch hmatch.not_mismatch
      | resume _ hmismatch' hrest' =>
          rw [hmismatch.unique hmismatch'] at ih
          exact ih hrest'

/-- What an attempt from `start` has come to: a full match, or a mismatch behind which the scan goes
on. -/
def Settles (name : Bytes) (stream : List Instruction) (start : Nat) :
    Option Envelope × List Instruction → Prop
  | (some e, _) => ∃ n, FullMatch name stream start n e
  | (none, rest) => ∃ j, Mismatch name stream start j ∧ rest = stream.drop (j + 1)

theorem Attempt.run_one_bind_cons {α : Type} (view : Instruction → Option α)
    (f : α → Attempt Envelope) (i : Instruction) (rest : List Instruction) :
    (Attempt.one view >>= f).run (i :: rest) =
      match view i with
      | some a => (f a).run rest
      | none => (none, rest) := by
  cases h : view i with
  | none =>
      simp only [one, bind, OptionT.bind, OptionT.run, OptionT.mk, StateT.bind, h]
      rfl
  | some a => simp only [one, bind, OptionT.bind, OptionT.run, OptionT.mk, StateT.bind, h]

theorem fits_zero : Fits name stream start 0 :=
  fun _ hk => absurd hk (Nat.not_lt_zero _)

theorem Fits.succ {n : Nat} {i : Instruction} (h : Fits name stream start n)
    (hi : stream[start + n]? = some i) (hadmits : (slot name n).Admits i) :
    Fits name stream start (n + 1) := by
  intro k hk
  rcases Nat.lt_succ_iff_lt_or_eq.mp hk with hlt | rfl
  · exact h k hlt
  · exact ⟨i, hi, hadmits⟩

/-- One step of an attempt, which sees what it looks for exactly in the instructions of its slot. -/
theorem settles_one_bind {α : Type} {view : Instruction → Option α} {f : α → Attempt Envelope}
    {n : Nat} (hn : n < bodyOffset)
    (hview : ∀ i, (slot name n).Admits i ↔ (view i).isSome = true)
    (hfits : Fits name stream start n)
    (hnext : ∀ i a, stream[start + n]? = some i → view i = some a →
      Fits name stream start (n + 1) →
      Settles name stream start ((f a).run (stream.drop (start + (n + 1))))) :
    Settles name stream start ((Attempt.one view >>= f).run (stream.drop (start + n))) := by
  cases hi : stream[start + n]? with
  | none =>
      have hend : stream.length ≤ start + n := List.getElem?_eq_none_iff.mp hi
      rw [List.drop_eq_nil_of_le hend]
      refine ⟨start + n, ⟨n, rfl, ⟨hfits, by simp [hi]⟩, by simp [hi]⟩, ?_⟩
      rw [List.drop_eq_nil_of_le (by omega)]
  | some i =>
      obtain ⟨hlt, hget⟩ := List.getElem?_eq_some_iff.mp hi
      have hdrop : stream.drop (start + n) = i :: stream.drop (start + (n + 1)) := by
        rw [List.drop_eq_getElem_cons hlt, hget, Nat.add_assoc]
      rw [hdrop, Attempt.run_one_bind_cons]
      cases hsee : view i with
      | none =>
          have hmisfit : ¬ (slot name n).Admits i := by simp [hview, hsee]
          refine ⟨start + n, ⟨n, rfl, ⟨hfits, ?_⟩, by omega⟩, rfl⟩
          intro other hother
          rw [hi] at hother
          cases hother
          exact hmisfit
      | some a =>
          have hadmits : (slot name n).Admits i := by simp [hview, hsee]
          exact hnext i a hi hsee (hfits.succ hi hadmits)

theorem settles_pushOf {data : Bytes} {f : Unit → Attempt Envelope} {n : Nat}
    (hslot : slot name n = .push data) (hn : n < bodyOffset) (hfits : Fits name stream start n)
    (hnext : Fits name stream start (n + 1) →
      Settles name stream start ((f ()).run (stream.drop (start + (n + 1))))) :
    Settles name stream start ((Attempt.pushOf data >>= f).run (stream.drop (start + n))) := by
  refine settles_one_bind hn ?_ hfits fun _ _ _ _ => hnext
  intro i
  rw [hslot, Slot.Admits]
  split
  · simp_all
  · simp_all

theorem isOp_iff {i : Instruction} {c : Opcode} : i.isOp c = true ↔ i = .op c := by
  cases i with
  | push d data => simp [Instruction.isOp]
  | op d => simp [Instruction.isOp]
  | truncated d => simp [Instruction.isOp]

theorem settles_opcode {c : Opcode} {f : Unit → Attempt Envelope} {n : Nat}
    (hslot : slot name n = .op c) (hn : n < bodyOffset) (hfits : Fits name stream start n)
    (hnext : Fits name stream start (n + 1) →
      Settles name stream start ((f ()).run (stream.drop (start + (n + 1))))) :
    Settles name stream start ((Attempt.opcode c >>= f).run (stream.drop (start + n))) := by
  refine settles_one_bind hn ?_ hfits fun _ _ _ _ => hnext
  intro i
  rw [hslot, Slot.Admits, ← isOp_iff]
  split
  · simp_all
  · simp_all

theorem settles_anyPush {f : Bytes → Attempt Envelope} {n : Nat}
    (hslot : slot name n = .anyPush) (hn : n < bodyOffset) (hfits : Fits name stream start n)
    (hnext : ∀ data, stream[start + n]?.bind Instruction.pushed? = some data →
      Fits name stream start (n + 1) →
      Settles name stream start ((f data).run (stream.drop (start + (n + 1))))) :
    Settles name stream start ((Attempt.anyPush >>= f).run (stream.drop (start + n))) := by
  refine settles_one_bind hn ?_ hfits fun i data hi hsee => hnext data (by simp [hi, hsee])
  intro i
  rw [hslot, Slot.Admits, Option.isSome_iff_exists]

theorem Attempt.chunks_bind (f : Bytes → Envelope) (rest : List Instruction) :
    ((do let body ← (fun instructions => takeChunks instructions [] : Attempt Bytes)
         return f body) : Attempt Envelope).run rest =
      ((takeChunks rest []).1.map f, (takeChunks rest []).2) := by
  cases h : takeChunks rest [] with
  | mk body? rest =>
      cases body? with
      | none => simp [bind, OptionT.bind, OptionT.run, OptionT.mk, StateT.bind, h]; rfl
      | some body => simp [bind, OptionT.bind, OptionT.run, OptionT.mk, StateT.bind, h]; rfl

theorem settles_takeChunks {e : Envelope} {rest : List Instruction} {n : Nat} {done : List Bytes}
    (hrest : stream.drop (start + (bodyOffset + n)) = rest)
    (hfits : Fits name stream start (bodyOffset + n))
    (hsignature : stream[start + signatureOffset]?.bind Instruction.pushed? = some e.signature)
    (hpublicKey : stream[start + publicKeyOffset]?.bind Instruction.pushed? = some e.publicKey)
    (hdone : done.reverse =
      ((stream.drop (start + bodyOffset)).take n).filterMap Instruction.pushed?) :
    Settles name stream start
      (((takeChunks rest done).1.map fun body => { e with body }), (takeChunks rest done).2) := by
  induction rest generalizing n done with
  | nil =>
      have hend : stream.length ≤ start + (bodyOffset + n) := List.drop_eq_nil_iff.mp hrest
      have hnone := List.getElem?_eq_none hend
      refine ⟨start + (bodyOffset + n), ⟨bodyOffset + n, rfl, ⟨hfits, by simp [hnone]⟩,
        by simp [hnone]⟩, ?_⟩
      rw [List.drop_eq_nil_of_le (by omega)]
      rfl
  | cons i rest ih =>
      have hi : stream[start + (bodyOffset + n)]? = some i := by
        rw [← List.head?_drop, hrest]
        rfl
      have hdrop : stream.drop (start + (bodyOffset + n) + 1) = rest := by
        rw [← List.tail_drop, hrest]
        rfl
      have hslot : slot name (bodyOffset + n) = .anyPush :=
        slot_of_bodyOffset_le (Nat.le_add_right _ _)
      rw [takeChunks]
      cases hpush : i.pushed? with
      | some data =>
          have hadmits : (slot name (bodyOffset + n)).Admits i := by
            rw [hslot]
            exact ⟨data, hpush⟩
          refine ih (n := n + 1) hdrop (hfits.succ hi hadmits) ?_
          have hget : (stream.drop (start + bodyOffset))[n]? = some i := by
            rw [List.getElem?_drop, Nat.add_assoc, hi]
          rw [List.take_add_one, hget, List.filterMap_append, ← hdone]
          simp [hpush]
      | none =>
          have hbreaks : Breaks name stream start (bodyOffset + n) := by
            refine ⟨hfits, ?_⟩
            intro other hother
            rw [hi] at hother
            cases hother
            rw [hslot]
            rintro ⟨data, hdata⟩
            simp [hpush] at hdata
          by_cases hclose : i = .op Opcode.endIf
          · subst hclose
            exact ⟨n, hfits, hi, hsignature, hpublicKey, by rw [hdone]⟩
          · have hopen : i.isOp Opcode.endIf = false := by
              rw [Bool.eq_false_iff, ne_eq, isOp_iff]
              exact hclose
            simp only [hopen]
            exact ⟨start + (bodyOffset + n), ⟨bodyOffset + n, rfl, hbreaks, by simp [hi, hclose]⟩,
              hdrop.symm⟩

theorem settles_afterMarker (name : Bytes) (stream : List Instruction) (start : Nat) :
    Settles name stream start ((afterMarker name).run (stream.drop start)) := by
  refine settles_opcode rfl (by decide) fits_zero fun h1 => ?_
  refine settles_pushOf rfl (by decide) h1 fun h2 => ?_
  refine settles_pushOf rfl (by decide) h2 fun h3 => ?_
  refine settles_pushOf rfl (by decide) h3 fun h4 => ?_
  refine settles_anyPush rfl (by decide) h4 fun signature hsignature h5 => ?_
  refine settles_pushOf rfl (by decide) h5 fun h6 => ?_
  refine settles_anyPush rfl (by decide) h6 fun publicKey hpublicKey h7 => ?_
  refine settles_pushOf rfl (by decide) h7 fun h8 => ?_
  refine settles_anyPush rfl (by decide) h8 fun nonce hnonce h9 => ?_
  refine settles_pushOf rfl (by decide) h9 fun h10 => ?_
  rw [Attempt.chunks_bind]
  exact settles_takeChunks (e := { body := [], signature, publicKey }) (n := 0) rfl h10 hsignature
    hpublicKey rfl

theorem exists_skip_of_dropWhile (name : Bytes) {i : Nat} {rest : List Instruction}
    (h : (stream.drop i).dropWhile (fun x => x.pushed? != some bodyTag) = rest) :
    ∃ m, i ≤ m ∧ stream.drop m = rest ∧ (rest ≠ [] → MarkerAt stream m) ∧
      ∀ out, Machine name stream m out → Machine name stream i out := by
  generalize hleft : stream.drop i = left at h
  induction left generalizing i with
  | nil =>
      subst h
      exact ⟨i, Nat.le_refl i, hleft, by simp, fun _ => id⟩
  | cons x left ih =>
      have hx : stream[i]? = some x := by
        rw [← List.head?_drop, hleft]
        rfl
      have hdrop : stream.drop (i + 1) = left := by
        rw [← List.tail_drop, hleft]
        rfl
      by_cases hmarker : x.pushed? = some bodyTag
      · rw [List.dropWhile_cons_of_neg (by simp [hmarker])] at h
        subst h
        exact ⟨i, Nat.le_refl i, hleft, fun _ => by simp [MarkerAt, hx, hmarker, bodyTag],
          fun _ => id⟩
      · rw [List.dropWhile_cons_of_pos (by simpa using hmarker)] at h
        obtain ⟨m, him, hm, hnext, hskip⟩ := ih hdrop h
        refine ⟨m, by omega, hm, hnext, fun out hout => ?_⟩
        have hplain : ¬ MarkerAt stream i := by simpa [MarkerAt, hx, bodyTag] using hmarker
        exact .skip (List.getElem?_eq_some_iff.mp hx).1 hplain (hskip out hout)

/-- With a bound that is large enough, the scan comes to the result of the machine. -/
theorem machine_findWithin {bound i : Nat} (h : stream.length ≤ i + bound) :
    Machine name stream i (findWithin name bound (stream.drop i)) := by
  induction bound generalizing i with
  | zero => exact .off h
  | succ bound ih =>
      rw [findWithin]
      split
      · rename_i hnone
        obtain ⟨m, -, hm, -, hskip⟩ := exists_skip_of_dropWhile name hnone
        exact hskip none (.off (List.drop_eq_nil_iff.mp hm))
      · rename_i x rest hsome
        obtain ⟨m, him, hm, hmarker, hskip⟩ := exists_skip_of_dropWhile name hsome
        have hdrop : rest = stream.drop (m + 1) := by
          rw [← List.tail_drop, hm]
          rfl
        subst hdrop
        refine hskip _ ?_
        have hmarker : MarkerAt stream m := hmarker (by simp)
        have hsettles := settles_afterMarker name stream (m + 1)
        split
        · rename_i e _ hrun
          rw [hrun] at hsettles
          obtain ⟨n, hmatch⟩ := hsettles
          exact .stop hmarker hmatch
        · rename_i rest hrun
          rw [hrun] at hsettles
          obtain ⟨j, hmismatch, rfl⟩ := hsettles
          obtain ⟨k, hj, -⟩ := id hmismatch
          exact .resume hmarker hmismatch (ih (by omega))

theorem find?_eq_iff_machine {out : Option Envelope} :
    find? name stream = out ↔ Machine name stream 0 out := by
  have hmachine : Machine name stream 0 (find? name stream) :=
    machine_findWithin (i := 0) (by simp)
  constructor
  · rintro rfl
    exact hmachine
  · intro h
    exact hmachine.unique h

theorem exists_fullMatch_of_machine {i : Nat} {e : Envelope}
    (h : Machine name stream i (some e)) :
    ∃ m n, i ≤ m ∧ MarkerAt stream m ∧ FullMatch name stream (m + 1) n e := by
  generalize hout : some e = out at h
  induction h with
  | off => cases hout
  | skip hi hplain hrest ih =>
      obtain ⟨m, n, him, hm⟩ := ih hout
      exact ⟨m, n, by omega, hm⟩
  | @stop i n e' hmarker hmatch =>
      cases hout
      exact ⟨i, n, Nat.le_refl i, hmarker, hmatch⟩
  | resume hmarker hmismatch hrest ih =>
      obtain ⟨m, n, him, hm⟩ := ih hout
      obtain ⟨k, rfl, -⟩ := hmismatch
      exact ⟨m, n, by omega, hm⟩

/-- Reading a script gives an envelope exactly when the machine stops with it, and fails exactly
when the machine runs off the end. An envelope that is read has all its instructions in a row. -/
theorem ofScript_eq_iff_machine (script : Bytes) (rollup : String) :
    (∀ e, ofScript script rollup = .ok e ↔
      Machine (Bytes.ofText rollup) (Script.instructions script) 0 (some e)) ∧
    (∀ error, ofScript script rollup = .error error ↔
      error = .noEnvelope rollup ∧
        Machine (Bytes.ofText rollup) (Script.instructions script) 0 none) ∧
    ∀ e, ofScript script rollup = .ok e →
      ∃ i n, MarkerAt (Script.instructions script) i ∧
        FullMatch (Bytes.ofText rollup) (Script.instructions script) (i + 1) n e := by
  have hok : ∀ e, ofScript script rollup = .ok e ↔
      Machine (Bytes.ofText rollup) (Script.instructions script) 0 (some e) := by
    intro e
    rw [← find?_eq_iff_machine, ofScript]
    cases find? (Bytes.ofText rollup) (Script.instructions script) with
    | none => simp
    | some found => simp
  refine ⟨hok, ?_, ?_⟩
  · intro error
    rw [← find?_eq_iff_machine, ofScript]
    cases find? (Bytes.ofText rollup) (Script.instructions script) with
    | none => simp [eq_comm]
    | some found => simp
  · intro e he
    obtain ⟨i, n, -, hmatch⟩ := exists_fullMatch_of_machine ((hok e).mp he)
    exact ⟨i, n, hmatch⟩

/-- An empty push in front of an envelope: the match that starts there takes the empty push that
opens the envelope with it, and the machine runs off the end. Alone, the envelope is read. -/
theorem ofScript_eq_iff_machine_overlap :
    let script : Bytes :=
      [0, 0x63, 1, 1, 1, 0x72, 1, 2, 1, 5, 1, 3, 1, 6, 1, 4, 0, 0, 2, 7, 8, 1, 9, 0x68]
    let e : Envelope := ⟨[7, 8, 9], [5], [6]⟩
    (ofScript (0 :: script) "r" = .error (.noEnvelope "r") ∧
      Machine (Bytes.ofText "r") (Script.instructions (0 :: script)) 0 none) ∧
    (ofScript script "r" = .ok e ∧
      Machine (Bytes.ofText "r") (Script.instructions script) 0 (some e)) ∧
    ∃ i n, MarkerAt (Script.instructions script) i ∧
      FullMatch (Bytes.ofText "r") (Script.instructions script) (i + 1) n e := by
  intro script e
  have herror : ofScript (0 :: script) "r" = .error (.noEnvelope "r") := by decide +kernel
  have hok : ofScript script "r" = .ok e := by decide +kernel
  obtain ⟨-, herrors, -⟩ := ofScript_eq_iff_machine (0 :: script) "r"
  obtain ⟨hoks, -, hmatch⟩ := ofScript_eq_iff_machine script "r"
  exact ⟨⟨herror, ((herrors _).mp herror).2⟩, ⟨hok, (hoks e).mp hok⟩, hmatch e hok⟩

end BlobInscription.Envelope
