import BlobInscription.Address.Regroup
import Mathlib.Algebra.Order.Ring.Nat
import Mathlib.Data.List.Basic
import Mathlib.Tactic.Common
import Mathlib.Tactic.Ring

namespace BlobInscription.Regroup

/-- The lowest bits of a number, the highest of them first. -/
def bitsOf : (width n : Nat) → List Bool
  | 0, _ => []
  | width + 1, n => n.testBit width :: bitsOf width n

/-- The bits of groups of one width. -/
def bits (width : Nat) (groups : List Nat) : List Bool :=
  groups.flatMap (bitsOf width)

section Bits

variable {width a b n m v : Nat} {xs ys : List Nat}

@[simp] theorem length_bitsOf (width n : Nat) : (bitsOf width n).length = width := by
  induction width with
  | zero => rfl
  | succ width ih => rw [bitsOf, List.length_cons, ih]

@[simp] theorem length_bits (width : Nat) (groups : List Nat) :
    (bits width groups).length = width * groups.length := by
  simp [bits, List.length_flatMap, Nat.mul_comm]

@[simp] theorem bits_nil (width : Nat) : bits width [] = [] :=
  rfl

@[simp] theorem bits_cons (width n : Nat) (groups : List Nat) :
    bits width (n :: groups) = bitsOf width n ++ bits width groups :=
  rfl

@[simp] theorem bits_append (width : Nat) (xs ys : List Nat) :
    bits width (xs ++ ys) = bits width xs ++ bits width ys :=
  List.flatMap_append

theorem bitsOf_mod {limit : Nat} (h : width ≤ limit) :
    bitsOf width (n % 2 ^ limit) = bitsOf width n := by
  induction width with
  | zero => rfl
  | succ width ih =>
      rw [bitsOf, bitsOf, ih (by omega), Nat.testBit_mod_two_pow]
      simp [show width < limit by omega]

theorem bitsOf_add (a b n : Nat) : bitsOf (a + b) n = bitsOf a (n / 2 ^ b) ++ bitsOf b n := by
  induction a with
  | zero => simp [bitsOf]
  | succ a ih =>
      rw [Nat.succ_add, bitsOf, bitsOf, ih, Nat.testBit_div_two_pow, List.cons_append,
        Nat.add_comm]

theorem bitsOf_concat (h : v < 2 ^ b) :
    bitsOf (a + b) (n * 2 ^ b + v) = bitsOf a n ++ bitsOf b v := by
  have hpos : 0 < 2 ^ b := Nat.two_pow_pos b
  have hdiv : (n * 2 ^ b + v) / 2 ^ b = n := by
    rw [Nat.mul_comm, Nat.mul_add_div hpos, Nat.div_eq_of_lt h, Nat.add_zero]
  have hmod : (n * 2 ^ b + v) % 2 ^ b = v := by
    rw [Nat.mul_comm, Nat.mul_add_mod, Nat.mod_eq_of_lt h]
  rw [bitsOf_add, hdiv, ← bitsOf_mod (Nat.le_refl b), hmod]

theorem bitsOf_zero (width : Nat) : bitsOf width 0 = List.replicate width false := by
  induction width with
  | zero => rfl
  | succ width ih => simp [bitsOf, ih, List.replicate_succ]

theorem eq_of_bitsOf (hn : n < 2 ^ width) (hm : m < 2 ^ width)
    (h : bitsOf width n = bitsOf width m) : n = m := by
  have hbits : ∀ i, i < width → n.testBit i = m.testBit i := by
    clear hn hm
    induction width with
    | zero => simp
    | succ width ih =>
        rw [bitsOf, bitsOf, List.cons.injEq] at h
        intro i hi
        rcases Nat.lt_succ_iff_lt_or_eq.mp hi with hlt | rfl
        · exact ih h.2 i hlt
        · exact h.1
  apply Nat.eq_of_testBit_eq
  intro i
  rcases Nat.lt_or_ge i width with hi | hi
  · exact hbits i hi
  · have hle := Nat.pow_le_pow_right (by decide : 0 < 2) hi
    rw [Nat.testBit_lt_two_pow (by omega), Nat.testBit_lt_two_pow (by omega)]

theorem eq_of_bits (hwidth : 0 < width) (hxs : ∀ n ∈ xs, n < 2 ^ width)
    (hys : ∀ n ∈ ys, n < 2 ^ width) (h : bits width xs = bits width ys) : xs = ys := by
  induction xs generalizing ys with
  | nil =>
      have hlength := congrArg List.length h
      rw [length_bits, length_bits, List.length_nil, Nat.mul_zero, eq_comm,
        Nat.mul_eq_zero, List.length_eq_zero_iff] at hlength
      rcases hlength with hzero | rfl
      · omega
      · rfl
  | cons x xs ih =>
      cases ys with
      | nil =>
          have hlength := congrArg List.length h
          simp only [length_bits, List.length_cons, List.length_nil] at hlength
          simp at hlength
          omega
      | cons y ys =>
          rw [List.forall_mem_cons] at hxs hys
          rw [bits_cons, bits_cons] at h
          obtain ⟨hhead, htail⟩ := List.append_inj h (by simp)
          rw [eq_of_bitsOf hxs.1 hys.1 hhead, ih hxs.2 hys.2 htail]

end Bits

section Groups

variable {source target : Nat}

theorem bits_fullGroups (target acc pending : Nat) :
    bits target (fullGroups target acc pending).reverse ++ bitsOf (pending % target) acc =
      bitsOf pending acc := by
  -- The first group has the topmost bits, so the groups are taken off from the front.
  have hblocks : ∀ count rest, bits target ((List.range count).map fun i =>
      acc / 2 ^ (count * target + rest - (i + 1) * target) % 2 ^ target) ++ bitsOf rest acc =
        bitsOf (count * target + rest) acc := by
    intro count rest
    induction count with
    | zero => simp
    | succ count ih =>
        have hfirst : (count + 1) * target + rest - (0 + 1) * target = count * target + rest := by
          rw [Nat.succ_mul]
          omega
        have hwhole : (count + 1) * target + rest = target + (count * target + rest) := by
          ring
        rw [List.range_succ_eq_map, List.map_cons, bits_cons, List.append_assoc, List.map_map,
          hfirst, bitsOf_mod (Nat.le_refl target), hwhole, bitsOf_add, ← ih]
        congr! 3
        refine List.map_congr_left ?_
        intro i _
        have hlater : target + (count * target + rest) - (i + 1 + 1) * target =
            count * target + rest - (i + 1) * target := by
          rw [Nat.succ_mul (i + 1)]
          omega
        rw [Function.comp_apply, Nat.succ_eq_add_one, hlater]
  have hwhole : pending / target * target + pending % target = pending := by
    rw [Nat.mul_comm]
    exact Nat.div_add_mod pending target
  have h := hblocks (pending / target) (pending % target)
  rw [hwhole] at h
  simpa [fullGroups] using h

theorem lt_of_mem_fullGroups {acc pending g : Nat} (h : g ∈ fullGroups target acc pending) :
    g < 2 ^ target := by
  simp only [fullGroups, List.mem_reverse, List.mem_map] at h
  obtain ⟨i, -, rfl⟩ := h
  exact Nat.mod_lt _ (Nat.two_pow_pos target)

/-- What is kept of the groups read so far: their bits, in the groups written and in the bits that
are pending. -/
structure State.Holds (source target : Nat) (values : List Nat) (s : State) : Prop where
  groups_lt : ∀ g ∈ s.groups, g < 2 ^ target
  pending_lt : s.pending < target
  bits_eq : bits target s.groups.reverse ++ bitsOf s.pending s.acc = bits source values

theorem State.holds_start (htarget : 0 < target) : State.start.Holds source target [] where
  groups_lt := by simp [State.start]
  pending_lt := htarget
  bits_eq := rfl

theorem State.Holds.add {s : State} {values : List Nat} {value : Nat}
    (h : s.Holds source target values) (hvalue : value < 2 ^ source) :
    (s.add source target value).Holds source target (values ++ [value]) where
  groups_lt := by
    intro g hg
    rcases List.mem_append.mp hg with hg | hg
    · exact lt_of_mem_fullGroups hg
    · exact h.groups_lt g hg
  pending_lt := Nat.mod_lt _ (Nat.lt_of_le_of_lt (Nat.zero_le _) h.pending_lt)
  bits_eq := by
    have hpending := h.pending_lt
    simp only [State.add, Nat.pow_eq, List.reverse_append, bits_append, List.append_assoc]
    rw [bits_fullGroups, bitsOf_mod (by omega), bitsOf_concat hvalue, ← List.append_assoc,
      h.bits_eq, bits_cons, bits_nil, List.append_nil]

theorem addAll_eq_some_iff {values : List Int} {s s' : State} :
    addAll source target values s = some s' ↔
      ∃ ns : List Nat, values = ns.map Nat.cast ∧ (∀ n ∈ ns, n < 2 ^ source) ∧
        ns.foldl (State.add source target) s = s' := by
  induction values generalizing s with
  | nil => simp [addAll]
  | cons value values ih =>
      rw [addAll, Nat.pow_eq]
      split
      · rename_i hvalue
        obtain ⟨n, rfl⟩ := Int.eq_ofNat_of_zero_le hvalue.1
        have hlt : n < 2 ^ source := by exact_mod_cast hvalue.2
        rw [ih]
        constructor
        · rintro ⟨ns, rfl, hns, hs⟩
          exact ⟨n :: ns, rfl, List.forall_mem_cons.mpr ⟨hlt, hns⟩, hs⟩
        · rintro ⟨ns, hcons, hns, hs⟩
          cases ns with
          | nil => cases hcons
          | cons m ns =>
              rw [List.map_cons, List.cons.injEq, Int.natCast_inj] at hcons
              obtain ⟨rfl, rfl⟩ := hcons
              exact ⟨ns, rfl, (List.forall_mem_cons.mp hns).2, hs⟩
      · rename_i hvalue
        simp only [reduceCtorEq, false_iff]
        rintro ⟨ns, hcons, hns, -⟩
        cases ns with
        | nil => cases hcons
        | cons m ns =>
            rw [List.map_cons, List.cons.injEq] at hcons
            have hm := (List.forall_mem_cons.mp hns).1
            refine hvalue ⟨by omega, ?_⟩
            rw [hcons.1]
            exact_mod_cast hm

theorem State.Holds.foldl {s : State} {values later : List Nat}
    (h : s.Holds source target values) (hlater : ∀ n ∈ later, n < 2 ^ source) :
    (later.foldl (State.add source target) s).Holds source target (values ++ later) := by
  induction later generalizing s values with
  | nil => simpa using h
  | cons n later ih =>
      rw [List.forall_mem_cons] at hlater
      have hrest := ih (h.add hlater.1) hlater.2
      rwa [List.append_assoc] at hrest

variable {values out : List Nat}

theorem exists_addAll (htarget : 0 < target) (hvalues : ∀ n ∈ values, n < 2 ^ source) :
    ∃ s : State, addAll source target (values.map Nat.cast) .start = some s ∧
      s.Holds source target values :=
  ⟨_, addAll_eq_some_iff.mpr ⟨values, rfl, hvalues, rfl⟩, (State.holds_start htarget).foldl hvalues⟩

theorem State.lastGroup_lt (target : Nat) (s : State) : s.lastGroup target < 2 ^ target :=
  Nat.mod_lt _ (Nat.two_pow_pos target)

theorem State.bitsOf_lastGroup {s : State} (h : s.pending < target) :
    bitsOf target (s.lastGroup target) =
      bitsOf s.pending s.acc ++ List.replicate (target - s.pending) false := by
  have hwidth : target = s.pending + (target - s.pending) := by omega
  have hconcat : bitsOf (s.pending + (target - s.pending)) (s.acc * 2 ^ (target - s.pending) + 0) =
      bitsOf s.pending s.acc ++ bitsOf (target - s.pending) 0 :=
    bitsOf_concat (Nat.two_pow_pos _)
  rw [lastGroup, Nat.pow_eq, Nat.pow_eq, bitsOf_mod (Nat.le_refl target), ← bitsOf_zero, ← hconcat,
    ← hwidth, Nat.add_zero]

theorem eq_of_mul_add {n m p q : Nat} (hp : p < target) (hq : q < target)
    (h : target * n + p = target * m + q) : n = m ∧ p = q := by
  have hdiv := congrArg (· / target) h
  have hmod := congrArg (· % target) h
  simp only [Nat.mul_add_mod, Nat.mod_eq_of_lt hp, Nat.mod_eq_of_lt hq] at hmod
  simp only [Nat.mul_add_div (by omega : 0 < target), Nat.div_eq_of_lt hp,
    Nat.div_eq_of_lt hq, Nat.add_zero] at hdiv
  exact ⟨hdiv, hmod⟩

theorem eq_of_padded {xs ys : List Nat} {p q : Nat} {given : List Bool}
    (hxs : ∀ g ∈ xs, g < 2 ^ target) (hys : ∀ g ∈ ys, g < 2 ^ target) (hp : p < target)
    (hq : q < target) (hx : bits target xs = given ++ List.replicate p false)
    (hy : bits target ys = given ++ List.replicate q false) : xs = ys := by
  have hxlength := congrArg List.length hx
  have hylength := congrArg List.length hy
  simp only [length_bits, List.length_append, List.length_replicate] at hxlength hylength
  obtain ⟨-, rfl⟩ : ys.length = xs.length ∧ p = q := eq_of_mul_add hp hq (by omega)
  exact eq_of_bits (by omega) hxs hys (hx.trans hy.symm)

theorem exists_padded (htarget : 0 < target) (hvalues : ∀ n ∈ values, n < 2 ^ source) :
    ∃ out, regroup? source target true (values.map Nat.cast) = some out ∧
      (∀ g ∈ out, g < 2 ^ target) ∧
        ∃ p < target, bits target out = bits source values ++ List.replicate p false := by
  obtain ⟨s, hs, hholds⟩ := exists_addAll htarget hvalues
  have hbits := hholds.bits_eq
  rw [regroup?, hs]
  by_cases hpending : s.pending = 0
  · refine ⟨s.groups.reverse, by simp [hpending], ?_, 0, htarget, ?_⟩
    · simpa using hholds.groups_lt
    · rw [← hbits, hpending, bitsOf]
      simp
  · refine ⟨(s.lastGroup target :: s.groups).reverse, by simp [hpending], ?_,
      target - s.pending, by omega, ?_⟩
    · simp only [List.mem_reverse, List.forall_mem_cons]
      exact ⟨s.lastGroup_lt target, hholds.groups_lt⟩
    · rw [List.reverse_cons, bits_append, bits_cons, bits_nil, List.append_nil,
        State.bitsOf_lastGroup hholds.pending_lt, ← List.append_assoc, hbits]

/-- With padding, the groups hold the same bits and then less than one group of zeros. -/
theorem regroup?_pad_iff (htarget : 0 < target) (hvalues : ∀ n ∈ values, n < 2 ^ source) :
    regroup? source target true (values.map Nat.cast) = some out ↔
      (∀ g ∈ out, g < 2 ^ target) ∧
        ∃ p < target, bits target out = bits source values ++ List.replicate p false := by
  obtain ⟨out', hout', hlt', p', hp', hbits'⟩ := exists_padded htarget hvalues
  rw [hout', Option.some.injEq]
  constructor
  · rintro rfl
    exact ⟨hlt', p', hp', hbits'⟩
  · rintro ⟨hlt, p, hp, hbits⟩
    exact eq_of_padded hlt' hlt hp' hp hbits' hbits

theorem State.lastGroup_eq_zero_iff {s : State} (h : s.pending < target) :
    s.lastGroup target = 0 ↔ bitsOf s.pending s.acc = List.replicate s.pending false := by
  have hlast := bitsOf_lastGroup h
  constructor
  · intro hzero
    rw [hzero, bitsOf_zero] at hlast
    have htake := congrArg (List.take s.pending) hlast
    rw [List.take_replicate, Nat.min_eq_left h.le, List.take_left' (length_bitsOf _ _)] at htake
    exact htake.symm
  · intro hzeros
    rw [hzeros, List.replicate_append_replicate, Nat.add_sub_cancel' h.le, ← bitsOf_zero] at hlast
    exact eq_of_bitsOf (s.lastGroup_lt target) (Nat.two_pow_pos target) hlast

/-- Without padding, what is left over are zeros, and less than one group of either width. -/
theorem regroup?_exact_iff (htarget : 0 < target) (hvalues : ∀ n ∈ values, n < 2 ^ source) :
    regroup? source target false (values.map Nat.cast) = some out ↔
      (∀ g ∈ out, g < 2 ^ target) ∧
        ∃ r, r < target ∧ r < source ∧
          bits source values = bits target out ++ List.replicate r false := by
  obtain ⟨s, hs, hholds⟩ := exists_addAll htarget hvalues
  have hbits := hholds.bits_eq
  have hrun : regroup? source target false (values.map Nat.cast) = some out ↔
      s.pending < source ∧ s.lastGroup target = 0 ∧ s.groups.reverse = out := by
    rw [regroup?, hs]
    simp only [Option.bind_eq_bind, Option.bind_some, Bool.false_eq_true, if_false]
    split
    · rename_i hrest
      simp only [reduceCtorEq, false_iff]
      omega
    · rename_i hrest
      rw [not_or, not_le, not_not] at hrest
      simp [hrest]
  rw [hrun, State.lastGroup_eq_zero_iff hholds.pending_lt]
  constructor
  · rintro ⟨hsource, hzeros, rfl⟩
    refine ⟨by simpa using hholds.groups_lt, s.pending, hholds.pending_lt, hsource, ?_⟩
    rw [← hzeros, hbits]
  · rintro ⟨hlt, r, hr, hsource, hout⟩
    rw [hout] at hbits
    have hlength := congrArg List.length hbits
    simp only [List.length_append, length_bits, length_bitsOf, List.length_replicate] at hlength
    obtain ⟨hcount, hpending⟩ := eq_of_mul_add hholds.pending_lt hr hlength
    obtain ⟨hgroups, hzeros⟩ := List.append_inj hbits (by simpa using congrArg (target * ·) hcount)
    refine ⟨by omega, by rw [hzeros, hpending], ?_⟩
    exact eq_of_bits htarget (by simpa using hholds.groups_lt) hlt hgroups

end Groups

end BlobInscription.Regroup
