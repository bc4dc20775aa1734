import BlobInscription.Text.Blank
import BlobInscription.Text.Case
import Mathlib.Data.List.Basic

namespace BlobInscription.Text

variable {text : List Char}

/-- What a character becomes between those before it, of which the last comes first, and those
after it. -/
def lowerAt (before : List Char) (c : Char) (after : List Char) : List Char :=
  if c = 'Σ' then
    if startsCased before && !startsCased after then ['ς'] else ['σ']
  else lowerChar c

theorem lowerFrom_cons {before rest done : List Char} {c : Char} :
    lowerFrom before (c :: rest) done =
      lowerFrom (c :: before) rest ((lowerAt before c rest).reverse ++ done) :=
  rfl

theorem all_lowerChars {p q : Char → Bool}
    (h : ∀ before c after, (lowerAt before c after).all p = q c) (text : List Char) :
    (lowerChars text).all p = text.all q := by
  have hfrom : ∀ before done, (lowerFrom before text done).all p = (done.all p && text.all q) := by
    induction text with
    | nil =>
        intro before done
        rw [lowerFrom, List.all_reverse, List.all_nil, Bool.and_true]
    | cons c rest ih =>
        intro before done
        rw [lowerFrom_cons, ih, List.all_append, List.all_reverse, h, List.all_cons,
          Bool.and_comm (q c), Bool.and_assoc]
  rw [lowerChars, hfrom, List.all_nil, Bool.true_and]

section LowAscii

/-- An ASCII character that is no capital letter. -/
def IsLowAscii (c : Char) : Prop :=
  c.toNat < 128 ∧ ¬ (65 ≤ c.toNat ∧ c.toNat ≤ 90)

instance (c : Char) : Decidable (IsLowAscii c) :=
  inferInstanceAs (Decidable (_ ∧ _))

theorem of_forall_ascii {P : Char → Prop} (h : ∀ n : Fin 128, P (Char.ofNat n)) {c : Char}
    (hc : c.toNat < 128) : P c := by
  have hn := h ⟨c.toNat, hc⟩
  rwa [Char.ofNat_toNat] at hn

theorem toLower_of_not_ascii {c : Char} (h : ¬ c.toNat < 128) : c.toLower = c := by
  have hle : ¬ c.val ≤ 'Z'.val := by
    intro hle
    have hnat : c.val.toNat ≤ 90 := hle
    exact h (Nat.lt_of_le_of_lt hnat (by decide))
  exact dif_neg fun hletter => hle hletter.2

theorem lowerAt_of_ascii {c : Char} (hc : c.toNat < 128) (before after : List Char) :
    lowerAt before c after = [c.toLower] := by
  have h := of_forall_ascii (P := fun c => c ≠ 'Σ' ∧ lowerChar c = [c.toLower]) (by decide) hc
  rw [lowerAt, if_neg h.1, h.2]

theorem lowerChars_of_ascii (h : ∀ c ∈ text, c.toNat < 128) :
    lowerChars text = text.map Char.toLower := by
  have hfrom : ∀ before done, lowerFrom before text done =
      done.reverse ++ text.map Char.toLower := by
    induction text with
    | nil => simp [lowerFrom]
    | cons c rest ih =>
        rw [List.forall_mem_cons] at h
        intro before done
        rw [lowerFrom_cons, ih h.2, lowerAt_of_ascii h.1]
        simp
  exact hfrom [] []

theorem cases_of_isLowAscii {c : Char} (h : IsLowAscii c) :
    c.toLower = c ∧ c.toUpper.toNat < 128 ∧ c.toUpper.toLower = c ∧
      changesUnderUpper c.toUpper = false := by
  exact of_forall_ascii (P := fun c => IsLowAscii c → c.toLower = c ∧ c.toUpper.toNat < 128 ∧
    c.toUpper.toLower = c ∧ changesUnderUpper c.toUpper = false) (by decide) h.1 h

theorem lowerChars_of_low (h : ∀ c ∈ text, IsLowAscii c) : lowerChars text = text := by
  have hmap : text.map Char.toLower = text.map id :=
    List.map_congr_left fun c hc => (cases_of_isLowAscii (h c hc)).1
  rw [lowerChars_of_ascii fun c hc => (h c hc).1, hmap, List.map_id]

theorem lowerChars_map_toUpper (h : ∀ c ∈ text, IsLowAscii c) :
    lowerChars (text.map Char.toUpper) = text := by
  have hascii : ∀ c ∈ text.map Char.toUpper, c.toNat < 128 := by
    simp only [List.mem_map, forall_exists_index, and_imp]
    rintro _ c hc rfl
    exact (cases_of_isLowAscii (h c hc)).2.1
  have hmap : text.map (Char.toLower ∘ Char.toUpper) = text.map id :=
    List.map_congr_left fun c hc => (cases_of_isLowAscii (h c hc)).2.2.1
  rw [lowerChars_of_ascii hascii, List.map_map, hmap, List.map_id]

theorem isUpperForm_map_toUpper (h : ∀ c ∈ text, IsLowAscii c) :
    isUpperForm (text.map Char.toUpper) = true := by
  rw [isUpperForm, Bool.not_eq_true', List.any_eq_false]
  simp only [List.mem_map, forall_exists_index, and_imp]
  rintro _ c hc rfl
  simp [(cases_of_isLowAscii (h c hc)).2.2.2]

end LowAscii

theorem stripChars_eq_self (h : ∀ c ∈ text, isBlank c = false) : stripChars text = text := by
  have hdrop : ∀ {chars : List Char}, (∀ c ∈ chars, isBlank c = false) →
      chars.dropWhile isBlank = chars := by
    intro chars hchars
    cases chars with
    | nil => rfl
    | cons c rest => exact List.dropWhile_cons_of_neg (by simp [hchars c])
  rw [stripChars, stripWhere, hdrop h, hdrop (by simpa using h), List.reverse_reverse]

end BlobInscription.Text
