import BlobInscription.Bytes.Lemmas
import BlobInscription.Proofs.Text.Case

namespace BlobInscription.Bytes

def asciiBlanks : List Char := [' ', '\t', '\n', '\r', '\x0b', '\x0c']

/-- A digit of either case. -/
def IsHexDigit (c : Char) (value : Nat) : Prop :=
  value < 16 ∧ c.toLower = hexDigit value

/-- The text shows the bytes in hexadecimal. -/
inductive Shows : List Char → Bytes → Prop
  | nil : Shows [] []
  | blank {c text bytes} : c ∈ asciiBlanks → Shows text bytes → Shows (c :: text) bytes
  | byte {c d high low text bytes} : IsHexDigit c high → IsHexDigit d low → Shows text bytes →
      Shows (c :: d :: text) (UInt8.ofNat (16 * high + low) :: bytes)

variable {c : Char} {value : Nat} {text : List Char} {bytes done : Bytes}

theorem isHexBlank_iff : isHexBlank c = true ↔ c ∈ asciiBlanks := by
  simp [isHexBlank, asciiBlanks, or_assoc]

theorem hexValue?_of_not_ascii (h : ¬ c.toNat < 128) : hexValue? c = none := by
  have hbeyond : ∀ d : Char, d.toNat < 128 → ¬ c ≤ d := by
    intro d hd hle
    have hnat : c.toNat ≤ d.toNat := hle
    exact h (Nat.lt_of_le_of_lt hnat hd)
  rw [hexValue?, if_neg fun hrange => hbeyond _ (by decide) hrange.2,
    if_neg fun hrange => hbeyond _ (by decide) hrange.2,
    if_neg fun hrange => hbeyond _ (by decide) hrange.2]

theorem hexValue?_eq_some_iff : hexValue? c = some value ↔ IsHexDigit c value := by
  by_cases hc : c.toNat < 128
  · obtain ⟨hbound, hdigit⟩ := Text.of_forall_ascii
      (P := fun c => (hexValue? c).all (· < 16) = true ∧
        ∀ v : Fin 16, hexValue? c = some v.val ↔ c.toLower = hexDigit v) (by decide +kernel) hc
    constructor
    · intro h
      rw [h, Option.all_some, decide_eq_true_eq] at hbound
      exact ⟨hbound, (hdigit ⟨value, hbound⟩).mp h⟩
    · rintro ⟨hvalue, hlower⟩
      exact (hdigit ⟨value, hvalue⟩).mpr hlower
  · rw [hexValue?_of_not_ascii hc]
    refine iff_of_false nofun ?_
    rintro ⟨hvalue, hlower⟩
    have hascii : ∀ n < 16, (hexDigit n).toNat < 128 := by decide
    rw [Text.toLower_of_not_ascii hc] at hlower
    exact hc (hlower ▸ hascii value hvalue)

theorem isHexBlank_of_isHexDigit (h : IsHexDigit c value) : isHexBlank c = false := by
  have hlower : asciiBlanks.all (fun c => c.toLower == c) = true := by decide
  rw [Bool.eq_false_iff, ne_eq, isHexBlank_iff]
  intro hblank
  have hsame : c.toLower = c := beq_iff_eq.mp (List.all_eq_true.mp hlower c hblank)
  have hdigit := isHexBlank_hexDigit h.1
  rw [← h.2, hsame, isHexBlank_iff.mpr hblank] at hdigit
  cases hdigit

theorem readHex_of_shows (h : Shows text bytes) (done : Bytes) :
    readHex text done = some (done.reverse ++ bytes) := by
  induction h generalizing done with
  | nil => rw [readHex, List.append_nil]
  | blank hblank _ ih =>
      rw [readHex.eq_def]
      exact (if_pos (isHexBlank_iff.mpr hblank)).trans (ih done)
  | byte hhigh hlow _ ih =>
      have hnotBlank := isHexBlank_of_isHexDigit hhigh
      simp only [readHex, hnotBlank, Bool.false_eq_true, if_false,
        hexValue?_eq_some_iff.mpr hhigh, hexValue?_eq_some_iff.mpr hlow, ih, List.reverse_cons,
        List.append_assoc, List.singleton_append]

theorem shows_of_readHex (h : readHex text done = some bytes) :
    ∃ shown, Shows text shown ∧ bytes = done.reverse ++ shown := by
  fun_induction readHex text done with
  | case1 =>
      cases h
      exact ⟨[], .nil, (List.append_nil _).symm⟩
  | case2 _ _ _ hblank ih =>
      obtain ⟨shown, hshown, rfl⟩ := ih h
      exact ⟨shown, .blank (isHexBlank_iff.mp hblank) hshown, rfl⟩
  | case3 => cases h
  | case4 _ _ _ _ _ high low hlow hhigh ih =>
      obtain ⟨shown, hshown, rfl⟩ := ih h
      refine ⟨UInt8.ofNat (16 * high + low) :: shown, ?_, ?_⟩
      · exact .byte (hexValue?_eq_some_iff.mp hhigh) (hexValue?_eq_some_iff.mp hlow) hshown
      · rw [List.reverse_cons, List.append_assoc, List.singleton_append]
  | case5 => cases h

/-- The texts read as hexadecimal, and the bytes they are read as. -/
theorem ofHex?_eq_some_iff {text : String} :
    ofHex? text = some bytes ↔ Shows text.toList bytes := by
  rw [ofHex?]
  constructor
  · intro h
    obtain ⟨shown, hshown, rfl⟩ := shows_of_readHex h
    exact hshown
  · intro h
    exact readHex_of_shows h []

end BlobInscription.Bytes
