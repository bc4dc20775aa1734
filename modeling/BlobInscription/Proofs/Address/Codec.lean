import BlobInscription.Address
import BlobInscription.Proofs.Address.Checksum
import BlobInscription.Proofs.Address.Regroup
import BlobInscription.Proofs.Traversal
import Mathlib.Data.List.Nodup

namespace BlobInscription.Segwit

open Regroup (bits regroup?)
open Traversal

section Symbols

theorem length_alphabet : alphabet.length = 32 := by
  decide

theorem nodup_alphabet : alphabet.Nodup := by
  decide

theorem idxOf?_alphabet_iff {c : Char} {i : Nat} :
    alphabet.idxOf? c = some i ↔ alphabet[i]? = some c := by
  rw [List.idxOf?_eq_some_iff, List.getElem?_eq_some_iff]
  constructor
  · rintro ⟨hi, hc, -⟩
    exact ⟨hi, hc⟩
  · rintro ⟨hi, hc⟩
    refine ⟨hi, hc, ?_⟩
    intro j hj heq
    have hsame := nodup_alphabet.getElem_inj_iff.mp (heq.trans hc.symm)
    omega

theorem mapM_idxOf?_iff {symbols : List Char} {values : List Nat} :
    symbols.mapM (fun c => alphabet.idxOf? c) = some values ↔
      values.mapM (fun v => alphabet[v]?) = some symbols := by
  rw [mapM_eq_some_iff, mapM_eq_some_iff]
  constructor
  · intro h
    exact (h.imp fun _ _ hc => idxOf?_alphabet_iff.mp hc).flip
  · intro h
    exact (h.imp fun _ _ hc => idxOf?_alphabet_iff.mpr hc).flip

theorem symbol?_natCast (v : Nat) : symbol? (v : Int) = alphabet[v]? := by
  rw [symbol?, if_neg (by omega), Int.toNat_natCast]

theorem exists_symbols {values : List Nat} (h : ∀ v ∈ values, v < 32) :
    ∃ symbols, values.mapM (fun v => alphabet[v]?) = some symbols := by
  induction values with
  | nil => exact ⟨[], rfl⟩
  | cons v values ih =>
      rw [List.forall_mem_cons] at h
      obtain ⟨symbols, hsymbols⟩ := ih h.2
      have hv : v < alphabet.length := length_alphabet.symm ▸ h.1
      refine ⟨alphabet[v] :: symbols, ?_⟩
      rw [List.mapM_cons, List.getElem?_eq_getElem, hsymbols]
      rfl

theorem mem_alphabet_of_symbols {values : List Nat} {symbols : List Char}
    (h : values.mapM (fun v => alphabet[v]?) = some symbols) : ∀ c ∈ symbols, c ∈ alphabet := by
  rw [mapM_eq_some_iff] at h
  induction h with
  | nil => simp
  | cons hc _ ih => exact List.forall_mem_cons.mpr ⟨List.mem_of_getElem? hc, ih⟩

theorem lt_of_symbols {values : List Nat} {symbols : List Char}
    (h : values.mapM (fun v => alphabet[v]?) = some symbols) : ∀ v ∈ values, v < 32 := by
  rw [mapM_eq_some_iff] at h
  induction h with
  | nil => simp
  | cons hc _ ih =>
      obtain ⟨hv, -⟩ := List.getElem?_eq_some_iff.mp hc
      rw [length_alphabet] at hv
      exact List.forall_mem_cons.mpr ⟨hv, ih⟩

theorem not_mem_symbols {values : List Nat} {symbols : List Char}
    (h : values.mapM (fun v => alphabet[v]?) = some symbols) : '1' ∉ symbols := by
  have hone : '1' ∉ alphabet := by decide
  exact fun hmem => hone (mem_alphabet_of_symbols h '1' hmem)

end Symbols

section Separator

theorem splitAtSeparator?_eq_some_iff {text human symbols : List Char} :
    splitAtSeparator? text = some (human, symbols) ↔
      text = human ++ '1' :: symbols ∧ '1' ∉ symbols := by
  constructor
  · intro h
    rw [splitAtSeparator?] at h
    split at h
    · cases h
    · rename_i c rest hrest
      cases h
      -- The search runs backwards, and what it stops at is the last separator.
      have hsplit : text.reverse.takeWhile (· ≠ '1') ++ c :: rest = text.reverse := by
        rw [← hrest, List.takeWhile_append_dropWhile]
      have hc : c = '1' := by
        have hhead := List.head?_dropWhile_not (· ≠ '1') text.reverse
        rw [hrest] at hhead
        simpa using hhead
      subst hc
      constructor
      · calc
          text = (text.reverse.takeWhile (· ≠ '1') ++ '1' :: rest).reverse := by
            rw [hsplit, List.reverse_reverse]
          _ = _ := by simp
      · intro hmem
        rw [List.mem_reverse] at hmem
        have hall := List.all_eq_true.mp (List.all_takeWhile (p := (· ≠ '1'))) _ hmem
        simp at hall
  · rintro ⟨rfl, hsymbols⟩
    have hall : ∀ c ∈ symbols.reverse, decide (c ≠ '1') = true := by
      intro c hc
      rw [List.mem_reverse] at hc
      rw [decide_eq_true_eq]
      rintro rfl
      exact hsymbols hc
    rw [splitAtSeparator?]
    simp only [List.reverse_append, List.reverse_cons, List.append_assoc, List.singleton_append]
    rw [List.dropWhile_append_of_pos hall, List.takeWhile_append_of_pos hall]
    simp

end Separator

/-- The values of a human-readable part as natural numbers. -/
def expanded (human : List Char) : List Nat :=
  human.map (fun c => c.toNat / 32) ++ 0 :: human.map fun c => c.toNat % 32

theorem expandHumanPart_eq (human : List Char) :
    expandHumanPart human = (expanded human).map Nat.cast := by
  simp [expandHumanPart, expanded, Function.comp_def]

theorem lt_of_mem_expanded {human : List Char} {v : Nat} (h : v ∈ expanded human) : v < 2 ^ 30 := by
  have hchar : ∀ c : Char, c.toNat < 2 ^ 32 := fun c => c.val.toNat_lt
  simp only [expanded, List.mem_append, List.mem_cons, List.mem_map] at h
  rcases h with ⟨c, -, rfl⟩ | rfl | ⟨c, -, rfl⟩
  · have hc := hchar c
    omega
  · decide
  · omega

/-- The residue of addresses of a version as a natural number. -/
def residue (version : Nat) : Nat :=
  (residueFor version).toNat

theorem residueFor_natCast (version : Nat) : residueFor version = (residue version : Int) := by
  unfold residue residueFor
  split
  · rfl
  · rfl

theorem residue_lt (version : Nat) : residue version < 2 ^ 30 := by
  unfold residue residueFor
  split
  · decide
  · decide

theorem checksum_eq (human : List Char) (values : List Nat) (version : Nat) :
    checksum human (values.map Nat.cast) (residueFor version) =
      (digits (residue version ^^^
        (expanded human ++ values ++ List.replicate 6 0).foldl step 1)).map Nat.cast := by
  have hzeros : (List.replicate 6 0 : List Int) = (List.replicate 6 0 : List Nat).map Nat.cast := by
    simp
  rw [checksum, expandHumanPart_eq, hzeros, ← List.map_append, ← List.map_append, polymod_natCast,
    residueFor_natCast]
  simp only [Int.toNat_natCast, digits, List.map_map]
  refine List.map_congr_left ?_
  intro shift _
  change ((residue version ^^^ _ : Nat) : Int) / (Nat.pow 2 shift : Nat) % 32 = _
  rw [Nat.pow_eq]
  norm_cast

section Encoding

variable {human text symbols : List Char} {version : Nat} {program : Bytes} {groups : List Nat}

theorem lt_of_mem_bytes (program : Bytes) : ∀ n ∈ program.map UInt8.toNat, n < 2 ^ 8 := by
  intro n hn
  obtain ⟨b, -, rfl⟩ := List.mem_map.mp hn
  exact b.toNat_lt

theorem exists_groups (program : Bytes) :
    ∃ groups, regroup? 8 5 true (program.map fun b => (b.toNat : Int)) = some groups ∧
      ∀ g ∈ groups, g < 32 := by
  obtain ⟨groups, hgroups, hlt, -⟩ :=
    Regroup.exists_padded (by decide : 0 < 5) (lt_of_mem_bytes program)
  rw [List.map_map] at hgroups
  exact ⟨groups, hgroups, hlt⟩

/-- The checksum of groups under a human-readable part. -/
def checkOf (human : List Char) (version : Nat) (groups : List Nat) : List Nat :=
  digits (residue version ^^^
    (expanded human ++ (version :: groups) ++ List.replicate 6 0).foldl step 1)

theorem residue_iff {check : List Nat} (hversion : version < 32) (hgroups : ∀ g ∈ groups, g < 32)
    (hlength : check.length = 6) (hcheck : ∀ v ∈ check, v < 32) :
    (expanded human ++ (version :: groups) ++ check).foldl step 1 = residue version ↔
      check = checkOf human version groups := by
  have hgiven : ∀ v ∈ expanded human ++ (version :: groups), v < 2 ^ 30 := by
    intro v hv
    rcases List.mem_append.mp hv with hv | hv
    · exact lt_of_mem_expanded hv
    · have hsmall : ∀ v ∈ version :: groups, v < 32 := List.forall_mem_cons.mpr ⟨hversion, hgroups⟩
      have hlt := hsmall v hv
      omega
  have hstate : (expanded human ++ (version :: groups)).foldl step 1 < 2 ^ 30 :=
    foldl_step_lt (by decide) hgiven
  have hfold : ∀ last : List Nat, (expanded human ++ (version :: groups) ++ last).foldl step 1 =
      last.foldl step ((expanded human ++ (version :: groups)).foldl step 1) :=
    fun last => List.foldl_append
  rw [checkOf, hfold, hfold]
  exact foldl_step_eq_iff hlength hcheck hstate (residue_lt version)

theorem encode_eq_ok
    (hgroups : regroup? 8 5 true (program.map fun b => (b.toNat : Int)) = some groups)
    (hsymbols : (version :: groups ++ checkOf human version groups).mapM (fun v => alphabet[v]?) =
      some symbols) :
    encode (String.ofList human) version program =
      .ok (String.ofList (human ++ '1' :: symbols)) := by
  have hvalues : (version : Int) :: groups.map Int.ofNat = (version :: groups).map Nat.cast := rfl
  have hsymbol : (symbol? ∘ Nat.cast : Nat → Option Char) = fun v => alphabet[v]? :=
    funext symbol?_natCast
  rw [encode, hgroups]
  simp only [String.toList_ofList, hvalues, checksum_eq, ← List.map_append, List.mapM_map, hsymbol]
  rw [← checkOf, hsymbols]

/-- The text spells the witness program under the human-readable part: its symbols are those of the
version, of the program in groups of five bits, and of six values that make the residue come out. -/
def Spells (human : List Char) (version : Nat) (program : Bytes) (text : List Char) : Prop :=
  ∃ groups check : List Nat, ∃ symbols,
    regroup? 8 5 true (program.map fun b => (b.toNat : Int)) = some groups ∧
    check.length = 6 ∧ (∀ v ∈ check, v < 32) ∧
    (expanded human ++ (version :: groups) ++ check).foldl step 1 = residue version ∧
    (version :: groups ++ check).mapM (fun v => alphabet[v]?) = some symbols ∧
    text = human ++ '1' :: symbols

theorem exists_spells (human : List Char) (program : Bytes) (hversion : version < 32) :
    ∃ text, Spells human version program text := by
  obtain ⟨groups, hgroups, hlt⟩ := exists_groups program
  have hlength : (checkOf human version groups).length = 6 := rfl
  have hcheck : ∀ v ∈ checkOf human version groups, v < 32 := fun v hv => digits_lt hv
  have hvalues : ∀ v ∈ version :: groups ++ checkOf human version groups, v < 32 :=
    List.forall_mem_append.mpr ⟨List.forall_mem_cons.mpr ⟨hversion, hlt⟩, hcheck⟩
  obtain ⟨symbols, hsymbols⟩ := exists_symbols hvalues
  exact ⟨_, groups, _, symbols, hgroups, hlength, hcheck,
    (residue_iff hversion hlt hlength hcheck).mpr rfl, hsymbols, rfl⟩

theorem encode_of_spells (hversion : version < 32) (h : Spells human version program text) :
    encode (String.ofList human) version program = .ok (String.ofList text) := by
  obtain ⟨groups, check, symbols, hgroups, hlength, hcheck, hresidue, hsymbols, rfl⟩ := h
  have hlt : ∀ g ∈ groups, g < 32 := by
    intro g hg
    exact lt_of_symbols hsymbols g (by simp [hg])
  rw [residue_iff hversion hlt hlength hcheck] at hresidue
  rw [hresidue] at hsymbols
  exact encode_eq_ok hgroups hsymbols

end Encoding

/-- The lengths that programs of a version may have. -/
def Valid (version : Nat) (program : Bytes) : Prop :=
  version = 0 ∧ (program.length = 20 ∨ program.length = 32) ∨
    (1 ≤ version ∧ version ≤ 16) ∧ 2 ≤ program.length ∧ program.length ≤ 40

section Decoding

variable {text human : List Char}

/-- The text does not mix cases. -/
def Uniform (text : List Char) : Prop :=
  Text.lowerChars text = text ∨ Text.isUpperForm text = true

theorem mixed_iff : Text.lowerChars text ≠ text ∧ (!Text.isUpperForm text) = true ↔
    ¬ Uniform text := by
  simp [Uniform, not_or]

theorem decodeParts_eq_ok_iff {values : List Int} {r : Int} :
    decodeParts text = .ok (human, values, r) ↔
      Uniform text ∧ human ≠ [] ∧ (Text.lowerChars text).length ≤ 90 ∧
      ∃ symbols, ∃ vs : List Nat, Text.lowerChars text = human ++ '1' :: symbols ∧
        vs.mapM (fun v => alphabet[v]?) = some symbols ∧ 6 ≤ vs.length ∧
        values = (vs.take (vs.length - 6)).map Nat.cast ∧
        r = ((expanded human ++ vs).foldl step 1 : Nat) := by
  have hpolymod : ∀ vs : List Nat, polymod (expandHumanPart human ++ vs.map Int.ofNat) =
      ((expanded human ++ vs).foldl step 1 : Nat) := by
    intro vs
    rw [← polymod_natCast, List.map_append, expandHumanPart_eq]
    rfl
  constructor
  · intro h
    unfold decodeParts at h
    split at h
    · cases h
    · rename_i huniform
      rw [mixed_iff, Classical.not_not] at huniform
      dsimp only at h
      split at h
      · cases h
      · rename_i human' symbols hsplit
        split at h
        · cases h
        · rename_i hlengths
          split at h
          · cases h
          · rename_i vs hvs
            simp only [Except.ok.injEq, Prod.mk.injEq] at h
            obtain ⟨rfl, rfl, rfl⟩ := h
            have hvalues := mapM_idxOf?_iff.mp hvs
            have hlength := (mapM_eq_some_iff.mp hvalues).length_eq
            simp only [not_or, List.isEmpty_iff, not_lt] at hlengths
            refine ⟨huniform, hlengths.1, hlengths.2.2, symbols, vs,
              (splitAtSeparator?_eq_some_iff.mp hsplit).1, hvalues, by omega, ?_, hpolymod vs⟩
            rw [List.map_take, List.length_map]
            rfl
  · rintro ⟨huniform, hhuman, hlength, symbols, vs, htext, hvalues, hsix, rfl, rfl⟩
    have hsplit := splitAtSeparator?_eq_some_iff.mpr ⟨htext, not_mem_symbols hvalues⟩
    have hsymbols := (mapM_eq_some_iff.mp hvalues).length_eq
    have hmixed : ¬ (Text.lowerChars text ≠ text ∧ (!Text.isUpperForm text) = true) := by
      rw [mixed_iff, Classical.not_not]
      exact huniform
    simp only [decodeParts, hsplit, mapM_idxOf?_iff.mpr hvalues, hpolymod]
    have hlengths : ¬ (human.isEmpty = true ∨ symbols.length < 6 ∨
        90 < (Text.lowerChars text).length) := by
      simp only [not_or, List.isEmpty_iff, not_lt]
      exact ⟨hhuman, by omega, hlength⟩
    rw [if_neg hmixed, if_neg hlengths, List.map_take, List.length_map]
    rfl

theorem decode_eq_ok {text : String} {d : Decoded} :
    decode text = .ok d ↔ ∃ human version groups program,
      decodeParts text.toList = .ok (human, version :: groups, residueFor version) ∧
      version ≤ 16 ∧ regroup? 5 8 false groups = some program ∧
      2 ≤ program.length ∧ program.length ≤ 40 ∧
      (version = 0 → program.length = 20 ∨ program.length = 32) ∧
      d = ⟨String.ofList human, version.toNat, program.map UInt8.ofNat⟩ := by
  rw [decode, bind_eq_ok]
  constructor
  · rintro ⟨⟨human, values, r⟩, hparts, h⟩
    dsimp only at h
    split at h
    · cases h
    · rename_i version groups
      simp only [check_bind_eq_ok] at h
      obtain ⟨hversion, hresidue, h⟩ := h
      rw [Decidable.not_not] at hresidue
      split at h
      · cases h
      · rename_i program hprogram
        simp only [check_bind_eq_ok] at h
        obtain ⟨hlength, hzero, h⟩ := h
        cases h
        rw [hresidue] at hparts
        exact ⟨human, version, groups, program, hparts, by omega, hprogram, by omega, by omega,
          by omega, rfl⟩
  · rintro ⟨human, version, groups, program, hparts, hversion, hprogram, hleast, hmost, hzero, rfl⟩
    refine ⟨_, hparts, ?_⟩
    simp only [hprogram, check_bind_eq_ok]
    exact ⟨by omega, not_not_intro rfl, by omega, by omega, rfl⟩

theorem regroup?_back_iff {groups program : List Nat} (hgroups : ∀ g ∈ groups, g < 32) :
    regroup? 5 8 false (groups.map Nat.cast) = some program ↔
      (∀ b ∈ program, b < 256) ∧ regroup? 8 5 true (program.map Nat.cast) = some groups := by
  rw [Regroup.regroup?_exact_iff (by decide) hgroups]
  constructor
  · rintro ⟨hprogram, r, -, hr, hbits⟩
    refine ⟨hprogram, ?_⟩
    rw [Regroup.regroup?_pad_iff (by decide) hprogram]
    exact ⟨hgroups, r, hr, hbits⟩
  · rintro ⟨hprogram, hregroup⟩
    rw [Regroup.regroup?_pad_iff (by decide) hprogram] at hregroup
    obtain ⟨-, r, hr, hbits⟩ := hregroup
    exact ⟨hprogram, r, by omega, hr, hbits⟩

/-- A text is an address when it is a spelling, in one case and not too long, of a program of a
valid length. -/
theorem decode_eq_ok_iff {text : String} {d : Decoded} :
    decode text = .ok d ↔
      Uniform text.toList ∧ d.human ≠ "" ∧ (Text.lowerChars text.toList).length ≤ 90 ∧
        Valid d.version d.program ∧
        Spells d.human.toList d.version d.program (Text.lowerChars text.toList) := by
  rw [decode_eq_ok]
  constructor
  · rintro ⟨human, version, groups, program, hparts, hversion, hprogram, hleast, hmost, hzero, rfl⟩
    obtain ⟨huniform, hhuman, hlength, symbols, vs, htext, hvalues, hsix, htake, hresidue⟩ :=
      decodeParts_eq_ok_iff.mp hparts
    have hlt := lt_of_symbols hvalues
    have hsplit := List.take_append_drop (vs.length - 6) vs
    -- The version is the first value, and the last six are the checksum.
    cases hgiven : vs.take (vs.length - 6) with
    | nil => simp [hgiven] at htake
    | cons v gs =>
        rw [hgiven, List.map_cons, List.cons.injEq] at htake
        obtain ⟨rfl, rfl⟩ := htake
        rw [hgiven] at hsplit
        rw [← hsplit] at hvalues hresidue hlt
        have hgs : ∀ g ∈ gs, g < 32 := by
          intro g hg
          exact hlt g (by simp [hg])
        obtain ⟨hbytes, hgroups⟩ := (regroup?_back_iff hgs).mp hprogram
        rw [residueFor_natCast, Int.natCast_inj, ← List.append_assoc] at hresidue
        refine ⟨huniform, by simpa using hhuman, hlength, ?_, gs, vs.drop (vs.length - 6), symbols,
          ?_, ?_, ?_, ?_, hvalues, ?_⟩
        · simp only [Valid, List.length_map, Int.toNat_natCast]
          omega
        · rw [List.map_map]
          rw [← hgroups]
          congr 1
          refine List.map_congr_left ?_
          intro b hb
          have hb := hbytes b hb
          simp [Nat.mod_eq_of_lt hb]
        · rw [List.length_drop]
          omega
        · intro c hc
          exact hlt c (List.mem_append_right _ hc)
        · rw [Int.toNat_natCast, String.toList_ofList]
          exact hresidue.symm
        · rw [String.toList_ofList]
          exact htext
  · rintro ⟨huniform, hhuman, hlength, hvalid, groups, check, symbols, hgroups, hsix, hcheck,
      hresidue, hsymbols, htext⟩
    have hlt := lt_of_symbols hsymbols
    have hgs : ∀ g ∈ groups, g < 32 := by
      intro g hg
      exact hlt g (by simp [hg])
    have hprogram : regroup? 5 8 false (groups.map Nat.cast) =
        some (d.program.map UInt8.toNat) := by
      rw [regroup?_back_iff hgs, List.map_map]
      exact ⟨lt_of_mem_bytes d.program, hgroups⟩
    have hparts : decodeParts text.toList =
        .ok (d.human.toList, (d.version : Int) :: groups.map Nat.cast, residueFor d.version) := by
      rw [decodeParts_eq_ok_iff]
      refine ⟨huniform, by simpa using hhuman, hlength, symbols, d.version :: groups ++ check,
        htext, hsymbols, ?_, ?_, ?_⟩
      · simp [hsix]
      · simp [hsix]
      · rw [residueFor_natCast, ← hresidue, List.append_assoc]
    refine ⟨d.human.toList, d.version, groups.map Nat.cast, d.program.map UInt8.toNat, hparts, ?_,
      hprogram, ?_, ?_, ?_, ?_⟩
    · simp only [Valid] at hvalid
      omega
    · simp only [Valid, List.length_map] at hvalid ⊢
      omega
    · simp only [Valid, List.length_map] at hvalid ⊢
      omega
    · simp only [Valid, List.length_map] at hvalid ⊢
      omega
    · simp [List.map_map, Function.comp_def]

end Decoding

end BlobInscription.Segwit
