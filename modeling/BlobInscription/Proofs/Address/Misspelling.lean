import BlobInscription.Proofs.Address.Codec
import BlobInscription.Proofs.Text.Case

/-!
A segwit address in which one character after the separator is another one is no address. What the
change adds to the residue is shifted through the rest of the checksum and never vanishes, and it
never is the difference of the two residues that addresses may leave.
-/

namespace BlobInscription.Segwit

open Traversal

section Residues

variable {chk v w count : Nat} {pre post : List Nat}

/-- A step that shifts in nothing loses nothing, since the generators differ in their last five
bits. -/
theorem step_zero_ne_zero (hlt : chk < 2 ^ 30) (hne : chk ≠ 0) : step chk 0 ≠ 0 := by
  have hgenerators : ∀ top : Fin 32,
      generatorSum (top : Nat) 0 generators % 32 = 0 → top = 0 := by
    decide
  have htop : chk / 2 ^ 25 < 32 := by omega
  intro hzero
  rw [step, Nat.xor_zero, Nat.xor_eq_zero_iff] at hzero
  have hlast : generatorSum (chk / 2 ^ 25 : Nat) 0 generators % 32 = 0 := by
    rw [← hzero, Nat.mul_mod_left]
  have hnothing := hgenerators ⟨chk / 2 ^ 25, htop⟩ hlast
  rw [Fin.ext_iff] at hnothing
  change chk / 2 ^ 25 = 0 at hnothing
  rw [hnothing] at hzero
  have hempty : generatorSum (0 : Nat) 0 generators = 0 := by decide
  rw [hempty] at hzero
  omega

theorem foldl_zeros_ne_zero (count : Nat) (hlt : chk < 2 ^ 30) (hne : chk ≠ 0) :
    (List.replicate count 0).foldl step chk ≠ 0 := by
  induction count generalizing chk with
  | zero => exact hne
  | succ count ih =>
      exact ih (step_lt chk (Nat.two_pow_pos 30)) (step_zero_ne_zero hlt hne)

/-- None of the states that up to `count` zeros lead to is the given one. -/
def avoids (target : Nat) : (count chk : Nat) → Bool
  | 0, chk => chk != target
  | count + 1, chk => chk != target && avoids target count (step chk 0)

theorem foldl_zeros_ne {target limit : Nat} (h : avoids target limit chk = true)
    (hcount : count ≤ limit) : (List.replicate count 0).foldl step chk ≠ target := by
  induction limit generalizing chk count with
  | zero =>
      obtain rfl : count = 0 := Nat.le_zero.mp hcount
      simpa [avoids] using h
  | succ limit ih =>
      rw [avoids, Bool.and_eq_true, bne_iff_ne] at h
      cases count with
      | zero => exact h.1
      | succ count =>
          rw [List.replicate_succ, List.foldl_cons]
          exact ih h.2 (Nat.le_of_succ_le_succ hcount)

theorem residue_cases (version : Nat) :
    residue version = residue 0 ∨ residue version = residue 1 := by
  unfold residue residueFor
  by_cases h : (1 : Int) ≤ version
  · right
    rw [if_pos h]
    rfl
  · left
    rw [if_neg h]
    rfl

/-- One changed group of five bits never changes the residue by the difference between the residues
of two versions, whether these are the same or not. -/
theorem foldl_zeros_ne_residues (hlt : chk < 32) (hne : chk ≠ 0) (hcount : count ≤ 90)
    (version version' : Nat) :
    (List.replicate count 0).foldl step chk ≠ residue version ^^^ residue version' := by
  have hall : ∀ e : Fin 31, avoids (residue 0 ^^^ residue 1) 90 (e + 1) = true := by
    decide +kernel
  have havoids : avoids (residue 0 ^^^ residue 1) 90 chk = true := by
    have h := hall ⟨chk - 1, by omega⟩
    rwa [show chk - 1 + 1 = chk by omega] at h
  have hsame := foldl_zeros_ne_zero count (by omega : chk < 2 ^ 30) hne
  have hdiffer := foldl_zeros_ne havoids hcount
  rcases residue_cases version with h | h
  · rcases residue_cases version' with h' | h'
    · rwa [h, h', Nat.xor_self]
    · rwa [h, h']
  · rcases residue_cases version' with h' | h'
    · rwa [h, h', Nat.xor_comm]
    · rwa [h, h', Nat.xor_self]

theorem foldl_step_changed (hv : v < 32) (hw : w < 32) (pre post : List Nat) (chk : Nat) :
    (pre ++ v :: post).foldl step chk ^^^ (pre ++ w :: post).foldl step chk =
      (List.replicate post.length 0).foldl step (v ^^^ w) := by
  have hzeros : List.zipWith (· ^^^ ·) post post = List.replicate post.length 0 := by simp
  have hchange : ∀ a, step a v ^^^ step a w = v ^^^ w := by
    intro a
    have hsmall := step_of_small (by decide : 0 < 2 ^ 25) (Nat.xor_lt_two_pow (n := 5) hv hw)
    rw [← step_xor, Nat.xor_self, hsmall, Nat.zero_mul, Nat.zero_add]
  rw [List.foldl_append, List.foldl_append, List.foldl_cons, List.foldl_cons,
    ← foldl_step_xor rfl, hzeros, hchange]

theorem residue_ne_of_changed {version version' : Nat} (hv : v < 32) (hw : w < 32) (hvw : v ≠ w)
    (hlength : post.length ≤ 90) (h : (pre ++ v :: post).foldl step 1 = residue version) :
    (pre ++ w :: post).foldl step 1 ≠ residue version' := by
  have hxor : v ^^^ w ≠ 0 := by rwa [ne_eq, Nat.xor_eq_zero_iff]
  intro h'
  have hchanged := foldl_step_changed hv hw pre post 1
  rw [h, h'] at hchanged
  exact foldl_zeros_ne_residues (Nat.xor_lt_two_pow (n := 5) hv hw) hxor hlength version version'
    hchanged.symm

end Residues

section Texts

variable {front back human : List Char} {c c' : Char} {vs : List Nat} {version : Int}
  {groups : List Int} {r : Int}

theorem toLower_eq_one_iff : c.toLower = '1' ↔ c = '1' := by
  constructor
  · intro h
    by_cases hascii : c.toNat < 128
    · exact Text.of_forall_ascii (P := fun c => c.toLower = '1' → c = '1') (by decide) hascii h
    · rwa [Text.toLower_of_not_ascii hascii] at h
  · rintro rfl
    rfl

theorem exists_split_of_symbols
    (h : vs.mapM (fun v => alphabet[v]?) = some (front ++ c :: back)) :
    ∃ pre v post, vs = pre ++ v :: post ∧ pre.mapM (fun v => alphabet[v]?) = some front ∧
      alphabet[v]? = some c ∧ post.mapM (fun v => alphabet[v]?) = some back := by
  simp only [mapM_eq_some_iff] at h ⊢
  have hpre := List.forall₂_take_append vs front (c :: back) h
  have hrest := List.forall₂_drop_append vs front (c :: back) h
  obtain ⟨v, post, hv, hpost, hdrop⟩ := List.forall₂_cons_right_iff.mp hrest
  refine ⟨vs.take front.length, v, post, ?_, hpre, hv, hpost⟩
  rw [← hdrop, List.take_append_drop]

theorem symbols_append_cons {pre post : List Nat} {v : Nat}
    (hpre : pre.mapM (fun v => alphabet[v]?) = some front) (hv : alphabet[v]? = some c)
    (hpost : post.mapM (fun v => alphabet[v]?) = some back) :
    (pre ++ v :: post).mapM (fun v => alphabet[v]?) = some (front ++ c :: back) := by
  simp [List.mapM_append, hpre, hv, hpost]

theorem exists_before_symbol {symbols : List Char}
    (h : front ++ c :: back = human ++ '1' :: symbols) (hlast : '1' ∉ c :: back) :
    ∃ before, front = human ++ '1' :: before ∧ symbols = before ++ c :: back := by
  rcases List.append_eq_append_iff.mp h with ⟨rest, hhuman, hrest⟩ | ⟨rest, hfront, hrest⟩
  · rw [hrest] at hlast
    simp at hlast
  · cases rest with
    | nil =>
        rw [List.nil_append, List.cons.injEq] at hrest
        rw [hrest.1] at hlast
        simp at hlast
    | cons d before =>
        rw [List.cons_append, List.cons.injEq] at hrest
        obtain ⟨rfl, hsymbols⟩ := hrest
        exact ⟨before, hfront, hsymbols⟩

theorem decodeParts_mixed {text : List Char} (h : ¬ Uniform text) :
    decodeParts text = .error .mixedCase := by
  rw [decodeParts, if_pos (mixed_iff.mpr h)]

theorem ascii_of_toLower_mem (h : c.toLower ∈ alphabet) : c.toNat < 128 := by
  have hall : alphabet.all (fun d => d.toNat < 128) = true := by decide
  by_contra hascii
  rw [Text.toLower_of_not_ascii hascii] at h
  exact hascii (of_decide_eq_true (List.all_eq_true.mp hall c h))

theorem decodeParts_around_iff {values : List Int}
    (hascii : ∀ d ∈ front ++ c :: back, d.toNat < 128) (hlast : '1' ∉ c :: back) :
    decodeParts (front ++ c :: back) = .ok (human, values, r) ↔
      Uniform (front ++ c :: back) ∧ human ≠ [] ∧ front.length + back.length < 90 ∧
      ∃ before, ∃ pre post : List Nat, ∃ v, front.map Char.toLower = human ++ '1' :: before ∧
        pre.mapM (fun v => alphabet[v]?) = some before ∧ alphabet[v]? = some c.toLower ∧
        post.mapM (fun v => alphabet[v]?) = some (back.map Char.toLower) ∧
        5 ≤ pre.length + post.length ∧
        values = ((pre ++ v :: post).take (pre.length + post.length - 5)).map Nat.cast ∧
        r = ((expanded human ++ pre ++ v :: post).foldl step 1 : Nat) := by
  have hlow := Text.lowerChars_of_ascii hascii
  rw [List.map_append, List.map_cons] at hlow
  have hlast' : '1' ∉ (c :: back).map Char.toLower := by
    rw [List.mem_map]
    rintro ⟨d, hd, hone⟩
    rw [toLower_eq_one_iff.mp hone] at hd
    exact hlast hd
  have hcount : ∀ (pre post : List Nat) (v : Nat),
      (pre ++ v :: post).length - 6 = pre.length + post.length - 5 := by
    intro pre post v
    rw [List.length_append, List.length_cons]
    omega
  rw [decodeParts_eq_ok_iff, hlow]
  constructor
  · rintro ⟨huniform, hhuman, hlength, symbols, vs, htext, hvalues, hsix, rfl, rfl⟩
    obtain ⟨before, hfront, rfl⟩ := exists_before_symbol htext hlast'
    obtain ⟨pre, v, post, rfl, hpre, hv, hpost⟩ := exists_split_of_symbols hvalues
    simp only [List.length_append, List.length_cons, List.length_map] at hlength hsix
    refine ⟨huniform, hhuman, by omega, before, pre, post, v, hfront, hpre, hv, hpost, by omega, ?_,
      ?_⟩
    · rw [hcount]
    · rw [List.append_assoc]
  · rintro ⟨huniform, hhuman, hlength, before, pre, post, v, hfront, hpre, hv, hpost, hfive, rfl,
      rfl⟩
    refine ⟨huniform, hhuman, ?_, _, _, ?_, symbols_append_cons hpre hv hpost, ?_, ?_, ?_⟩
    · simp only [List.length_append, List.length_cons, List.length_map]
      omega
    · rw [hfront, List.append_assoc, List.cons_append]
    · rw [List.length_append, List.length_cons]
      omega
    · rw [hcount]
    · rw [List.append_assoc]

theorem exists_versions {pre post : List Nat} {v w count : Nat}
    (h : version :: groups = ((pre ++ v :: post).take count).map Nat.cast) :
    ∃ n n' : Nat, ∃ groups', version = n ∧ (pre ++ w :: post).take count = n' :: groups' := by
  cases count with
  | zero => cases h
  | succ count =>
      cases pre with
      | nil => exact ⟨v, w, _, (List.cons.inj h).1, rfl⟩
      | cons first pre => exact ⟨first, first, _, (List.cons.inj h).1, rfl⟩

/-- A text with another symbol is refused for mixing cases, or what it leaves is not the residue of
the version that it shows. -/
theorem decodeParts_changed (hascii : ∀ d ∈ front ++ c :: back, d.toNat < 128)
    (h : decodeParts (front ++ c :: back) = .ok (human, version :: groups, residueFor version))
    (hlast : '1' ∉ c :: back) (hmem : c'.toLower ∈ alphabet) (hne : c'.toLower ≠ c.toLower) :
    decodeParts (front ++ c' :: back) = .error .mixedCase ∨
      ∃ version' groups' r', decodeParts (front ++ c' :: back) =
        .ok (human, version' :: groups', r') ∧ r' ≠ residueFor version' := by
  by_cases huniform : Uniform (front ++ c' :: back)
  · right
    have hascii' : ∀ d ∈ front ++ c' :: back, d.toNat < 128 := by
      simp only [List.forall_mem_append, List.forall_mem_cons] at hascii ⊢
      exact ⟨hascii.1, ascii_of_toLower_mem hmem, hascii.2.2⟩
    have hlast' : '1' ∉ c' :: back := by
      have hone : '1'.toLower ∉ alphabet := by decide
      rw [List.mem_cons, not_or] at hlast ⊢
      exact ⟨fun heq => hone (heq ▸ hmem), hlast.2⟩
    obtain ⟨-, hhuman, hlength, before, pre, post, v, hfront, hpre, hv, hpost, hfive, hvalues,
      hresidue⟩ := (decodeParts_around_iff hascii hlast).mp h
    obtain ⟨w, hw⟩ := List.mem_iff_getElem?.mp hmem
    have hvw : v ≠ w := by
      rintro rfl
      exact hne (Option.some.inj (hw.symm.trans hv))
    have hlt := lt_of_symbols (symbols_append_cons hpre hv hpost)
    have hlt' := lt_of_symbols (symbols_append_cons hpre hw hpost)
    -- The text is no longer than an address, so few values follow the changed one.
    have hcount : post.length ≤ 90 := by
      have hsymbols := (mapM_eq_some_iff.mp hpost).length_eq
      rw [List.length_map] at hsymbols
      omega
    obtain ⟨n, n', groups', rfl, hgiven⟩ := exists_versions (w := w) hvalues
    refine ⟨n', groups'.map Nat.cast, _, (decodeParts_around_iff hascii' hlast').mpr
      ⟨huniform, hhuman, hlength, before, pre, post, w, hfront, hpre, hw, hpost, hfive, ?_, rfl⟩,
      ?_⟩
    · rw [hgiven, List.map_cons]
    · rw [residueFor_natCast, Int.natCast_inj] at hresidue
      rw [residueFor_natCast, ne_eq, Int.natCast_inj]
      exact residue_ne_of_changed (hlt v (by simp)) (hlt' w (by simp)) hvw hcount hresidue.symm
  · left
    exact decodeParts_mixed huniform

theorem decode_of_residue_ne {text : String}
    (h : decodeParts text.toList = .ok (human, version :: groups, r))
    (hr : r ≠ residueFor version) :
    decode text = .error .segwitChecksum ∨
      16 < version.toNat ∧ decode text = .error (.witnessVersion version.toNat) := by
  rw [decode, h]
  by_cases hversion : 16 < version
  · right
    refine ⟨by omega, ?_⟩
    simp [bind, Except.bind, throw, throwThe, MonadExceptOf.throw, hversion]
  · left
    simp [bind, Except.bind, throw, throwThe, MonadExceptOf.throw, hversion, hr]

end Texts

/-- A segwit address of ASCII characters with one symbol after the last separator replaced by
another one, be it that of the version, one of the program or one of the checksum, is refused: for
its checksum, for a version that does not exist, or for mixing cases. -/
theorem decode_misspelled {text : String} {d : Decoded} {front back : List Char} {c c' : Char}
    (hascii : ∀ x ∈ text.toList, x.toNat < 128) (h : decode text = .ok d)
    (htext : text.toList = front ++ c :: back) (hlast : '1' ∉ c :: back)
    (hmem : c'.toLower ∈ alphabet) (hne : c'.toLower ≠ c.toLower) :
    ∃ e, decode (String.ofList (front ++ c' :: back)) = .error e ∧
      (e = .segwitChecksum ∨ (∃ version, 16 < version ∧ e = .witnessVersion version) ∨
        e = .mixedCase) := by
  obtain ⟨human, version, groups, program, hparts, -⟩ := decode_eq_ok.mp h
  rw [htext] at hascii hparts
  have hchanged := decodeParts_changed hascii hparts hlast hmem hne
  rw [← String.toList_ofList (l := front ++ c' :: back)] at hchanged
  rcases hchanged with hmixed | ⟨version', groups', r', hparts', hr'⟩
  · refine ⟨.mixedCase, ?_, .inr (.inr rfl)⟩
    rw [decode, hmixed]
    rfl
  · rcases decode_of_residue_ne hparts' hr' with hchecksum | ⟨hversion, hrefused⟩
    · exact ⟨_, hchecksum, .inl rfl⟩
    · exact ⟨_, hrefused, .inr (.inl ⟨_, hversion, rfl⟩)⟩

theorem decode_misspelled_version :
    let hash : Bytes := [0x75, 0x1e, 0x76, 0xe8, 0x19, 0x91, 0x96, 0xd4, 0x54, 0x94, 0x1c, 0x45,
      0xd1, 0xb3, 0xa3, 0x23, 0xf1, 0x43, 0x3b, 0xd6]
    decode "BC1QW508D6QEJXTDG4Y5R3ZARVARY0C5XW7KV8F3T4" = .ok ⟨"bc", 0, hash⟩ ∧
      ∃ e, decode "BC1PW508D6QEJXTDG4Y5R3ZARVARY0C5XW7KV8F3T4" = .error e := by
  intro hash
  have haddress : decode "BC1QW508D6QEJXTDG4Y5R3ZARVARY0C5XW7KV8F3T4" = .ok ⟨"bc", 0, hash⟩ := by
    decide +kernel
  have hparts : "BC1QW508D6QEJXTDG4Y5R3ZARVARY0C5XW7KV8F3T4".toList =
      "BC1".toList ++ 'Q' :: "W508D6QEJXTDG4Y5R3ZARVARY0C5XW7KV8F3T4".toList := by
    decide
  have hall : "BC1QW508D6QEJXTDG4Y5R3ZARVARY0C5XW7KV8F3T4".toList.all (fun x => x.toNat < 128) =
      true := by
    decide
  have hascii : ∀ x ∈ "BC1QW508D6QEJXTDG4Y5R3ZARVARY0C5XW7KV8F3T4".toList, x.toNat < 128 :=
    fun x hx => of_decide_eq_true (List.all_eq_true.mp hall x hx)
  have hsymbol : 'P'.toLower ∈ alphabet := by decide
  obtain ⟨e, he, -⟩ := decode_misspelled hascii haddress hparts (by decide) hsymbol (by decide)
  exact ⟨haddress, e, he⟩

end BlobInscription.Segwit
