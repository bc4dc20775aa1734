import BlobInscription.Address.Base58
import BlobInscription.Bytes.Lemmas
import BlobInscription.Proofs.Traversal
import Mathlib.Data.List.GetD
import Mathlib.Data.Nat.Digits.Lemmas

namespace BlobInscription.Base58

open Traversal

section Numerals

variable {b n count : Nat} {ds : List Nat}

theorem takeWhile_zeros_append_digits (b count n : Nat) :
    (List.replicate count 0 ++ (Nat.digits b n).reverse).takeWhile (· = 0) =
      List.replicate count 0 := by
  have hdigits : (Nat.digits b n).reverse.takeWhile (· = 0) = [] := by
    cases hreverse : (Nat.digits b n).reverse with
    | nil => rfl
    | cons d ds =>
        have hnil : Nat.digits b n ≠ [] := by
          rw [ne_eq, ← List.reverse_eq_nil_iff, hreverse]
          exact List.cons_ne_nil d ds
        have hlast := Nat.getLast_digit_ne_zero b (Nat.digits_ne_nil_iff_ne_zero.mp hnil)
        have hd : (Nat.digits b n).getLast hnil = d := by
          rw [List.getLast_eq_head_reverse]
          simp [hreverse]
        rw [hd] at hlast
        exact List.takeWhile_cons_of_neg (by simpa using hlast)
  rw [List.takeWhile_append_of_pos (by simp), hdigits, List.append_nil]

theorem eq_zeros_append_digits_iff (hb : 1 < b) (h : ∀ d ∈ ds, d < b) :
    ds = List.replicate count 0 ++ (Nat.digits b n).reverse ↔
      (ds.takeWhile (· = 0)).length = count ∧ Nat.ofDigits b ds.reverse = n := by
  constructor
  · rintro rfl
    rw [takeWhile_zeros_append_digits, List.length_replicate, List.reverse_append,
      List.reverse_reverse, List.reverse_replicate, Nat.ofDigits_append_replicate_zero,
      Nat.ofDigits_digits]
    exact ⟨rfl, rfl⟩
  · rintro ⟨rfl, rfl⟩
    induction ds with
    | nil => simp
    | cons d ds ih =>
        by_cases hd : d = 0
        · subst hd
          rw [List.forall_mem_cons] at h
          rw [List.takeWhile_cons_of_pos (by simp), List.length_cons, List.replicate_succ,
            Nat.ofDigits_reverse_zero_cons, List.cons_append, ← ih h.2]
        · have hlast : ∀ hne : (d :: ds).reverse ≠ [], (d :: ds).reverse.getLast hne ≠ 0 := by
            simpa using hd
          have hlt : ∀ d' ∈ (d :: ds).reverse, d' < b :=
            fun d' hd' => h d' (List.mem_reverse.mp hd')
          rw [Nat.digits_ofDigits b hb _ hlt hlast, List.takeWhile_cons_of_neg (by simpa using hd)]
          simp

theorem foldl_eq_ofDigits (b : Nat) (ds : List Nat) :
    ds.foldl (fun n d => b * n + d) 0 = Nat.ofDigits b ds.reverse := by
  rw [Nat.ofDigits_eq_foldr, List.foldr_reverse]
  congr 1
  funext n d
  exact Nat.add_comm (b * n) d

end Numerals

section ByteStrings

variable {bytes : Bytes} {n count : Nat}

theorem toNatBE_eq_ofDigits (bytes : Bytes) :
    Bytes.toNatBE bytes = Nat.ofDigits 256 (bytes.map UInt8.toNat).reverse := by
  rw [← foldl_eq_ofDigits, List.foldl_map]
  rfl

theorem ofNatLE_length_digits (n : Nat) :
    Bytes.ofNatLE (Nat.digits 256 n).length n = (Nat.digits 256 n).map UInt8.ofNat := by
  induction n using Nat.strong_induction_on with
  | _ n ih =>
      rcases Nat.eq_zero_or_pos n with rfl | hpos
      · simp [Bytes.ofNatLE]
      · have hlast : UInt8.ofNat (n % 256) = UInt8.ofNat n := by
          apply UInt8.toNat_inj.mp
          rw [UInt8.toNat_ofNat', UInt8.toNat_ofNat', Nat.mod_mod]
        rw [Nat.digits_def' (by decide) hpos, List.length_cons, Bytes.ofNatLE,
          ih (n / 256) (by omega), List.map_cons, hlast]

theorem minimalBytes_eq (n : Nat) :
    minimalBytes n = (Nat.digits 256 n).reverse.map UInt8.ofNat := by
  rw [minimalBytes]
  split
  · rename_i hzero
    simp [hzero]
  · rename_i hzero
    have hwidth : n.log2 / 8 + 1 = (Nat.digits 256 n).length := by
      rw [Nat.length_digits 256 n (by decide) hzero, Nat.log2_eq_log_two,
        show 256 = 2 ^ 8 from rfl, Nat.log_pow_left]
    rw [hwidth, Bytes.ofNatBE, ofNatLE_length_digits, List.map_reverse]

theorem toNat_minimalBytes (n : Nat) :
    (minimalBytes n).map UInt8.toNat = (Nat.digits 256 n).reverse := by
  have hround : ∀ d ∈ (Nat.digits 256 n).reverse, (UInt8.ofNat d).toNat = d := by
    intro d hd
    have hlt := Nat.digits_lt_base (by decide) (List.mem_reverse.mp hd)
    rw [UInt8.toNat_ofNat', Nat.mod_eq_of_lt hlt]
  rw [minimalBytes_eq, List.map_map]
  exact (List.map_congr_left hround).trans (List.map_id _)

theorem eq_zeros_append_minimalBytes_iff :
    bytes = List.replicate count 0 ++ minimalBytes n ↔
      (bytes.takeWhile (· = 0)).length = count ∧ Bytes.toNatBE bytes = n := by
  have hinjective := List.map_injective_iff.mpr fun _ _ => UInt8.toNat_inj.mp
  have hzero : (fun d : Nat => decide (d = 0)) ∘ UInt8.toNat = fun byte => decide (byte = 0) := by
    funext byte
    exact decide_eq_decide.mpr (UInt8.toNat_inj (b := 0))
  have hlt : ∀ d ∈ bytes.map UInt8.toNat, d < 256 := by
    intro d hd
    obtain ⟨byte, -, rfl⟩ := List.mem_map.mp hd
    exact byte.toNat_lt
  rw [toNatBE_eq_ofDigits, ← hzero, ← List.length_map UInt8.toNat, ← List.takeWhile_map,
    ← eq_zeros_append_digits_iff (by decide) hlt, ← hinjective.eq_iff, List.map_append,
    List.map_replicate, toNat_minimalBytes]
  rfl

end ByteStrings

section Texts

variable {c : Char} {chars : List Char} {ds : List Nat} {d n count : Nat}

def symbol (d : Nat) : Char :=
  alphabet.getD d '1'

/-- The digits of a number in base 58, the highest first; zero has none. -/
def numeral (n : Nat) : List Char :=
  (Nat.digits 58 n).reverse.map symbol

theorem idxOf?_eq_some_iff : alphabet.idxOf? c = some d ↔ d < 58 ∧ symbol d = c := by
  have hall : ∀ d : Fin 58, alphabet.idxOf? (symbol d) = some d.val := by decide
  constructor
  · intro h
    obtain ⟨hd, hc, -⟩ := List.idxOf?_eq_some_iff.mp h
    refine ⟨hd, ?_⟩
    rw [symbol, List.getD_eq_getElem _ _ hd, hc]
  · rintro ⟨hd, rfl⟩
    exact hall ⟨d, hd⟩

theorem mapM_idxOf?_iff : chars.mapM (fun c => alphabet.idxOf? c) = some ds ↔
    (∀ d ∈ ds, d < 58) ∧ ds.map symbol = chars := by
  rw [mapM_eq_some_iff]
  constructor
  · intro h
    induction h with
    | nil => simp
    | cons hc _ ih =>
        obtain ⟨hd, rfl⟩ := idxOf?_eq_some_iff.mp hc
        rw [List.forall_mem_cons, List.map_cons, ih.2]
        exact ⟨⟨hd, ih.1⟩, rfl⟩
  · rintro ⟨hlt, rfl⟩
    induction ds with
    | nil => exact .nil
    | cons d ds ih =>
        rw [List.forall_mem_cons] at hlt
        exact .cons (idxOf?_eq_some_iff.mpr ⟨hlt.1, rfl⟩) (ih hlt.2)

theorem readNumber_eq_ok_iff {start : Nat} : readNumber chars start = .ok n ↔
    ∃ ds, chars.mapM (fun c => alphabet.idxOf? c) = some ds ∧
      ds.foldl (fun n d => 58 * n + d) start = n := by
  induction chars generalizing start with
  | nil => simp [readNumber]
  | cons c chars ih =>
      rw [readNumber, List.mapM_cons]
      cases hc : alphabet.idxOf? c with
      | none => simp
      | some d =>
          simp only [ih, Option.bind_eq_bind, Option.bind_some]
          cases chars.mapM fun c => alphabet.idxOf? c with
          | none => simp
          | some ds => simp

theorem takeWhile_symbols (h : ∀ d ∈ ds, d < 58) :
    ((ds.map symbol).takeWhile (· = '1')).length = (ds.takeWhile (· = 0)).length := by
  have hone : ∀ d : Fin 58, symbol d = '1' ↔ d.val = 0 := by decide
  induction ds with
  | nil => rfl
  | cons d ds ih =>
      rw [List.forall_mem_cons] at h
      by_cases hzero : d = 0
      · have hd := (hone ⟨d, h.1⟩).mpr hzero
        rw [List.map_cons, List.takeWhile_cons_of_pos (by simpa using hd),
          List.takeWhile_cons_of_pos (by simpa using hzero), List.length_cons, List.length_cons,
          ih h.2]
      · have hd : symbol d ≠ '1' := fun heq => hzero ((hone ⟨d, h.1⟩).mp heq)
        rw [List.map_cons, List.takeWhile_cons_of_neg (by simpa using hd),
          List.takeWhile_cons_of_neg (by simpa using hzero)]
        rfl

theorem eq_ones_append_numeral_iff :
    chars = List.replicate count '1' ++ numeral n ↔
      (chars.takeWhile (· = '1')).length = count ∧ readNumber chars 0 = .ok n := by
  have hones : List.replicate count '1' ++ numeral n =
      (List.replicate count 0 ++ (Nat.digits 58 n).reverse).map symbol := by
    rw [List.map_append, List.map_replicate]
    rfl
  rw [hones, readNumber_eq_ok_iff]
  constructor
  · rintro rfl
    have hlt : ∀ d ∈ List.replicate count 0 ++ (Nat.digits 58 n).reverse, d < 58 := by
      intro d hd
      rcases List.mem_append.mp hd with hd | hd
      · rw [List.eq_of_mem_replicate hd]
        decide
      · exact Nat.digits_lt_base (by decide) (List.mem_reverse.mp hd)
    obtain ⟨hcount, hnumber⟩ := (eq_zeros_append_digits_iff (by decide) hlt).mp rfl
    refine ⟨(takeWhile_symbols hlt).trans hcount, _, mapM_idxOf?_iff.mpr ⟨hlt, rfl⟩, ?_⟩
    rw [foldl_eq_ofDigits, hnumber]
  · rintro ⟨hcount, ds, hds, hnumber⟩
    obtain ⟨hlt, rfl⟩ := mapM_idxOf?_iff.mp hds
    rw [takeWhile_symbols hlt] at hcount
    rw [foldl_eq_ofDigits] at hnumber
    rw [← (eq_zeros_append_digits_iff (by decide) hlt).mpr ⟨hcount, hnumber⟩]

end Texts

section Check

variable {text : String} {body raw : Bytes} {chars : List Char}

/-- The text of a body: the numeral of the body and its checksum, behind a one for each zero byte at
the front. -/
def encodeCheck (body : Bytes) : String :=
  let raw := body ++ checksum body
  String.ofList (List.replicate (raw.takeWhile (· = 0)).length '1' ++ numeral (Bytes.toNatBE raw))

theorem length_checksum (body : Bytes) : (checksum body).length = 4 := by
  rw [checksum, List.length_take, Sha256.length_double]
  rfl

theorem exists_readNumber_iff :
    (∃ n, readNumber chars 0 = .ok n ∧
      List.replicate (chars.takeWhile (· = '1')).length 0 ++ minimalBytes n = raw) ↔
    chars = List.replicate (raw.takeWhile (· = 0)).length '1' ++ numeral (Bytes.toNatBE raw) := by
  rw [eq_ones_append_numeral_iff]
  constructor
  · rintro ⟨n, hn, hraw⟩
    obtain ⟨hcount, hnumber⟩ := eq_zeros_append_minimalBytes_iff.mp hraw.symm
    exact ⟨hcount.symm, hnumber.symm ▸ hn⟩
  · rintro ⟨hcount, hn⟩
    exact ⟨_, hn, (eq_zeros_append_minimalBytes_iff.mpr ⟨hcount.symm, rfl⟩).symm⟩

theorem eq_append_checksum_iff : body ≠ [] ∧ raw = body ++ checksum body ↔
    ¬ raw.length < 5 ∧ checksum (raw.take (raw.length - 4)) = raw.drop (raw.length - 4) ∧
      raw.take (raw.length - 4) = body := by
  constructor
  · rintro ⟨hbody, rfl⟩
    have hpos := List.length_pos_iff.mpr hbody
    have hlength := length_checksum body
    have hrest : (body ++ checksum body).length - 4 = body.length := by
      rw [List.length_append, hlength, Nat.add_sub_cancel]
    rw [hrest, List.take_left, List.drop_left, List.length_append]
    exact ⟨by omega, rfl, rfl⟩
  · rintro ⟨hlong, hchecksum, rfl⟩
    constructor
    · rw [ne_eq, ← List.length_eq_zero_iff, List.length_take]
      omega
    · rw [hchecksum, List.take_append_drop]

theorem decodeCheck_eq_ok_iff :
    decodeCheck text = .ok body ↔ body ≠ [] ∧ text = encodeCheck body := by
  have hdecode : decodeCheck text = .ok body ↔ ∃ n, readNumber text.toList 0 = .ok n ∧
      body ≠ [] ∧ List.replicate (text.toList.takeWhile (· = '1')).length 0 ++ minimalBytes n =
        body ++ checksum body := by
    rw [decodeCheck, bind_eq_ok]
    dsimp only
    simp only [check_bind_eq_ok, eq_append_checksum_iff, not_not, pure, Except.pure,
      Except.ok.injEq]
  have hchars : text = encodeCheck body ↔ text.toList = (encodeCheck body).toList :=
    String.toList_inj.symm
  rw [hdecode, hchars, encodeCheck, String.toList_ofList, ← exists_readNumber_iff]
  simp only [← exists_and_left]
  refine exists_congr ?_
  intro n
  exact and_left_comm

/-- Base58Check texts and byte strings other than the empty one correspond one to one: the only
text that is read as a body is the numeral of the body and the first four bytes of its double hash,
behind a one for each zero byte at the front; any other text is read as another body, or refused. -/
theorem checked_texts_one_to_one (body : Bytes) (h : body ≠ []) :
    (∃! text, decodeCheck text = .ok body) ∧ decodeCheck (encodeCheck body) = .ok body ∧
    ∀ text, text ≠ encodeCheck body →
      (∃ e, decodeCheck text = .error e) ∨
        ∃ other, other ≠ body ∧ decodeCheck text = .ok other := by
  have hiff : ∀ text, decodeCheck text = .ok body ↔ text = encodeCheck body := by
    intro text
    rw [decodeCheck_eq_ok_iff, and_iff_right h]
  refine ⟨⟨encodeCheck body, (hiff _).mpr rfl, fun text htext => (hiff text).mp htext⟩,
    (hiff _).mpr rfl, ?_⟩
  intro text htext
  cases hread : decodeCheck text with
  | error e => exact .inl ⟨e, rfl⟩
  | ok other =>
      right
      refine ⟨other, ?_, rfl⟩
      rintro rfl
      exact htext ((hiff text).mp hread)

theorem checked_texts_one_to_one_zeros :
    let body : Bytes := List.replicate 21 0
    body ≠ [] ∧ encodeCheck body = "1111111111111111111114oLvT2" ∧
      ∀ text, decodeCheck text = .ok body → text = "1111111111111111111114oLvT2" := by
  intro body
  have hbody : body ≠ [] := by decide
  have hread : decodeCheck "1111111111111111111114oLvT2" = .ok body := by decide +kernel
  obtain ⟨honly, hself, -⟩ := checked_texts_one_to_one body hbody
  exact ⟨hbody, honly.unique hself hread, fun text htext => honly.unique htext hread⟩

end Check

end BlobInscription.Base58
