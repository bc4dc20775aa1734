import BlobInscription.Proofs.Address.Codec
import BlobInscription.Proofs.Text.Case

namespace BlobInscription

open Text (IsLowAscii)

namespace Segwit

section Texts

variable {human text : List Char} {version : Nat} {program : Bytes}

theorem isLowAscii_of_alphabet {c : Char} (h : c ∈ alphabet) : IsLowAscii c := by
  have hall : (alphabet.all fun c => decide (IsLowAscii c)) = true := by decide
  exact of_decide_eq_true (List.all_eq_true.mp hall c h)

theorem isBlank_of_alphabet {c : Char} (h : c ∈ alphabet) : Text.isBlank c = false := by
  have hall : (alphabet.all fun c => !Text.isBlank c) = true := by decide
  simpa using List.all_eq_true.mp hall c h

theorem Spells.forall_mem {p : Char → Prop} (h : Spells human version program text)
    (hhuman : ∀ c ∈ human, p c) (hone : p '1') (halphabet : ∀ c ∈ alphabet, p c) :
    ∀ c ∈ text, p c := by
  obtain ⟨groups, check, symbols, -, -, -, -, hsymbols, rfl⟩ := h
  rw [List.forall_mem_append, List.forall_mem_cons]
  exact ⟨hhuman, hone, fun c hc => halphabet c (mem_alphabet_of_symbols hsymbols c hc)⟩

theorem Spells.isLowAscii (h : Spells human version program text)
    (hhuman : ∀ c ∈ human, IsLowAscii c) : ∀ c ∈ text, IsLowAscii c :=
  h.forall_mem hhuman (by decide) fun _ => isLowAscii_of_alphabet

theorem Spells.length_le (h : Spells human version program text) :
    5 * text.length ≤ 5 * human.length + 8 * program.length + 44 := by
  obtain ⟨groups, check, symbols, hgroups, hsix, -, -, hsymbols, rfl⟩ := h
  have hregroup : Regroup.regroup? 8 5 true ((program.map UInt8.toNat).map Nat.cast) =
      some groups := by
    rwa [List.map_map]
  obtain ⟨-, p, hp, hbits⟩ :=
    (Regroup.regroup?_pad_iff (by decide) (lt_of_mem_bytes program)).mp hregroup
  have hbits := congrArg List.length hbits
  have hlength := (Traversal.mapM_eq_some_iff.mp hsymbols).length_eq
  simp only [List.length_append, Regroup.length_bits, List.length_map, List.length_replicate]
    at hbits
  simp only [List.length_append, List.length_cons] at hlength ⊢
  omega

theorem Valid.version_lt (h : Valid version program) : version < 32 := by
  simp only [Valid] at h
  omega

theorem Valid.length_le (h : Valid version program) : program.length ≤ 40 := by
  simp only [Valid] at h
  omega

theorem decode_of_spells {given : List Char} (huniform : Uniform given)
    (hlow : Text.lowerChars given = text) (hhuman : human ≠ []) (hvalid : Valid version program)
    (h : Spells human version program text) (hlength : text.length ≤ 90) :
    decode (String.ofList given) = .ok ⟨String.ofList human, version, program⟩ := by
  rw [decode_eq_ok_iff]
  simp only [String.toList_ofList, hlow]
  exact ⟨huniform, by simpa using hhuman, hlength, hvalid, h⟩

end Texts

section Addresses

variable {human : String} {text : List Char} {version : Nat} {program : Bytes}

theorem decode_of_low (hhuman : human ≠ "") (hlow : ∀ c ∈ human.toList, IsLowAscii c)
    (hvalid : Valid version program) (h : Spells human.toList version program text)
    (hlength : text.length ≤ 90) :
    decode (String.ofList text) = .ok ⟨human, version, program⟩ := by
  have hchars := Text.lowerChars_of_low (h.isLowAscii hlow)
  have hdecode := decode_of_spells (.inl hchars) hchars (by simpa using hhuman) hvalid h hlength
  rwa [String.ofList_toList] at hdecode

theorem decode_of_upper (hhuman : human ≠ "") (hlow : ∀ c ∈ human.toList, IsLowAscii c)
    (hvalid : Valid version program) (h : Spells human.toList version program text)
    (hlength : text.length ≤ 90) :
    decode (String.ofList (text.map Char.toUpper)) = .ok ⟨human, version, program⟩ := by
  have hchars := h.isLowAscii hlow
  have hdecode := decode_of_spells (.inr (Text.isUpperForm_map_toUpper hchars))
    (Text.lowerChars_map_toUpper hchars) (by simpa using hhuman) hvalid h hlength
  rwa [String.ofList_toList] at hdecode

theorem encode_of_decode {text : String} {d : Decoded} (h : decode text = .ok d) :
    Valid d.version d.program ∧ encode d.human d.version d.program = .ok (Text.lower text) := by
  obtain ⟨-, -, -, hvalid, hspells⟩ := decode_eq_ok_iff.mp h
  have hencode := encode_of_spells hvalid.version_lt hspells
  rw [String.ofList_toList] at hencode
  exact ⟨hvalid, hencode⟩

theorem witnessScript_eq (version : Nat) (program : Bytes) :
    Address.witnessScript version program =
      (if version = 0 then 0 else UInt8.ofNat (0x50 + version)) ::
        UInt8.ofNat program.length :: program := by
  rw [Address.witnessScript]
  split
  · rfl
  · have hopcode : Opcode.one.toNat + version - 1 = 0x50 + version := by
      rw [show Opcode.one.toNat = 0x51 from rfl]
      omega
    rw [hopcode]

theorem ofText_of_spells (hmem : human ∈ ["bc", "tb", "bcrt"]) (hvalid : Valid version program)
    (h : Spells human.toList version program text) :
    Address.ofText (String.ofList text) = .ok ⟨String.ofList text, .segwit human,
      Address.witnessScript version program⟩ := by
  obtain ⟨hhuman, hshort, hall, hbeginning⟩ : human ≠ "" ∧ human.toList.length ≤ 4 ∧
      (human.toList.all fun c => decide (IsLowAscii c) && !Text.isBlank c) = true ∧
      (human ++ "1") ∈ Address.segwitBeginnings := by
    simp only [List.mem_cons, List.not_mem_nil, or_false] at hmem
    rcases hmem with rfl | rfl | rfl
    · decide
    · decide
    · decide
  have hchars : ∀ c ∈ human.toList, IsLowAscii c ∧ Text.isBlank c = false := by
    simpa using hall
  have hlow := fun c hc => (hchars c hc).1
  have hlength := h.length_le
  have hprogram := hvalid.length_le
  have hstrip : Text.strip (String.ofList text) = String.ofList text := by
    rw [Text.strip, String.toList_ofList, Text.stripChars_eq_self]
    exact h.forall_mem (fun c hc => (hchars c hc).2) (by decide) fun _ => isBlank_of_alphabet
  have hprefix : (human ++ "1").toList.isPrefixOf text = true := by
    obtain ⟨groups, check, symbols, -, -, -, -, -, rfl⟩ := h
    rw [String.toList_append, List.isPrefixOf_iff_prefix]
    exact ⟨symbols, by simp⟩
  have hany : (Address.segwitBeginnings.any fun start => start.toList.isPrefixOf text) = true :=
    List.any_eq_true.mpr ⟨_, hbeginning, hprefix⟩
  have hnonempty : (String.ofList text).isEmpty = false := by
    obtain ⟨groups, check, symbols, -, -, -, -, -, rfl⟩ := h
    simp
  -- With such short beginnings no valid program is too long for an address.
  have hdecode := decode_of_low hhuman hlow hvalid h (by omega)
  simp only [Address.ofText, hstrip, hnonempty, String.toList_ofList,
    Text.lowerChars_of_low (h.isLowAscii hlow), hany, Address.ofSegwit, hdecode]
  rfl

/-- Segwit addresses and witness programs correspond one to one: every program is read back from
its address, in lower case and in upper case, and every address that is read is that of its
program. -/
theorem codec_round_trip :
    (∀ (human : String) (version : Nat) (program : Bytes),
      human ≠ "" → (∀ c ∈ human.toList, c.toNat < 128 ∧ ¬ (65 ≤ c.toNat ∧ c.toNat ≤ 90)) →
      version = 0 ∧ (program.length = 20 ∨ program.length = 32) ∨
        (1 ≤ version ∧ version ≤ 16) ∧ 2 ≤ program.length ∧ program.length ≤ 40 →
      ∃ text : String, encode human version program = .ok text ∧
        (text.length ≤ 90 →
          decode text = .ok ⟨human, version, program⟩ ∧
          decode (text.map Char.toUpper) = .ok ⟨human, version, program⟩) ∧
        (human ∈ ["bc", "tb", "bcrt"] →
          Address.ofText text = .ok ⟨text, .segwit human,
            (if version = 0 then 0 else UInt8.ofNat (0x50 + version)) ::
              UInt8.ofNat program.length :: program⟩)) ∧
    ∀ (text : String) (d : Decoded), decode text = .ok d →
      Valid d.version d.program ∧ encode d.human d.version d.program = .ok (Text.lower text) := by
  constructor
  · intro human version program hhuman hlow hvalid
    obtain ⟨text, hspells⟩ := exists_spells human.toList program (Valid.version_lt hvalid)
    have hencode := encode_of_spells (Valid.version_lt hvalid) hspells
    rw [String.ofList_toList] at hencode
    refine ⟨String.ofList text, hencode, ?_, ?_⟩
    · intro hlength
      rw [String.length_ofList] at hlength
      have hupper := decode_of_upper hhuman hlow hvalid hspells hlength
      rw [← String.toList_ofList (l := text), ← String.toList_map, String.ofList_toList] at hupper
      exact ⟨decode_of_low hhuman hlow hvalid hspells hlength, hupper⟩
    · intro hmem
      rw [← witnessScript_eq]
      exact ofText_of_spells hmem hvalid hspells
  · intro text d
    exact encode_of_decode

theorem codec_round_trip_key_hash :
    let hash : Bytes := [0x75, 0x1e, 0x76, 0xe8, 0x19, 0x91, 0x96, 0xd4, 0x54, 0x94, 0x1c, 0x45,
      0xd1, 0xb3, 0xa3, 0x23, 0xf1, 0x43, 0x3b, 0xd6]
    let address := "bc1qw508d6qejxtdg4y5r3zarvary0c5xw7kv8f3t4"
    let shouted := "BC1QW508D6QEJXTDG4Y5R3ZARVARY0C5XW7KV8F3T4"
    encode "bc" 0 hash = .ok address ∧ decode address = .ok ⟨"bc", 0, hash⟩ ∧
      decode shouted = .ok ⟨"bc", 0, hash⟩ ∧
      Address.ofText address = .ok ⟨address, .segwit "bc", 0x00 :: 0x14 :: hash⟩ ∧
      encode "bc" 0 hash = .ok (Text.lower shouted) := by
  intro hash address shouted
  have haddress : encode "bc" 0 hash = .ok address := by decide +kernel
  have hshouted : address.map Char.toUpper = shouted := by decide +kernel
  obtain ⟨text, htext, hread, hparsed⟩ :=
    codec_round_trip.1 "bc" 0 hash (by decide) (by simp) (by decide)
  obtain rfl : address = text := Except.ok.inj (haddress.symm.trans htext)
  obtain ⟨hlower, hupper⟩ := hread (by decide)
  rw [hshouted] at hupper
  exact ⟨haddress, hlower, hupper, hparsed (by decide),
    (codec_round_trip.2 shouted _ hupper).2⟩

end Addresses

end Segwit

end BlobInscription
