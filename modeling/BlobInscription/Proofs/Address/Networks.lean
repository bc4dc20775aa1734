import BlobInscription.Proofs.Address.Codec

namespace BlobInscription.Address

open Traversal

/-- A text that starts like a segwit address has no separator but the one of its beginning. -/
def OneSeparator (text : String) : Prop :=
  let low := Text.lowerChars (Text.strip text).toList
  (segwitBeginnings.any fun start => start.toList.isPrefixOf low) = true → low.count '1' = 1

instance (text : String) : Decidable (OneSeparator text) :=
  inferInstanceAs (Decidable (_ → _))

variable {text : String} {a : Address} {e : AddressError} {human : String}

theorem mem_networks_segwit {network : Network} :
    network ∈ (AddressKind.segwit human).networks ↔ network.humanPart = human := by
  have hall : network ∈ Network.all := by
    cases network <;> decide
  simp [AddressKind.networks, hall]

theorem exists_humanPart_iff (human : String) :
    (∃ network : Network, network.humanPart = human) ↔ human ∈ ["bcrt", "bc", "tb"] := by
  constructor
  · rintro ⟨network, rfl⟩
    cases network <;> decide
  · intro h
    simp only [List.mem_cons, List.not_mem_nil, or_false] at h
    rcases h with rfl | rfl | rfl
    · exact ⟨.regtest, rfl⟩
    · exact ⟨.mainnet, rfl⟩
    · exact ⟨.testnet, rfl⟩

theorem takeWhile_before_separator {human rest : List Char} (h : '1' ∉ human) :
    (human ++ '1' :: rest).takeWhile (· ≠ '1') = human := by
  have hall : ∀ c ∈ human, decide (c ≠ '1') = true := by
    intro c hc
    rw [decide_eq_true_eq]
    rintro rfl
    exact h hc
  rw [List.takeWhile_append_of_pos hall, List.takeWhile_cons_of_neg (by simp), List.append_nil]

theorem human_mem_iff {low human symbols : List Char}
    (hstart : (segwitBeginnings.any fun start => start.toList.isPrefixOf low) = true)
    (hlow : low = human ++ '1' :: symbols) (hsymbols : '1' ∉ symbols) :
    String.ofList human ∈ ["bcrt", "bc", "tb"] ↔ low.count '1' = 1 := by
  have hcount : low.count '1' = 1 ↔ '1' ∉ human := by
    rw [hlow, List.count_append, List.count_cons_self, List.count_eq_zero.mpr hsymbols,
      Nat.add_eq_right, List.count_eq_zero]
  rw [hcount]
  constructor
  · intro h hmem
    have hnone : ∀ part ∈ ["bcrt", "bc", "tb"], '1' ∉ part.toList := by decide
    have hpart := hnone _ h
    rw [String.toList_ofList] at hpart
    exact hpart hmem
  · intro hone
    obtain ⟨start, hmem, hprefix⟩ := List.any_eq_true.mp hstart
    obtain ⟨rest, hrest⟩ := List.isPrefixOf_iff_prefix.mp hprefix
    -- The beginning is a known part and a separator, and the first separator is the only one.
    have hparts : ∀ start ∈ segwitBeginnings, ∃ part ∈ ["bcrt", "bc", "tb"],
        '1' ∉ part.toList ∧ start.toList = part.toList ++ ['1'] := by
      decide
    obtain ⟨part, hknown, hpart, hsplit⟩ := hparts start hmem
    have hsame := hrest.trans hlow
    rw [hsplit, List.append_assoc, List.singleton_append] at hsame
    have htaken := congrArg (List.takeWhile (· ≠ '1')) hsame
    rw [takeWhile_before_separator hpart, takeWhile_before_separator hone] at htaken
    rwa [← htaken, String.ofList_toList]

/-- The families of addresses of the networks. -/
def knownKinds : List AddressKind :=
  [.base58Main, .base58Test, .segwit "bcrt", .segwit "bc", .segwit "tb"]

theorem exists_isValidFor_iff :
    (∃ network, a.isValidFor network = true) ↔ a.kind ∈ knownKinds := by
  simp only [isValidFor, List.contains_iff_mem]
  cases a.kind with
  | base58Main => exact iff_of_true ⟨.mainnet, by decide⟩ (by decide)
  | base58Test => exact iff_of_true ⟨.testnet, by decide⟩ (by decide)
  | segwit human =>
      simp only [mem_networks_segwit, exists_humanPart_iff]
      simp [knownKinds]

theorem ofSegwit_eq_ok (h : ofSegwit text = .ok a) :
    ∃ d, Segwit.decode text = .ok d ∧ a.kind = .segwit d.human := by
  rw [ofSegwit, bind_eq_ok] at h
  obtain ⟨d, hd, h⟩ := h
  cases h
  exact ⟨d, hd, rfl⟩

theorem kind_of_ofBase58 (h : ofBase58 text = .ok a) :
    a.kind = .base58Main ∨ a.kind = .base58Test := by
  rw [ofBase58, bind_eq_ok] at h
  obtain ⟨body, -, h⟩ := h
  split at h
  · cases h
  · split_ifs at h
    · cases h
      exact .inl rfl
    · cases h
      exact .inr rfl
    · cases h
      exact .inl rfl
    · cases h
      exact .inr rfl

theorem kind_mem_iff (h : ofText text = .ok a) : a.kind ∈ knownKinds ↔ OneSeparator text := by
  rw [ofText] at h
  split at h
  · cases h
  · split at h
    · rename_i hstart
      obtain ⟨d, hd, hkind⟩ := ofSegwit_eq_ok h
      obtain ⟨-, -, -, -, groups, check, symbols, -, -, -, -, hsymbols, hlow⟩ :=
        Segwit.decode_eq_ok_iff.mp hd
      have hhuman := human_mem_iff hstart hlow (Segwit.not_mem_symbols hsymbols)
      rw [String.ofList_toList] at hhuman
      rw [OneSeparator]
      rw [forall_prop_of_true hstart, ← hhuman, hkind]
      simp [knownKinds]
    · rename_i hstart
      refine iff_of_true ?_ fun hstart' => absurd hstart' hstart
      rcases kind_of_ofBase58 h with hkind | hkind
      · rw [hkind]
        decide
      · rw [hkind]
        decide

section Refusals

variable {α : Type}

/-- A reading fails for no other reason than that its text is no address at all. -/
def Plain (x : Except AddressError α) : Prop :=
  ∀ e, x = .error e → e.isMismatch = false

theorem plain_decodeParts (chars : List Char) : Plain (Segwit.decodeParts chars) := by
  rw [Segwit.decodeParts]
  split
  · exact failsOnly_error rfl
  · dsimp only
    split
    · exact failsOnly_error rfl
    · split
      · exact failsOnly_error rfl
      · split
        · exact failsOnly_error rfl
        · exact failsOnly_ok _

theorem plain_decode (text : String) : Plain (Segwit.decode text) := by
  refine failsOnly_bind (plain_decodeParts _) ?_
  rintro ⟨human, values, residue⟩ -
  dsimp only
  cases values with
  | nil => exact failsOnly_error rfl
  | cons version groups =>
      refine failsOnly_check rfl fun _ => failsOnly_check rfl fun _ => ?_
      split
      · exact failsOnly_error rfl
      · exact failsOnly_check rfl fun _ => failsOnly_check rfl fun _ => failsOnly_ok _

theorem plain_readNumber (chars : List Char) (n : Nat) : Plain (Base58.readNumber chars n) := by
  induction chars generalizing n with
  | nil => exact failsOnly_ok n
  | cons c rest ih =>
      rw [Base58.readNumber]
      split
      · exact ih _
      · exact failsOnly_error rfl

theorem plain_decodeCheck (text : String) : Plain (Base58.decodeCheck text) := by
  refine failsOnly_bind (plain_readNumber _ 0) ?_
  intro _ _
  exact failsOnly_check rfl fun _ => failsOnly_check rfl fun _ => failsOnly_ok _

theorem plain_ofBase58 (text : String) : Plain (ofBase58 text) := by
  refine failsOnly_bind (plain_decodeCheck text) ?_
  intro body _
  split
  · exact failsOnly_error rfl
  · split_ifs
    · exact failsOnly_error rfl
    · exact failsOnly_ok _
    · exact failsOnly_ok _
    · exact failsOnly_ok _
    · exact failsOnly_ok _
    · exact failsOnly_error rfl

theorem plain_ofText (text : String) : Plain (ofText text) := by
  rw [ofText]
  split_ifs
  · exact failsOnly_error rfl
  · exact failsOnly_bind (plain_decode _) fun _ _ => failsOnly_ok _
  · exact plain_ofBase58 _

end Refusals

theorem forNetwork_eq_ok {network : Network} :
    forNetwork text network = .ok a ↔ ofText text = .ok a ∧ a.isValidFor network = true := by
  rw [forNetwork, bind_eq_ok]
  constructor
  · rintro ⟨b, hb, h⟩
    split at h
    · rename_i hvalid
      cases h
      exact ⟨hb, hvalid⟩
    · cases h
  · rintro ⟨ha, hvalid⟩
    exact ⟨a, ha, if_pos hvalid⟩

theorem exists_forNetwork_iff :
    (∃ network, Succeeds (forNetwork text network)) ↔
      Succeeds (ofText text) ∧ OneSeparator text := by
  constructor
  · rintro ⟨network, a, h⟩
    obtain ⟨ha, hvalid⟩ := forNetwork_eq_ok.mp h
    exact ⟨⟨a, ha⟩, (kind_mem_iff ha).mp (exists_isValidFor_iff.mp ⟨network, hvalid⟩)⟩
  · rintro ⟨⟨a, ha⟩, hone⟩
    obtain ⟨network, hvalid⟩ := exists_isValidFor_iff.mpr ((kind_mem_iff ha).mpr hone)
    exact ⟨network, a, forNetwork_eq_ok.mpr ⟨ha, hvalid⟩⟩

theorem isMismatch_iff {network : Network} (h : forNetwork text network = .error e) :
    e.isMismatch = true ↔ Succeeds (ofText text) := by
  cases hread : ofText text with
  | error e' =>
      rw [forNetwork, hread] at h
      cases h
      simp [plain_ofText text _ hread]
  | ok a =>
      refine iff_of_true ?_ (succeeds_ok a)
      rw [forNetwork, hread] at h
      dsimp only [bind, Except.bind] at h
      split at h
      · cases h
      · cases h
        rfl

/-- A text that is read as an address belongs to some network exactly when it has one separator. So
a refusal for the network is one of an address of another network exactly then, and every other
refusal is one of a text that is no address. -/
theorem networks_of_text (text : String) :
    (∀ a, ofText text = .ok a →
      ((∃ network, a.isValidFor network = true) ↔ OneSeparator text) ∧
        (a.kind ∈ knownKinds ↔ OneSeparator text)) ∧
    ∀ network e, forNetwork text network = .error e →
      (e.isMismatch = true ↔ Succeeds (ofText text)) ∧
        ((∃ other, Succeeds (forNetwork text other)) ↔
          Succeeds (ofText text) ∧ OneSeparator text) := by
  constructor
  · intro a ha
    have hkind := kind_mem_iff ha
    exact ⟨exists_isValidFor_iff.trans hkind, hkind⟩
  · intro network e he
    exact ⟨isMismatch_iff he, exists_forNetwork_iff⟩

theorem networks_of_text_mainnet :
    ∃ a, ofText "bc1qw508d6qejxtdg4y5r3zarvary0c5xw7kv8f3t4" = .ok a ∧
      a.kind ∈ knownKinds ∧
      ∃ e, forNetwork "bc1qw508d6qejxtdg4y5r3zarvary0c5xw7kv8f3t4" .testnet = .error e ∧
        e.isMismatch = true ∧
        ∃ other, Succeeds (forNetwork "bc1qw508d6qejxtdg4y5r3zarvary0c5xw7kv8f3t4" other) := by
  have hone : OneSeparator "bc1qw508d6qejxtdg4y5r3zarvary0c5xw7kv8f3t4" := by decide +kernel
  have hread : ∃ a, ofText "bc1qw508d6qejxtdg4y5r3zarvary0c5xw7kv8f3t4" = .ok a := by
    refine ⟨⟨"bc1qw508d6qejxtdg4y5r3zarvary0c5xw7kv8f3t4", .segwit "bc",
      [0x00, 0x14, 0x75, 0x1e, 0x76, 0xe8, 0x19, 0x91, 0x96, 0xd4, 0x54, 0x94, 0x1c, 0x45, 0xd1,
        0xb3, 0xa3, 0x23, 0xf1, 0x43, 0x3b, 0xd6]⟩, ?_⟩
    decide +kernel
  have herror : forNetwork "bc1qw508d6qejxtdg4y5r3zarvary0c5xw7kv8f3t4" .testnet =
      .error (.networkMismatch "bc1qw508d6qejxtdg4y5r3zarvary0c5xw7kv8f3t4" .testnet) := by
    decide +kernel
  obtain ⟨hkinds, hrefused⟩ := networks_of_text "bc1qw508d6qejxtdg4y5r3zarvary0c5xw7kv8f3t4"
  obtain ⟨a, ha⟩ := hread
  obtain ⟨hmismatch, hother⟩ := hrefused _ _ herror
  exact ⟨a, ha, (hkinds a ha).2.mpr hone, _, herror, hmismatch.mpr ⟨a, ha⟩,
    hother.mpr ⟨⟨a, ha⟩, hone⟩⟩

/-- With two separators the text starts like an address of mainnet, but has the human-readable part
of no network: every network refuses it as an address of another one. -/
theorem ofText_two_separators :
    ∃ a, ofText "bc11sw50qfkcaa7" = .ok a ∧
      a.kind ∉ knownKinds ∧
      ∀ network, a.isValidFor network = false ∧
        forNetwork "bc11sw50qfkcaa7" network =
          .error (.networkMismatch "bc11sw50qfkcaa7" network) := by
  refine ⟨⟨"bc11sw50qfkcaa7", .segwit "bc1", [0x60, 0x02, 0x75, 0x1e]⟩, ?_, ?_, ?_⟩
  · decide +kernel
  · decide
  · intro network
    cases network <;> decide +kernel

end BlobInscription.Address
