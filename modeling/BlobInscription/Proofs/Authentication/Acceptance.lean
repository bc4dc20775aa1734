import BlobInscription.Proofs.Authentication

namespace BlobInscription.Authentication

open Secp256k1 (Point)
open Ecdsa (Signature)
open Traversal

variable {data : Bytes} {key : Point} {signature : Signature} {e : Envelope} {f : Failure}
  {check : Checker}

/-- The compressed form of a point: a tag for the parity of the second coordinate, and the first
coordinate. -/
structure KeyBytes (data : Bytes) (key : Point) : Prop where
  length : data.length = 33
  tag : data.head? = some 2 ∧ key.y % 2 = 0 ∨ data.head? = some 3 ∧ key.y % 2 = 1
  x : Bytes.toNatBE data.tail = key.x
  onCurve : key.OnCurve

/-- The form of a signature: two numbers, each positive and below the order. -/
structure ScalarBytes (data : Bytes) (signature : Signature) : Prop where
  length : data.length = 64
  r : Bytes.toNatBE (data.take 32) = signature.r
  s : Bytes.toNatBE (data.drop 32) = signature.s
  r_mem : 1 ≤ signature.r ∧ signature.r ≤ Secp256k1.order - 1
  s_mem : 1 ≤ signature.s ∧ signature.s ≤ Secp256k1.order - 1

theorem compress_of_keyBytes (h : KeyBytes data key) : key.compress = data := by
  obtain ⟨hlength, htag, hx, -⟩ := h
  cases data with
  | nil => cases hlength
  | cons tag rest =>
      have hrest : rest.length = 32 := Nat.succ.inj hlength
      rw [Point.compress, ← hx, List.tail_cons, ← hrest, Bytes.ofNatBE_toNatBE]
      rcases htag with ⟨htag, heven⟩ | ⟨htag, hodd⟩
      · obtain rfl := Option.some.inj htag
        rw [if_neg (by omega)]
      · obtain rfl := Option.some.inj htag
        rw [if_pos hodd]

theorem keyBytes_of_readPublicKey (h : readPublicKey data = .ok key) : KeyBytes data key := by
  unfold readPublicKey at h
  split at h
  · rename_i tag rest
    split at h
    · rename_i hform
      split at h
      · rename_i point hlift
        cases h
        obtain ⟨hcurve, hx, hparity⟩ := Secp256k1.liftX?_eq_some_iff.mp hlift
        refine ⟨congrArg Nat.succ hform.1, ?_, hx.symm, hcurve⟩
        rcases hform.2 with rfl | rfl
        · left
          have heven : ¬ key.y % 2 = 1 := by simpa using hparity
          exact ⟨rfl, by omega⟩
        · right
          exact ⟨rfl, by simpa using hparity⟩
      · cases h
    · cases h
  · cases h

theorem readPublicKey_eq_ok_iff : readPublicKey data = .ok key ↔ KeyBytes data key := by
  constructor
  · exact keyBytes_of_readPublicKey
  · intro h
    rw [← compress_of_keyBytes h]
    exact readPublicKey_compress h.onCurve

theorem isScalar_iff {n : Nat} :
    Ecdsa.isScalar n = true ↔ 1 ≤ n ∧ n ≤ Secp256k1.order - 1 := by
  have hpos : 0 < Secp256k1.order := by decide
  simp only [Ecdsa.isScalar, Bool.and_eq_true, decide_eq_true_eq]
  omega

theorem readSignature_eq_ok_iff :
    readSignature data = .ok signature ↔ ScalarBytes data signature := by
  unfold readSignature
  constructor
  · intro h
    split at h
    · cases h
    · rename_i hlength
      dsimp only at h
      split at h
      · rename_i hscalars
        cases h
        rw [Bool.and_eq_true, isScalar_iff, isScalar_iff] at hscalars
        exact ⟨not_not.mp hlength, rfl, rfl, hscalars.1, hscalars.2⟩
      · cases h
  · rintro ⟨hlength, hr, hs, hrange, hrange'⟩
    have hlength' : ¬ data.length ≠ signatureLength := not_not.mpr hlength
    rw [if_neg hlength']
    dsimp only
    rw [hr, hs, isScalar_iff.mpr hrange, isScalar_iff.mpr hrange', Bool.and_true, if_pos rfl]

theorem isMalformedField_of_readPublicKey (h : readPublicKey data = .error f) :
    f.isMalformedField = true := by
  unfold readPublicKey at h
  split at h
  · split at h
    · split at h
      · cases h
      · cases h
        rfl
    · cases h
      rfl
  · cases h
    rfl

theorem isMalformedField_of_readSignature (h : readSignature data = .error f) :
    f.isMalformedField = true := by
  unfold readSignature at h
  split at h
  · cases h
    rfl
  · dsimp only at h
    split at h
    · cases h
    · cases h
      rfl

theorem verify_of_bytes (hkey : KeyBytes e.publicKey key)
    (hsignature : ScalarBytes e.signature signature) :
    verify e check =
      if Secp256k1.order / 2 < signature.s then .error .highS
      else if check key (Sha256.double e.body) signature = true then
        .ok ⟨e.publicKey, Sha256.double e.body⟩
      else .error .mismatch := by
  rw [verify, readPublicKey_eq_ok_iff.mpr hkey, readSignature_eq_ok_iff.mpr hsignature]
  simp only [bind, Except.bind, throw, throwThe, MonadExceptOf.throw, pure, Except.pure,
    compress_of_keyBytes hkey, blobDigest, Ecdsa.halfOrder]

theorem KeyBytes.unique {key' : Point} (h : KeyBytes data key) (h' : KeyBytes data key') :
    key = key' :=
  Except.ok.inj ((readPublicKey_eq_ok_iff.mpr h).symm.trans (readPublicKey_eq_ok_iff.mpr h'))

theorem ScalarBytes.unique {signature' : Signature} (h : ScalarBytes data signature)
    (h' : ScalarBytes data signature') : signature = signature' :=
  Except.ok.inj ((readSignature_eq_ok_iff.mpr h).symm.trans (readSignature_eq_ok_iff.mpr h'))

/-- The envelope names a point and two scalars. -/
def WellFormed (e : Envelope) : Prop :=
  (∃ key, KeyBytes e.publicKey key) ∧ ∃ signature, ScalarBytes e.signature signature

/-- By the check, the owner of the envelope's key has signed its body, with the smaller second
scalar. -/
def Authentic (e : Envelope) (check : Checker := Ecdsa.verify) : Prop :=
  ∃ key signature, KeyBytes e.publicKey key ∧ ScalarBytes e.signature signature ∧
    signature.s ≤ Secp256k1.order / 2 ∧
    check key (Sha256.double e.body) signature = true

theorem authentic_iff_of_bytes (hkey : KeyBytes e.publicKey key)
    (hsignature : ScalarBytes e.signature signature) :
    Authentic e check ↔ signature.s ≤ Secp256k1.order / 2 ∧
      check key (Sha256.double e.body) signature = true := by
  constructor
  · rintro ⟨key', signature', hkey', hsignature', hholds⟩
    rwa [hkey.unique hkey', hsignature.unique hsignature']
  · intro hholds
    exact ⟨key, signature, hkey, hsignature, hholds⟩

theorem wellFormed_of_authentic (h : Authentic e check) : WellFormed e := by
  obtain ⟨key, signature, hkey, hsignature, -⟩ := h
  exact ⟨⟨key, hkey⟩, signature, hsignature⟩

theorem exists_malformed_of_not_wellFormed (h : ¬ WellFormed e) :
    ∃ f, verify e check = .error f ∧ f.isMalformedField = true := by
  cases hkey : readPublicKey e.publicKey with
  | error f =>
      refine ⟨f, ?_, isMalformedField_of_readPublicKey hkey⟩
      rw [verify, hkey]
      rfl
  | ok key =>
      cases hsignature : readSignature e.signature with
      | error f =>
          refine ⟨f, ?_, isMalformedField_of_readSignature hsignature⟩
          rw [verify, hkey, hsignature]
          rfl
      | ok signature =>
          exact absurd ⟨⟨key, readPublicKey_eq_ok_iff.mp hkey⟩, signature,
            readSignature_eq_ok_iff.mp hsignature⟩ h

/-- Every envelope is ill-formed, or refused for its signature, or authentic. -/
theorem verify_cases (e : Envelope) (check : Checker) :
    (¬ WellFormed e ∧ ∃ f, verify e check = .error f ∧ f.isMalformedField = true) ∨
    (WellFormed e ∧ ¬ Authentic e check ∧
      ∃ f, verify e check = .error f ∧ f.isRejection = true) ∨
    (WellFormed e ∧ Authentic e check ∧
      verify e check = .ok ⟨e.publicKey, Sha256.double e.body⟩) := by
  by_cases hform : WellFormed e
  · right
    obtain ⟨⟨key, hkey⟩, signature, hsignature⟩ := hform
    rw [authentic_iff_of_bytes hkey hsignature, verify_of_bytes hkey hsignature]
    by_cases hlow : signature.s ≤ Secp256k1.order / 2
    · rw [if_neg (Nat.not_lt.mpr hlow)]
      by_cases hverified : check key (Sha256.double e.body) signature = true
      · right
        exact ⟨⟨⟨key, hkey⟩, signature, hsignature⟩, ⟨hlow, hverified⟩, if_pos hverified⟩
      · left
        rw [if_neg hverified]
        exact ⟨⟨⟨key, hkey⟩, signature, hsignature⟩, fun h => hverified h.2, _, rfl, rfl⟩
    · left
      rw [if_pos (Nat.lt_of_not_le hlow)]
      exact ⟨⟨⟨key, hkey⟩, signature, hsignature⟩, fun h => hlow h.1, _, rfl, rfl⟩
  · exact .inl ⟨hform, exists_malformed_of_not_wellFormed hform⟩

theorem Failure.isRejection_of_isMalformedField (h : f.isMalformedField = true) :
    f.isRejection = false := by
  cases f <;> first | rfl | cases h

theorem Failure.isMalformedField_of_isRejection (h : f.isRejection = true) :
    f.isMalformedField = false := by
  cases f <;> first | rfl | cases h

theorem verify_eq_ok_iff {sender : Sender} : verify e check = .ok sender ↔
    sender = ⟨e.publicKey, Sha256.double e.body⟩ ∧ Authentic e check := by
  rcases verify_cases e check with ⟨hform, f, hf, -⟩ | ⟨-, hnot, f, hf, -⟩ | ⟨-, hauthentic, hok⟩
  · rw [hf]
    exact iff_of_false nofun fun h => hform (wellFormed_of_authentic h.2)
  · rw [hf]
    exact iff_of_false nofun fun h => hnot h.2
  · rw [hok, Except.ok.injEq, and_iff_left hauthentic]
    exact eq_comm

theorem exists_malformed_iff :
    (∃ f, verify e check = .error f ∧ f.isMalformedField = true) ↔ ¬ WellFormed e := by
  constructor
  · rintro ⟨f, hf, hmalformed⟩ hform
    rcases verify_cases e check with ⟨hnot, -⟩ | ⟨-, -, f', hf', hrejection⟩ | ⟨-, -, hok⟩
    · exact hnot hform
    · obtain rfl := Except.error.inj (hf.symm.trans hf')
      rw [Failure.isMalformedField_of_isRejection hrejection] at hmalformed
      cases hmalformed
    · rw [hf] at hok
      cases hok
  · exact exists_malformed_of_not_wellFormed

theorem exists_rejection_iff :
    (∃ f, verify e check = .error f ∧ f.isRejection = true) ↔
      WellFormed e ∧ ¬ Authentic e check := by
  rcases verify_cases e check with ⟨hform, f, hf, hmalformed⟩ | ⟨hform, hnot, hrejected⟩ |
    ⟨hform, hauthentic, hok⟩
  · refine iff_of_false ?_ fun h => hform h.1
    rintro ⟨f', hf', hrejection⟩
    obtain rfl := Except.error.inj (hf.symm.trans hf')
    rw [Failure.isRejection_of_isMalformedField hmalformed] at hrejection
    cases hrejection
  · exact iff_of_true hrejected ⟨hform, hnot⟩
  · refine iff_of_false ?_ fun h => h.2 hauthentic
    rintro ⟨f, hf, -⟩
    rw [hok] at hf
    cases hf

theorem isMalformedField_eq_of_verify (h : verify e check = .error f) :
    f.isMalformedField = !f.isRejection := by
  rcases verify_cases e check with
    ⟨-, f', hf', hmalformed⟩ | ⟨-, -, f', hf', hrejection⟩ | ⟨-, -, hok⟩
  · obtain rfl := Except.error.inj (h.symm.trans hf')
    rw [hmalformed, Failure.isRejection_of_isMalformedField hmalformed, Bool.not_false]
  · obtain rfl := Except.error.inj (h.symm.trans hf')
    rw [hrejection, Failure.isMalformedField_of_isRejection hrejection, Bool.not_true]
  · rw [h] at hok
    cases hok

theorem not_authentic_of_negated {other : Bytes} (hsignature : ScalarBytes e.signature signature)
    (hother : ScalarBytes other { signature with s := Secp256k1.order - signature.s }) :
    ¬ (Authentic e check ∧ Authentic { e with signature := other } check) := by
  rintro ⟨⟨-, signature', -, hsignature', hlow, -⟩, -, negated, -, hother', hlow', -⟩
  obtain rfl := hsignature.unique hsignature'
  obtain rfl := hother.unique hother'
  have hlt := hsignature.s_mem.2
  have hodd : Secp256k1.order = 2 * (Secp256k1.order / 2) + 1 := by decide
  dsimp only at hlow'
  omega

/-- An envelope authenticates exactly when its key is a compressed point, its signature two scalars
of which the second is at most half the order, and the check finds that the signature holds for the
digest of its body; it then tells its own key and this digest. It is refused as ill-formed exactly when the key or the
scalars are, in every other case for its signature, and in no other way. Of a signature and the one
with the opposite second scalar, at most one is accepted. -/
theorem verify_classifies (check : Checker) (e : Envelope) :
    (∀ sender, verify e check = .ok sender ↔
      sender = ⟨e.publicKey, Sha256.double e.body⟩ ∧ Authentic e check) ∧
    ((∃ f, verify e check = .error f ∧ f.isMalformedField = true) ↔ ¬ WellFormed e) ∧
    ((∃ f, verify e check = .error f ∧ f.isRejection = true) ↔ WellFormed e ∧ ¬ Authentic e check) ∧
    (∀ f, verify e check = .error f → f.isMalformedField = !f.isRejection) ∧
    ∀ signature other, ScalarBytes e.signature signature →
      ScalarBytes other { signature with s := Secp256k1.order - signature.s } →
      ¬ (Succeeds (verify e check) ∧ Succeeds (verify { e with signature := other } check)) := by
  refine ⟨fun sender => verify_eq_ok_iff, exists_malformed_iff, exists_rejection_iff,
    fun f => isMalformedField_eq_of_verify, ?_⟩
  rintro signature other hsignature hother ⟨⟨_, haccepted⟩, _, haccepted'⟩
  exact not_authentic_of_negated hsignature hother
    ⟨(verify_eq_ok_iff.mp haccepted).2, (verify_eq_ok_iff.mp haccepted').2⟩

/-- An envelope that authenticates: both scalars of its signature are the digest of the body, which
is the first coordinate of a point, and the key is this point less the generator. -/
def digestSigned : Envelope where
  body := [12]
  signature := Sha256.double [12] ++ Sha256.double [12]
  publicKey :=
    3 :: Bytes.ofNatBE 32 0x43fb1893b6b8e56216a53bb600de9ad565cc57b76b1c8b4500278b02c3503072

theorem verify_classifies_digestSigned :
    let digest := Sha256.double [12]
    let scalar := Bytes.toNatBE digest
    let negated := Bytes.ofNatBE 32 (Secp256k1.order - scalar)
    ScalarBytes (digest ++ digest) ⟨scalar, scalar⟩ ∧
      ScalarBytes (digest ++ negated) ⟨scalar, Secp256k1.order - scalar⟩ ∧
      verify digestSigned = .ok ⟨digestSigned.publicKey, digest⟩ ∧
      ∃ f, verify { digestSigned with signature := digest ++ negated } = .error f := by
  intro digest scalar negated
  have hsignature : ScalarBytes (digest ++ digest) ⟨scalar, scalar⟩ :=
    readSignature_eq_ok_iff.mp (by decide +kernel)
  have hother : ScalarBytes (digest ++ negated) ⟨scalar, Secp256k1.order - scalar⟩ :=
    readSignature_eq_ok_iff.mp (by decide +kernel)
  have hverified : verify digestSigned = .ok ⟨digestSigned.publicKey, digest⟩ := by
    decide +kernel
  obtain ⟨-, -, -, -, honly⟩ := verify_classifies Ecdsa.verify digestSigned
  have hrefused := honly ⟨scalar, scalar⟩ (digest ++ negated) hsignature hother
  refine ⟨hsignature, hother, hverified, ?_⟩
  cases hnegated : verify { digestSigned with signature := digest ++ negated } with
  | error f => exact ⟨f, rfl⟩
  | ok sender => exact absurd ⟨⟨_, hverified⟩, sender, hnegated⟩ hrefused

end BlobInscription.Authentication
