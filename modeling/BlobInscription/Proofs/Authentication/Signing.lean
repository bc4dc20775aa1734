import BlobInscription.Proofs.Authentication.Acceptance
import BlobInscription.Proofs.Curve.Signature
import BlobInscription.Proofs.Text.Hexadecimal

namespace BlobInscription.Authentication

open Secp256k1 (order multiple?)
open Ecdsa (Signature)

variable {signer : Signer} {check : Checker} {secret : Nat}

/-- The text shows 32 bytes in hexadecimal, and their number may be a secret scalar. -/
def KeyText (text : String) (secret : Nat) : Prop :=
  ∃ raw, Bytes.Shows text.toList raw ∧ raw.length = 32 ∧ Bytes.toNatBE raw = secret ∧
    1 ≤ secret ∧ secret ≤ order - 1

theorem readPrivateKey_eq_ok_iff {text : String} :
    readPrivateKey text = .ok secret ↔ KeyText text secret := by
  simp only [KeyText, ← Bytes.ofHex?_eq_some_iff]
  constructor
  · intro h
    have hscalar := isScalar_iff.mp (isScalar_of_readPrivateKey h)
    unfold readPrivateKey at h
    split at h
    · cases h
    · rename_i raw hraw
      dsimp only at h
      split_ifs at h with hlength hvalue
      cases h
      exact ⟨raw, hraw, not_not.mp hlength, rfl, hscalar⟩
  · rintro ⟨raw, hraw, hlength, rfl, hscalar⟩
    simp only [readPrivateKey, hraw, if_neg (not_not.mpr hlength), isScalar_iff.mpr hscalar,
      if_true]

theorem lowS_eq (signature : Signature) :
    signature.lowS = ⟨signature.r, min signature.s (order - signature.s)⟩ := by
  have horder : order = 2 * Ecdsa.halfOrder + 1 := by decide
  rw [Signature.lowS]
  split
  · rw [min_eq_right (by omega)]
  · rw [min_eq_left (by omega)]

/-- What is relied on of a check: for a key with a secret scalar, the negative of a second scalar does
as well as the scalar itself. -/
def Checker.Negates (check : Checker) : Prop :=
  ∀ secret key digest r s, Ecdsa.isScalar secret = true → multiple? secret = some key →
    s ≤ order → check key digest ⟨r, order - s⟩ = check key digest ⟨r, s⟩

theorem negates_ecdsa : Checker.Negates Ecdsa.verify := by
  intro secret key digest r s hsecret hkey hs
  obtain ⟨key', hkey', honCurve, -, horder⟩ := Ecdsa.exists_key hsecret
  obtain rfl := Option.some.inj (hkey.symm.trans hkey')
  exact Ecdsa.verify_negated honCurve horder hs

theorem genuine_of_verify {digest : Bytes} (hnegates : check.Negates)
    (hsecret : Ecdsa.isScalar secret = true)
    (hr : Ecdsa.isScalar (signer secret digest).r = true)
    (hs : Ecdsa.isScalar (signer secret digest).s = true)
    (hverified : ∀ key, multiple? secret = some key →
      check key digest (signer secret digest) = true) :
    Genuine signer secret digest check := by
  refine ⟨hr, hs, hverified, ?_⟩
  intro key hkey
  have hle : (signer secret digest).s ≤ order := (isScalar_iff.mp hs).2.trans (Nat.sub_le _ _)
  rw [hnegates secret key digest _ _ hsecret hkey hle]
  exact hverified key hkey

theorem exists_signed {key : Secp256k1.Point} {body : Bytes} {privateKey : String}
    (hsecret : readPrivateKey privateKey = .ok secret) (hkey : multiple? secret = some key)
    (hgenuine : Genuine signer secret (blobDigest body) check) :
    ∃ signed, sign signer body privateKey = .ok signed ∧
      readSignature signed.signature = .ok (signer secret (blobDigest body)).lowS ∧
      KeyBytes signed.publicKey key ∧
      verify ⟨body, signed.signature, signed.publicKey⟩ check =
        .ok ⟨signed.publicKey, blobDigest body⟩ := by
  obtain ⟨key', hkey', -, hread⟩ := exists_publicKeyOf (isScalar_of_readPrivateKey hsecret)
  obtain rfl := Option.some.inj (hkey.symm.trans hkey')
  have hsign : sign signer body privateKey =
      .ok ⟨writeSignature (signer secret (blobDigest body)).lowS, publicKeyOf secret⟩ := by
    rw [sign, hsecret]
    rfl
  have hr : Ecdsa.isScalar (signer secret (blobDigest body)).lowS.r = true := by
    rw [lowS_eq]
    exact hgenuine.r
  exact ⟨_, hsign, readSignature_writeSignature hr (isScalar_lowS hgenuine.s).1,
    keyBytes_of_readPublicKey hread, verify_sign hsecret hgenuine hsign⟩

/-- The private keys are the texts that show a secret scalar. What is signed with one, as long as
the signature as it was made verifies, is 64 bytes of two scalars of which the second is the smaller
one of it and its negative, and authenticates as coming from the owner of the secret scalar. -/
theorem verify_of_sign (signer : Signer) (body : Bytes) (privateKey : String) :
    (∀ secret, readPrivateKey privateKey = .ok secret ↔ KeyText privateKey secret) ∧
    ∀ secret, readPrivateKey privateKey = .ok secret →
      ∃ key, multiple? secret = some key ∧
        ∀ r s, signer secret (Sha256.double body) = ⟨r, s⟩ →
          1 ≤ r ∧ r ≤ order - 1 → 1 ≤ s ∧ s ≤ order - 1 →
          Ecdsa.verify key (Sha256.double body) ⟨r, s⟩ = true →
          ∃ signed, sign signer body privateKey = .ok signed ∧
            signed.signature.length = 64 ∧
            Bytes.toNatBE (signed.signature.drop 32) ≤ order / 2 ∧
            readSignature signed.signature = .ok ⟨r, min s (order - s)⟩ ∧
            KeyBytes signed.publicKey key ∧
            verify ⟨body, signed.signature, signed.publicKey⟩ =
              .ok ⟨signed.publicKey, Sha256.double body⟩ := by
  refine ⟨fun secret => readPrivateKey_eq_ok_iff, ?_⟩
  intro secret hsecret
  have hscalar := isScalar_of_readPrivateKey hsecret
  obtain ⟨key, hkey, -⟩ := exists_publicKeyOf hscalar
  refine ⟨key, hkey, ?_⟩
  intro r s hmade hr hs hverified
  have hgenuine : Genuine signer secret (blobDigest body) := by
    refine genuine_of_verify negates_ecdsa hscalar ?_ ?_ ?_
    · rw [blobDigest, hmade]
      exact isScalar_iff.mpr hr
    · rw [blobDigest, hmade]
      exact isScalar_iff.mpr hs
    · intro key' hkey'
      obtain rfl := Option.some.inj (hkey.symm.trans hkey')
      rw [blobDigest, hmade]
      exact hverified
  obtain ⟨signed, hsign, hread, hkeyBytes, hverify⟩ := exists_signed hsecret hkey hgenuine
  have hbytes := readSignature_eq_ok_iff.mp hread
  refine ⟨signed, hsign, hbytes.length, ?_, ?_, hkeyBytes, hverify⟩
  · rw [hbytes.s]
    exact (isScalar_lowS hgenuine.s).2
  · rw [hread, lowS_eq, blobDigest, hmade]

theorem verify_of_sign_replaced :
    let privateKey := " 1F1f 1f1F" ++ String.ofList (List.replicate 56 '1') ++ "\n"
    let secret := 0x1f1f1f1f11111111111111111111111111111111111111111111111111111111
    let s := (Ecdsa.sign secret (Sha256.double [0])).s
    order / 2 < s ∧ ∃ signed, sign Ecdsa.sign [0] privateKey = .ok signed ∧
      Bytes.toNatBE (signed.signature.drop 32) ≤ order / 2 ∧
      readSignature signed.signature =
        .ok ⟨(Ecdsa.sign secret (Sha256.double [0])).r, min s (order - s)⟩ ∧
      verify ⟨[0], signed.signature, signed.publicKey⟩ =
        .ok ⟨signed.publicKey, Sha256.double [0]⟩ := by
  intro privateKey secret s
  have hsecret : readPrivateKey privateKey = .ok secret := by decide +kernel
  have hscalars : order / 2 < s ∧ s ≤ order - 1 ∧
      1 ≤ (Ecdsa.sign secret (Sha256.double [0])).r ∧
      (Ecdsa.sign secret (Sha256.double [0])).r ≤ order - 1 := by
    decide +kernel
  obtain ⟨hlarger, hlt, hr⟩ := hscalars
  have hpos : 1 ≤ s := Nat.succ_le_of_lt (Nat.zero_lt_of_lt hlarger)
  obtain ⟨-, hsigns⟩ := verify_of_sign Ecdsa.sign [0] privateKey
  obtain ⟨key, hkey, hverifies⟩ := hsigns secret hsecret
  have hverified : Ecdsa.verify key (Sha256.double [0])
      (Ecdsa.sign secret (Sha256.double [0])) = true :=
    Ecdsa.verify_sign (isScalar_of_readPrivateKey hsecret) hkey (Nat.ne_of_gt hpos)
  obtain ⟨signed, hsign, -, hlow, hread, -, hverify⟩ := hverifies _ s rfl hr ⟨hpos, hlt⟩ hverified
  exact ⟨hlarger, signed, hsign, hlow, hread, hverify⟩

end BlobInscription.Authentication
