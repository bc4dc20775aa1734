import BlobInscription.Authentication
import BlobInscription.Bytes.Lemmas
import BlobInscription.Proofs.Curve.Compression
import BlobInscription.Proofs.Traversal

namespace BlobInscription

namespace Authentication

open Secp256k1 (Point)
open Ecdsa (Signature)

theorem readPublicKey_compress {p : Point} (h : p.OnCurve) : readPublicKey p.compress = .ok p := by
  have hlift := Secp256k1.liftX?_eq_some h
  have hx : Bytes.toNatBE (Bytes.ofNatBE 32 p.x) = p.x := by
    have hbound : Secp256k1.fieldPrime < 256 ^ 32 := by decide
    rw [Bytes.toNatBE_ofNatBE, Nat.mod_eq_of_lt (h.x_lt.trans hbound)]
  have htag : ((if p.y % 2 = 1 then 3 else 2 : UInt8) == 3) = (p.y % 2 == 1) := by
    split <;> simp [*]
  have hform : (Bytes.ofNatBE 32 p.x).length = 32 ∧
      ((if p.y % 2 = 1 then 3 else 2 : UInt8) = 2 ∨ (if p.y % 2 = 1 then 3 else 2 : UInt8) = 3) := by
    refine ⟨Bytes.length_ofNatBE 32 p.x, ?_⟩
    split <;> simp
  simp only [Point.compress, readPublicKey, if_pos hform, hx, htag, hlift]

theorem exists_publicKeyOf {secret : Nat} (h : Ecdsa.isScalar secret = true) :
    ∃ key, Secp256k1.multiple? secret = some key ∧ publicKeyOf secret = key.compress ∧
      readPublicKey (publicKeyOf secret) = .ok key := by
  simp only [Ecdsa.isScalar, Bool.and_eq_true, decide_eq_true_eq] at h
  obtain ⟨key, hkey, hcurve, -⟩ := Secp256k1.exists_multiple h.1 h.2
  have hwritten : publicKeyOf secret = key.compress := by
    rw [publicKeyOf, hkey]
    rfl
  exact ⟨key, hkey, hwritten, hwritten ▸ readPublicKey_compress hcurve⟩

theorem readSignature_writeSignature {signature : Signature}
    (hr : Ecdsa.isScalar signature.r = true) (hs : Ecdsa.isScalar signature.s = true) :
    readSignature (writeSignature signature) = .ok signature := by
  have hread : ∀ n, Ecdsa.isScalar n = true → Bytes.toNatBE (Bytes.ofNatBE 32 n) = n := by
    intro n hn
    simp only [Ecdsa.isScalar, Bool.and_eq_true, decide_eq_true_eq] at hn
    have hbound : Secp256k1.order < 256 ^ 32 := by decide
    rw [Bytes.toNatBE_ofNatBE, Nat.mod_eq_of_lt (hn.2.trans hbound)]
  have hlength : (writeSignature signature).length = signatureLength := by
    simp [writeSignature, signatureLength]
  have htake : (writeSignature signature).take 32 = Bytes.ofNatBE 32 signature.r :=
    List.take_left' (Bytes.length_ofNatBE 32 _)
  have hdrop : (writeSignature signature).drop 32 = Bytes.ofNatBE 32 signature.s :=
    List.drop_left' (Bytes.length_ofNatBE 32 _)
  rw [readSignature, if_neg (not_not.mpr hlength), htake, hdrop, hread _ hr, hread _ hs]
  simp [hr, hs]

theorem isScalar_lowS {signature : Signature} (h : Ecdsa.isScalar signature.s = true) :
    Ecdsa.isScalar signature.lowS.s = true ∧ signature.lowS.s ≤ Ecdsa.halfOrder := by
  have horder : Secp256k1.order = 2 * Ecdsa.halfOrder + 1 := by decide
  simp only [Ecdsa.isScalar, Bool.and_eq_true, decide_eq_true_eq] at h ⊢
  rw [Signature.lowS]
  split
  · dsimp only
    omega
  · omega

/-- The signature of a digest with a secret key is well-formed and verifies under the public key,
with either second scalar. -/
structure Genuine (signer : Signer) (secret : Nat) (digest : Bytes)
    (check : Checker := Ecdsa.verify) : Prop where
  r : Ecdsa.isScalar (signer secret digest).r = true
  s : Ecdsa.isScalar (signer secret digest).s = true
  verifies : ∀ key, Secp256k1.multiple? secret = some key →
    check key digest (signer secret digest) = true
  negated : ∀ key, Secp256k1.multiple? secret = some key →
    check key digest
      { signer secret digest with s := Secp256k1.order - (signer secret digest).s } = true

theorem isScalar_of_readPrivateKey {text : String} {secret : Nat}
    (h : readPrivateKey text = .ok secret) : Ecdsa.isScalar secret = true := by
  unfold readPrivateKey at h
  split at h
  · cases h
  · dsimp only at h
    split_ifs at h with hlength hscalar
    cases h
    exact hscalar

theorem Genuine.verify_lowS {signer : Signer} {check : Checker} {secret : Nat} {digest : Bytes}
    {key : Point} (h : Genuine signer secret digest check)
    (hkey : Secp256k1.multiple? secret = some key) :
    check key digest (signer secret digest).lowS = true := by
  rw [Signature.lowS]
  split
  · exact h.negated key hkey
  · exact h.verifies key hkey

theorem verify_sign {signer : Signer} {check : Checker} {body : Bytes} {privateKey : String}
    {secret : Nat} {signed : Signed} (hsecret : readPrivateKey privateKey = .ok secret)
    (hgenuine : Genuine signer secret (blobDigest body) check)
    (h : sign signer body privateKey = .ok signed) :
    verify { body, signature := signed.signature, publicKey := signed.publicKey } check =
      .ok ⟨publicKeyOf secret, blobDigest body⟩ := by
  obtain ⟨key, hkey, hwritten, hread⟩ :=
    exists_publicKeyOf (isScalar_of_readPrivateKey hsecret)
  obtain ⟨hs, hlow⟩ := isScalar_lowS hgenuine.s
  have hr : Ecdsa.isScalar (signer secret (blobDigest body)).lowS.r = true := by
    rw [Signature.lowS]
    split <;> exact hgenuine.r
  rw [sign, hsecret] at h
  cases h
  have hnotHigh := Nat.not_lt.mpr hlow
  have hverified := hgenuine.verify_lowS hkey
  rw [hwritten] at hread ⊢
  simp only [verify, hread, readSignature_writeSignature hr hs, bind, Except.bind,
    if_neg hnotHigh, if_pos hverified]
  rfl

end Authentication

end BlobInscription
