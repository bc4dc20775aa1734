import BlobInscription.Curve.Secp256k1
import BlobInscription.Hash.Sha256

namespace BlobInscription.Ecdsa

open Secp256k1 (Point order)

/-- The two scalars of a signature. -/
structure Signature where
  r : Nat
  s : Nat
  deriving DecidableEq, Repr

/-- Whether a scalar may occur in a signature or be a secret key. -/
def isScalar (n : Nat) : Bool :=
  0 < n && n < order

/-- Half of the order: of a signature's second scalar and its negative, one lies at or below it. -/
def halfOrder : Nat := order / 2

/-- The signature with the smaller of the two second scalars. -/
def Signature.lowS (signature : Signature) : Signature :=
  if halfOrder < signature.s then { signature with s := order - signature.s } else signature

/-- Whether a signature of a digest is by the owner of a point. -/
def verify (key : Point) (digest : Bytes) (signature : Signature) : Bool :=
  let w := Modular.inverse order signature.s
  let z := Bytes.toNatBE digest % order
  match Secp256k1.combine? (z * w % order) Secp256k1.generator (signature.r * w % order) key with
  | some point => point.x % order == signature.r
  | none => false

/-- The signature of a digest with a secret key and a secret nonce. -/
def signWith (nonce secret : Nat) (digest : Bytes) : Signature :=
  let z := Bytes.toNatBE digest % order
  let r := match Secp256k1.multiple? nonce with
    | some point => point.x % order
    | none => 0
  ⟨r, Modular.inverse order nonce * ((z + r * secret) % order) % order⟩

/-- A nonce that only the owner of the secret key can compute. -/
def nonceFor (secret : Nat) (digest : Bytes) : Nat :=
  let hash := Sha256.digest (Bytes.ofNatBE 32 secret ++ digest)
  Bytes.toNatBE hash % (order - 1) + 1

/-- The signature of a digest with a secret key. -/
def sign (secret : Nat) (digest : Bytes) : Signature :=
  signWith (nonceFor secret digest) secret digest

end BlobInscription.Ecdsa
