import BlobInscription.Curve.Ecdsa
import BlobInscription.Bytes.Hex
import BlobInscription.Envelope

/-!
Signing of blobs and authentication of envelopes. The signed message is the double hash of the
compressed body; signatures are two scalars of 32 bytes with the smaller second scalar, and public
keys are compressed points.
-/

namespace BlobInscription.Authentication

open Secp256k1 (Point)
open Ecdsa (Signature)

/-- The message signed for a body, which is also the hash that names the blob. -/
def blobDigest (body : Bytes) : Bytes :=
  Sha256.double body

def signatureLength : Nat := 64

def publicKeyLength : Nat := 33

inductive PrivateKeyError
  | notHex
  | length (length : Nat)
  | outOfRange
  deriving DecidableEq, Repr

def PrivateKeyError.message : PrivateKeyError → String
  | notHex => "Sequencer private key is not valid hex"
  | length n => s!"Sequencer private key must be 32 bytes, got {n}"
  | outOfRange => "Sequencer private key is outside the curve order"

/-- The secret scalar of a private key written in hexadecimal. -/
def readPrivateKey (text : String) : Except PrivateKeyError Nat :=
  match Bytes.ofHex? text with
  | none => .error .notHex
  | some raw =>
      if raw.length ≠ 32 then .error (.length raw.length)
      else
        let secret := Bytes.toNatBE raw
        if Ecdsa.isScalar secret then .ok secret else .error .outOfRange

/-- The public key of a secret scalar. -/
def publicKeyOf (secret : Nat) : Bytes :=
  ((Secp256k1.multiple? secret).map Point.compress).getD []

/-- Why an envelope does not tell its sender. -/
inductive Failure
  | decode (error : Envelope.DecodeError)
  | publicKeyForm
  | publicKeyPoint
  | signatureLength (length : Nat)
  | signatureScalar
  | highS
  | mismatch
  deriving DecidableEq, Repr

namespace Failure

def message : Failure → String
  | decode error => error.message
  | publicKeyForm => s!"Public key must be a {publicKeyLength}-byte compressed point"
  | publicKeyPoint => "Public key is not a point on secp256k1"
  | signatureLength n => s!"Signature must be {Authentication.signatureLength} bytes, got {n}"
  | signatureScalar => "Signature scalar is outside the curve order"
  | highS => "Signature is not in low-S form"
  | mismatch => "Envelope signature does not match its body"

/-- Whether a field of the envelope is ill-formed. -/
def isMalformedField : Failure → Bool
  | publicKeyForm | publicKeyPoint | signatureLength _ | signatureScalar => true
  | _ => false

/-- Whether the fields are well-formed and the signature is refused. -/
def isRejection : Failure → Bool
  | highS | mismatch => true
  | _ => false

end Failure

/-- The point of a compressed public key. -/
def readPublicKey (data : Bytes) : Except Failure Point :=
  match data with
  | tag :: rest =>
      if rest.length = 32 ∧ (tag = 2 ∨ tag = 3) then
        match Secp256k1.liftX? (Bytes.toNatBE rest) (tag == 3) with
        | some point => .ok point
        | none => .error .publicKeyPoint
      else .error .publicKeyForm
  | [] => .error .publicKeyForm

/-- The scalars of a signature. -/
def readSignature (data : Bytes) : Except Failure Signature :=
  if data.length ≠ signatureLength then .error (.signatureLength data.length)
  else
    let r := Bytes.toNatBE (data.take 32)
    let s := Bytes.toNatBE (data.drop 32)
    if Ecdsa.isScalar r && Ecdsa.isScalar s then .ok ⟨r, s⟩ else .error .signatureScalar

def writeSignature (signature : Signature) : Bytes :=
  Bytes.ofNatBE 32 signature.r ++ Bytes.ofNatBE 32 signature.s

/-- Who sent a blob, and the hash that names it. -/
structure Sender where
  publicKey : Bytes
  hash : Bytes
  deriving DecidableEq, Repr

/-- How a signature of a digest is checked with the point of a public key. -/
abbrev Checker := (key : Point) → (digest : Bytes) → Signature → Bool

/-- Checks the signature of an envelope. Of the two second scalars only the smaller is accepted. -/
def verify (envelope : Envelope) (check : Checker := Ecdsa.verify) : Except Failure Sender := do
  let key ← readPublicKey envelope.publicKey
  let signature ← readSignature envelope.signature
  let digest := blobDigest envelope.body
  if Ecdsa.halfOrder < signature.s then throw .highS
  if check key digest signature then return ⟨key.compress, digest⟩ else throw .mismatch

/-- The sender of the envelope for `rollup` that a transaction reveals. -/
def senderOf (tx : Transaction) (rollup : String) : Except Failure Sender := do
  let envelope ← (Envelope.ofTransaction tx rollup).mapError .decode
  verify envelope

/-- A signature with its public key. -/
structure Signed where
  signature : Bytes
  publicKey : Bytes
  deriving DecidableEq, Repr

/-- How a secret scalar signs a digest. -/
abbrev Signer := (secret : Nat) → (digest : Bytes) → Signature

/-- Signs a compressed body with the private key written in hexadecimal. -/
def sign (signer : Signer) (body : Bytes) (privateKey : String) :
    Except PrivateKeyError Signed := do
  let secret ← readPrivateKey privateKey
  let signature := (signer secret (blobDigest body)).lowS
  return ⟨writeSignature signature, publicKeyOf secret⟩

end BlobInscription.Authentication
