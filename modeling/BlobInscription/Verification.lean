import BlobInscription.Extraction
import BlobInscription.MerkleTree

/-!
Proofs that a list of blobs is all that a block carries. The inclusion proof is the list of the
block's transaction identifiers, which hash up to the root in the header. The completeness proof is
every transaction whose identifier passes a public filter; transactions that reveal a blob are
ground until theirs does.
-/

namespace BlobInscription

open Wire (WidthError)

/-- The filter that identifiers pass when they start with a number of zero bytes. -/
structure SampleFilter where
  zeroBytes : Nat
  zeroBytes_le : zeroBytes ≤ 32 := by omega
  deriving Repr

namespace SampleFilter

def standard : SampleFilter where
  zeroBytes := 2

/-- The filter for a number of zero bytes, of which there are at most 32. -/
def ofInt? (n : Int) : Option SampleFilter :=
  if h : n.toNat ≤ 32 then
    if 0 ≤ n then some ⟨n.toNat, h⟩ else none
  else none

/-- What is said of a number of zero bytes that no filter has. -/
def rangeMessage : String := "prefix_bytes must be between 0 and 32"

def passes (filter : SampleFilter) (txid : Bytes) : Bool :=
  txid.take filter.zeroBytes == List.replicate filter.zeroBytes 0

end SampleFilter

/-- The identifiers of all transactions of a block, in order. -/
structure InclusionProof where
  txids : List Bytes
  deriving DecidableEq, Repr

/-- The transactions of a block whose identifiers pass the filter. -/
structure CompletenessProof where
  transactions : List Transaction
  deriving DecidableEq, Repr

namespace Block

/-- The identifiers of the transactions, and the transactions whose identifiers pass the filter. -/
def prove (b : Block) (filter : SampleFilter) :
    Except WidthError (InclusionProof × CompletenessProof) := do
  let named ← b.transactions.mapM fun tx => return ((← tx.txid), tx)
  return (⟨named.map Prod.fst⟩,
    ⟨(named.filter fun (txid, _) => filter.passes txid).map Prod.snd⟩)

end Block

/-- Why a proof is not accepted. -/
inductive VerificationError
  | emptyInclusion
  | rootMismatch
  | notSampled (txid : Bytes)
  | repeated (txid : Bytes)
  | unclaimed (txid : Bytes)
  | missing (count : Nat)
  | unbacked (count : Nat)
  /-- A transaction or header with a number that does not fit its field. -/
  | width (error : WidthError)
  deriving DecidableEq, Repr

namespace VerificationError

def message : VerificationError → String
  | emptyInclusion => "Inclusion proof is empty"
  | rootMismatch => "Merkle root recomputed from the inclusion proof does not match the header"
  | notSampled txid => s!"Transaction {displayId txid} is not a sampled transaction of this block"
  | repeated txid => s!"Transaction {displayId txid} is repeated"
  | unclaimed txid =>
      s!"Relevant transaction {displayId txid} is missing from the extracted blobs " ++
        "or its payload does not match the body"
  | missing count => s!"{count} sampled transaction(s) are missing from the completeness proof"
  | unbacked count => s!"{count} extracted blob(s) are not backed by the completeness proof"
  | width error => error.message

end VerificationError

/-- Checks blobs and proofs against a block header. -/
structure Verifier where
  rollup : String
  filter : SampleFilter
  compressor : Compressor

namespace Verifier

/-- The blob that a transaction must have contributed, if its envelope authenticates. A body that
does not decompress contributes an empty blob. -/
def expected? (v : Verifier) (tx : Transaction) : Option Blob :=
  match Envelope.ofTransaction tx v.rollup with
  | .error _ => none
  | .ok envelope =>
      match Authentication.verify envelope with
      | .error _ => none
      | .ok sender =>
          let blob := match v.compressor.decompress envelope.body with
            | .ok blob => blob
            | .error _ => []
          some ⟨blob, sender.publicKey, sender.hash⟩

def verifyInclusion (header : BlockHeader) (inclusion : InclusionProof) :
    Except VerificationError Unit :=
  match MerkleTree.root? inclusion.txids with
  | none => .error .emptyInclusion
  | some root => if root = header.merkleRoot then .ok () else .error .rootMismatch

/-- The identifiers in the inclusion proof that pass the filter, each once. -/
def sampled (v : Verifier) (inclusion : InclusionProof) : List Bytes :=
  (inclusion.txids.filter v.filter.passes).eraseDups

/-- Goes through the transactions of a completeness proof: `seen` are the identifiers met so far,
and `claimed` the blobs not yet accounted for. -/
def account (v : Verifier) (sampled : List Bytes) :
    List Transaction → (seen : List Bytes) → (claimed : List Blob) →
      Except VerificationError (List Bytes × List Blob)
  | [], seen, claimed => .ok (seen, claimed)
  | tx :: rest, seen, claimed => do
      let txid ← tx.txid.mapError .width
      if !sampled.contains txid then throw (.notSampled txid)
      if seen.contains txid then throw (.repeated txid)
      match v.expected? tx with
      | none => account v sampled rest (txid :: seen) claimed
      | some blob =>
          if claimed.contains blob then
            account v sampled rest (txid :: seen) (claimed.erase blob)
          else throw (.unclaimed txid)

def verifyCompleteness (v : Verifier) (blobs : List Blob) (inclusion : InclusionProof)
    (completeness : CompletenessProof) : Except VerificationError Unit := do
  let sampled := v.sampled inclusion
  let (seen, claimed) ← v.account sampled completeness.transactions [] blobs
  let missing := sampled.filter fun txid => !seen.contains txid
  if !missing.isEmpty then throw (.missing missing.length)
  if !claimed.isEmpty then throw (.unbacked claimed.length)

/-- Accepts blobs that are exactly what the sampled transactions of the block carry. The verified
block is named by its hash, which must exist. -/
def verify (v : Verifier) (header : BlockHeader) (blobs : List Blob) (inclusion : InclusionProof)
    (completeness : CompletenessProof) : Except VerificationError (List Blob) := do
  verifyInclusion header inclusion
  v.verifyCompleteness blobs inclusion completeness
  let _ ← header.hash.mapError .width
  return blobs

end Verifier

/-- Blobs with the proofs that they are all there is. -/
structure Extraction where
  blobs : List Blob
  inclusion : InclusionProof
  completeness : CompletenessProof
  deriving DecidableEq, Repr

namespace Scanner

/-- The blobs of a block with their proofs. The block is named by its hash, which must exist. -/
def extractWithProof (s : Scanner) (filter : SampleFilter) (block : Block) :
    Except WidthError Extraction := do
  let _ ← block.header.hash
  let blobs ← s.extract block
  let (inclusion, completeness) ← block.prove filter
  return { blobs, inclusion, completeness }

end Scanner

end BlobInscription
