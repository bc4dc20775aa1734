import BlobInscription.Authentication
import BlobInscription.Block
import BlobInscription.Compression

/-!
Blobs of a rollup in a block. A block is annotated once, when it is fetched: each transaction whose
envelope authenticates carries its sender and the hash of its body. Extraction trusts the
annotations.
-/

namespace BlobInscription

open Wire (WidthError)

/-- A blob taken from a block. The hash is that of the compressed body. -/
structure Blob where
  blob : Bytes
  sender : Bytes
  hash : Bytes
  deriving DecidableEq, Repr

/-- A transaction with what was found out about it when its block was fetched. -/
structure AnnotatedTransaction where
  transaction : Transaction
  sender? : Option Bytes := none
  hash? : Option Bytes := none
  deriving DecidableEq, Repr

namespace AnnotatedTransaction

/-- Annotates a transaction with the sender of its envelope for `rollup`, if it authenticates. An
envelope whose signature is refused is reported under the transaction's identifier, which must
exist. -/
def annotate (rollup : String) (transaction : Transaction) :
    Except WidthError AnnotatedTransaction :=
  match Authentication.senderOf transaction rollup with
  | .ok sender => .ok { transaction, sender? := some sender.publicKey, hash? := some sender.hash }
  | .error failure =>
      if failure.isRejection then transaction.txid.map fun _ => { transaction }
      else .ok { transaction }

def authenticated (a : AnnotatedTransaction) : Bool :=
  a.sender?.isSome && a.hash?.isSome

end AnnotatedTransaction

/-- An annotated block; its height is known once it has been asked for by height. -/
structure Block where
  header : BlockHeader
  entries : List AnnotatedTransaction
  height? : Option Int := none
  deriving DecidableEq, Repr, Inhabited

namespace Block

def transactions (b : Block) : List Transaction :=
  b.entries.map AnnotatedTransaction.transaction

/-- Annotates the transactions of a block. -/
def annotate (rollup : String) (raw : RawBlock) : Except WidthError Block := do
  let entries ← raw.transactions.mapM (AnnotatedTransaction.annotate rollup)
  return { header := raw.header, entries }

end Block

/-- Reads the blobs of one rollup out of blocks. -/
structure Scanner where
  rollup : String
  compressor : Compressor

namespace Scanner

/-- The blob that an annotated transaction carries. An envelope that was not authenticated, and a
body that does not decompress, are reported under the transaction's identifier, which must exist. -/
def extractOne (s : Scanner) (entry : AnnotatedTransaction) : Except WidthError (Option Blob) :=
  match Envelope.ofTransaction entry.transaction s.rollup with
  | .error _ => .ok none
  | .ok envelope =>
      match entry.sender?, entry.hash? with
      | some sender, some hash =>
          match s.compressor.decompress envelope.body with
          | .ok blob => .ok (some ⟨blob, sender, hash⟩)
          | .error _ => entry.transaction.txid.map fun _ => some ⟨[], sender, hash⟩
      | _, _ => entry.transaction.txid.map fun _ => none

/-- The blobs of a block, in block order. -/
def extract (s : Scanner) (block : Block) : Except WidthError (List Blob) := do
  return (← block.entries.mapM s.extractOne).filterMap id

end Scanner

end BlobInscription
