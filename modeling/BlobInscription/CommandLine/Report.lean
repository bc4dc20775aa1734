import BlobInscription.Json.Printer
import BlobInscription.Submission
import BlobInscription.Verification

namespace BlobInscription.CommandLine.Report

open Wire (WidthError)

/-- Lines, each with its end. -/
def lines (texts : List String) : String :=
  String.join (texts.map fun text => text ++ "\n")

def json (d : Datum) : String :=
  lines [Json.render Json.indented 0 d]

def object (entries : List (String × Datum)) : Datum :=
  .map (entries.map fun (key, value) => (.text key, value))

/-- The height at which a block was asked for. -/
def height (b : Block) : Datum :=
  (b.height?.map Datum.int).getD .null

def hexList (ids : List Bytes) : Datum :=
  .list (ids.map fun id => .text (displayId id))

/-- The identifiers of the transactions whose envelopes authenticate. -/
def authenticatedIds (b : Block) : Except WidthError (List String) :=
  (b.entries.filter AnnotatedTransaction.authenticated).mapM fun entry => entry.transaction.txidText

/-- The line that names a block. -/
def blockLine (b : Block) : Except WidthError String := do
  return s!"Block {← b.header.hashText} at height {(height b).display}"

def blockText (b : Block) : Except WidthError String := do
  return lines [
    ← blockLine b,
    s!"  transactions: {b.entries.length}",
    s!"  authenticated envelopes: {(← authenticatedIds b).length}"]

def blockDatum (b : Block) : Except WidthError Datum := do
  return object [
    ("hash", .text (← b.header.hashText)),
    ("height", height b),
    ("prev_blockhash", .text (displayId b.header.prevBlockHash)),
    ("merkle_root", .text (displayId b.header.merkleRoot)),
    ("time", .int b.header.time),
    ("tx_count", .int b.entries.length),
    ("authenticated_txids", .list ((← authenticatedIds b).map Datum.text))]

/-- What is shown of a block. -/
def block (asJson : Bool) (b : Block) : Except WidthError String :=
  if asJson then (blockDatum b).map json else blockText b

/-- A text behind so many blanks that it fills a width. -/
def alignRight (width : Nat) (text : String) : String :=
  String.ofList (List.replicate (width - text.length) ' ') ++ text

def blobHeader : String :=
  " idx | size     | hash" ++ String.ofList (List.replicate 61 ' ') ++ "| sender"

def blobRow (index : Nat) (b : Blob) : String :=
  s!"{alignRight 4 (toString index)} | {alignRight 8 (toString b.blob.length)} | " ++
    s!"{Bytes.hex b.hash} | {Bytes.hex b.sender}"

def blobLines (blobs : List Blob) : List String :=
  if blobs.isEmpty then ["No rollup blobs found."]
  else blobHeader :: blobs.mapIdx blobRow

def blobDatum (b : Blob) : Datum :=
  object [
    ("hash", .text (Bytes.hex b.hash)),
    ("sender", .text (Bytes.hex b.sender)),
    ("size", .int b.blob.length),
    ("blob", .text (Bytes.hex b.blob))]

def proofLine (e : Extraction) : String :=
  s!"Inclusion proof: {e.inclusion.txids.length} txid(s); " ++
    s!"completeness proof: {e.completeness.transactions.length} transaction(s)"

def proofEntries (e : Extraction) : Except WidthError (List (String × Datum)) := do
  return [
    ("inclusion", hexList e.inclusion.txids),
    ("completeness", .list ((← e.completeness.transactions.mapM Transaction.toHex).map Datum.text))]

/-- What is shown of the blobs of a block. -/
def blobs (asJson : Bool) (b : Block) (found : List Blob) : Except WidthError String := do
  if asJson then
    return json (object [
      ("block", .text (← b.header.hashText)), ("height", height b),
      ("blobs", .list (found.map blobDatum))])
  else return lines ((← blockLine b) :: blobLines found)

/-- What is shown of the blobs of a block with their proofs. -/
def extraction (asJson : Bool) (b : Block) (e : Extraction) : Except WidthError String := do
  if asJson then
    return json (object ([
      ("block", .text (← b.header.hashText)), ("height", height b),
      ("blobs", .list (e.blobs.map blobDatum))] ++ (← proofEntries e)))
  else return lines ((← blockLine b) :: blobLines e.blobs ++ [proofLine e])

/-- What is shown of verified blobs. -/
def verified (asJson : Bool) (b : Block) (found : List Blob) : Except WidthError String := do
  let hash ← b.header.hashText
  if asJson then
    return json (object [("block", .text hash), ("verified", .int found.length)])
  else return lines [s!"Verified {found.length} blob(s) in block {hash}"]

/-- What is shown of a published blob. -/
def receipt (asJson : Bool) (r : Submission.Receipt) : String :=
  if asJson then json (object [("commit_txid", .text r.commitId), ("reveal_txid", r.revealId)])
  else lines [s!"Commit transaction: {r.commitId}", s!"Reveal transaction: {r.revealId.display}"]

end BlobInscription.CommandLine.Report
