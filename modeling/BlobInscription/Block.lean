import BlobInscription.Transaction

namespace BlobInscription

open Wire (WidthError Reader ReadError)

structure BlockHeader where
  version : Int
  prevBlockHash : Bytes
  merkleRoot : Bytes
  time : Int
  bits : Int
  nonce : Int
  deriving DecidableEq, Repr, Inhabited

namespace BlockHeader

def serialize (h : BlockHeader) : Except WidthError Bytes := do
  let version ← Wire.signed 4 h.version
  let time ← Wire.unsigned 4 h.time
  let bits ← Wire.unsigned 4 h.bits
  let nonce ← Wire.unsigned 4 h.nonce
  return version ++ h.prevBlockHash ++ h.merkleRoot ++ time ++ bits ++ nonce

/-- The identifier of the block: the double hash of its header. -/
def hash (h : BlockHeader) : Except WidthError Bytes :=
  h.serialize.map Sha256.double

def hashText (h : BlockHeader) : Except WidthError String :=
  h.hash.map displayId

def read : Reader BlockHeader := do
  let version ← Wire.readSigned 4
  let prevBlockHash ← Wire.read 32
  let merkleRoot ← Wire.read 32
  let time ← Wire.readUnsigned 4
  let bits ← Wire.readUnsigned 4
  let nonce ← Wire.readUnsigned 4
  return { version, prevBlockHash, merkleRoot, time, bits, nonce }

end BlockHeader

/-- A header with its transactions, as a node serves them. -/
structure RawBlock where
  header : BlockHeader
  transactions : List Transaction
  deriving DecidableEq, Repr

namespace RawBlock

def serialize (b : RawBlock) : Except WidthError Bytes := do
  let header ← b.header.serialize
  let count ← Wire.compactSize b.transactions.length
  let transactions ← b.transactions.mapM Transaction.serialize
  return header ++ count ++ transactions.flatten

def read : Reader RawBlock := do
  let header ← BlockHeader.read
  let transactions ← Wire.readList Transaction.read
  return { header, transactions }

/-- The block that takes up all the bytes. -/
def ofBytes (raw : Bytes) : Except ReadError RawBlock :=
  Wire.readAll "block" read raw

end RawBlock

end BlobInscription
