import BlobInscription.Bytes
import BlobInscription.Hash.XxHash64
import BlobInscription.Zstd.Literals
import BlobInscription.Zstd.Sequences

namespace BlobInscription.Zstd

def magicNumber : Nat := 0xfd2fb528

/-- The first of the sixteen magic numbers of frames to be skipped. -/
def skippableMagicNumber : Nat := 0x184d2a50

/-- The largest block. -/
def maxBlockSize : Nat := 128 * 1024

structure FrameHeader where
  /-- The length of the header. -/
  size : Nat
  windowSize : Nat
  dictionary : Nat
  contentSize? : Option Nat
  checked : Bool
  deriving DecidableEq, Repr

/-- The sizes of the fields that two bits of the descriptor select. -/
def dictionaryWidth (flag : Nat) : Nat :=
  match flag with
  | 0 => 0
  | 1 => 1
  | 2 => 2
  | _ => 4

def contentSizeWidth (flag : Nat) (singleSegment : Bool) : Nat :=
  match flag with
  | 0 => if singleSegment then 1 else 0
  | 1 => 2
  | 2 => 4
  | _ => 8

/-- The value of the content size field: two bytes count from 256 on. -/
def contentSizeOf (width field : Nat) : Option Nat :=
  if width = 0 then none else some (if width = 2 then field + 256 else field)

/-- The size of the window that a byte describes: a power of two and eighths of it. -/
def windowSizeOf (descriptor : Nat) : Nat :=
  let base := Nat.pow 2 (descriptor / 8 + 10)
  base + base / 8 * (descriptor % 8)

/-- The largest exponent of a window. -/
def maxWindowLog : Nat := 31

/-- Reads the header of a frame that holds content. -/
def FrameHeader.read (data : Array UInt8) : Except Error FrameHeader := do
  if data.size < 5 ∨ loadLE data 0 4 ≠ magicNumber then throw .header
  let descriptor := loadLE data 4 1
  let singleSegment := descriptor / 32 % 2 == 1
  let dictionarySize := dictionaryWidth (descriptor % 4)
  let contentWidth := contentSizeWidth (descriptor / 64) singleSegment
  let windowWidth := if singleSegment then 0 else 1
  let size := 5 + windowWidth + dictionarySize + contentWidth
  if data.size < size ∨ descriptor / 8 % 2 = 1 then throw .header
  let window := loadLE data 5 windowWidth
  if maxWindowLog < window / 8 + 10 then throw .header
  let dictionary := loadLE data (5 + windowWidth) dictionarySize
  let field := loadLE data (5 + windowWidth + dictionarySize) contentWidth
  let contentSize? := contentSizeOf contentWidth field
  let windowSize := if singleSegment then contentSize?.getD 0 else windowSizeOf window
  return { size, windowSize, dictionary, contentSize?, checked := descriptor / 4 % 2 == 1 }

/-- The size of the content that a frame declares. A frame to be skipped has none of it; the largest
number says that the size is unknown, and the one before it is refused. -/
def declaredSize (frame : Bytes) : Except Error (Option Nat) := do
  let head := (frame.take 18).toArray
  let magic := loadLE head 0 4
  if 8 ≤ head.size ∧ magic / 16 = skippableMagicNumber / 16 then return some 0
  match (← FrameHeader.read head).contentSize? with
  | none => return none
  | some size =>
      if size = Nat.pow 2 64 - 1 then return none
      else if size = Nat.pow 2 64 - 2 then throw .header
      else return some size

/-- What later blocks of a frame need from earlier ones. -/
structure Context where
  content : Array UInt8
  tree? : Option Huffman.Table
  tables? : Option Sequences.Tables
  recent : Sequences.Recent

/-- Decodes a compressed block. Neither its literals nor its content may exceed `limit` bytes, nor
may the whole content exceed `total`. -/
def decodeBlock (data : Array UInt8) (limit total : Nat) (c : Context) : Except Error Context := do
  if limit < data.size then throw .truncated
  let literals ← Literals.read data c.tree? (min limit (total - c.content.size))
  let data := data.extract literals.used data.size
  let (count, countSize) ← Sequences.readCount data
  if count = 0 then
    if data.size ≠ countSize then throw .corrupted
    return { c with content := c.content ++ literals.bytes, tree? := literals.tree? }
  let (tables, place) ← Sequences.readTables c.tables? data countSize
  let progress ← Sequences.decodeStream tables literals.bytes total count
    (data.extract place data.size) ⟨c.content, 0, c.recent⟩
  let left := literals.bytes.extract progress.literalsUsed literals.bytes.size
  let content := progress.content ++ left
  if total < content.size then throw .size
  return ⟨content, literals.tree?, some tables, progress.recent⟩

/-- Decodes the blocks from `place` on; returns the content and the place behind the last block. -/
def decodeBlocks (data : Array UInt8) (limit total : Nat) :
    (bound place : Nat) → Context → Except Error (Array UInt8 × Nat)
  | 0, _, _ => .error .truncated
  | bound + 1, place, c => do
      if data.size < place + 3 then throw .truncated
      let header := loadLE data place 3
      let size := header / 8
      let start := place + 3
      let (c, place) ← match header / 2 % 4 with
        | 0 =>
            if data.size < start + size then throw .truncated
            else if total < c.content.size + size then throw .size
            else pure ({ c with content := c.content ++ data.extract start (start + size) },
              start + size)
        | 1 =>
            match data[start]? with
            | none => throw .truncated
            | some byte =>
                if total < c.content.size + size then throw .size
                else pure ({ c with content := c.content ++ Array.replicate size byte }, start + 1)
        | 2 =>
            if data.size < start + size then throw .truncated
            else do
              let c ← decodeBlock (data.extract start (start + size)) limit total c
              pure (c, start + size)
        | _ => throw .corrupted
      if header % 2 = 1 then return (c.content, place)
      else decodeBlocks data limit total bound place c

/-- The content of the frame at the start of the data; what follows the frame is ignored. -/
def decompress (frame : Bytes) : Except Error Bytes := do
  match ← declaredSize frame with
  | none => throw .size
  | some 0 => return []
  | some total =>
      let data := frame.toArray
      let header ← FrameHeader.read data
      if header.dictionary ≠ 0 then throw .dictionary
      let (content, place) ← decodeBlocks data (min header.windowSize maxBlockSize) total data.size
        header.size ⟨#[], none, none, .start⟩
      if content.size ≠ total then throw .size
      let content := content.toList
      if header.checked then
        if data.size < place + 4 then throw .checksum
        if (XxHash64.hash content).toNat % Nat.pow 2 32 ≠ loadLE data place 4 then throw .checksum
      return content

/-- The header of a frame that declares its content size and holds one segment. -/
def singleSegmentHeader (size : Nat) : Bytes :=
  let (descriptor, field) :=
    if size < 256 then ((0x20 : UInt8), Bytes.ofNatLE 1 size)
    else if size < 65536 + 256 then (0x60, Bytes.ofNatLE 2 (size - 256))
    else if size < Nat.pow 2 32 then (0xa0, Bytes.ofNatLE 4 size)
    else (0xe0, Bytes.ofNatLE 8 size)
  Bytes.ofNatLE 4 magicNumber ++ descriptor :: field

/-- Blocks that store the content; the bound is the number of bytes. -/
def storedBlocks : (bound : Nat) → Bytes → Bytes
  | 0, _ => [1, 0, 0]
  | bound + 1, content =>
      let block := content.take maxBlockSize
      let rest := content.drop maxBlockSize
      if rest.isEmpty then Bytes.ofNatLE 3 (8 * block.length + 1) ++ block
      else Bytes.ofNatLE 3 (8 * block.length) ++ block ++ storedBlocks bound rest

/-- A frame that stores its content. -/
def compress (content : Bytes) : Bytes :=
  singleSegmentHeader content.length ++ storedBlocks content.length content

end BlobInscription.Zstd
