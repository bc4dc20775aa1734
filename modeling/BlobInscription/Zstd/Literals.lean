import BlobInscription.Zstd.Huffman

namespace BlobInscription.Zstd

/-- The literals of a block, the tree in force after it, and the number of bytes of the section. -/
structure Literals where
  bytes : Array UInt8
  tree? : Option Huffman.Table
  used : Nat

namespace Literals

/-- The size of literals that are stored or repeated, and the length of the header. -/
def plainSize (data : Array UInt8) : Except Error (Nat × Nat) :=
  match bitsAt data 2 2 with
  | 1 => if data.size < 2 then .error .corrupted else .ok (bitsAt data 4 12, 2)
  | 3 => if data.size < 3 then .error .corrupted else .ok (bitsAt data 4 20, 3)
  | _ => .ok (bitsAt data 3 5, 1)

/-- The regenerated and the compressed size of entropy coded literals, the length of the header, and
whether there are four streams. -/
def codedSizes (data : Array UInt8) : Except Error (Nat × Nat × Nat × Bool) :=
  if data.size < 5 then .error .corrupted
  else
    match bitsAt data 2 2 with
    | 0 => .ok (bitsAt data 4 10, bitsAt data 14 10, 3, false)
    | 1 => .ok (bitsAt data 4 10, bitsAt data 14 10, 3, true)
    | 2 => .ok (bitsAt data 4 14, bitsAt data 18 14, 4, true)
    | _ => .ok (bitsAt data 4 18, bitsAt data 22 18, 5, true)

/-- Literals that are entropy coded with a tree of their own, or with the one in force. -/
def readCoded (data : Array UInt8) (tree? : Option Huffman.Table) (limit : Nat) :
    Except Error Literals := do
  let ownTree := bitsAt data 0 2 == 2
  if !ownTree && tree?.isNone then throw .dictionary
  let (size, codedSize, headerSize, four) ← codedSizes data
  if limit < size then throw .corrupted
  if four && size < 6 then throw .corrupted
  if data.size < headerSize + codedSize then throw .corrupted
  let coded := data.extract headerSize (headerSize + codedSize)
  let (tree, treeSize) ← match ownTree, tree? with
    | false, some tree => pure (tree, 0)
    | _, _ => Huffman.readTable coded
  if coded.size ≤ treeSize then throw .truncated
  let streams := coded.extract treeSize coded.size
  let bytes ←
    if four then Huffman.decodeFourStreams tree streams size
    else Huffman.decodeStream tree streams size #[]
  return ⟨bytes, some tree, headerSize + codedSize⟩

/-- Reads the literals at the start of a block, of which there may be at most `limit`. -/
def read (data : Array UInt8) (tree? : Option Huffman.Table) (limit : Nat) :
    Except Error Literals := do
  if data.size < 2 then throw .corrupted
  match bitsAt data 0 2 with
  | 0 =>
      let (size, headerSize) ← plainSize data
      if limit < size ∨ data.size < headerSize + size then throw .corrupted
      return ⟨data.extract headerSize (headerSize + size), tree?, headerSize + size⟩
  | 1 =>
      let (size, headerSize) ← plainSize data
      if limit < size then throw .corrupted
      match data[headerSize]? with
      | none => throw .corrupted
      | some byte => return ⟨Array.replicate size byte, tree?, headerSize + 1⟩
  | _ => readCoded data tree? limit

end Literals

end BlobInscription.Zstd
