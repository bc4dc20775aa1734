import BlobInscription.Zstd.Fse

namespace BlobInscription.Zstd.Huffman

/-- The longest code. -/
def maxLog : Nat := 12

/-- What the next `log` bits decode to, and how many of them that takes. -/
structure Cell where
  symbol : UInt8
  bits : Nat
  deriving Repr, Inhabited

structure Table where
  log : Nat
  cells : Array Cell
  deriving Repr

/-- The weights as they are written, and the number of bytes they take: either four bits each, or
entropy coded. -/
def readWeights (data : Array UInt8) : Except Error (Array Nat × Nat) := do
  match data[0]? with
  | none => throw .truncated
  | some first =>
      let head := first.toNat
      if head < 128 then
        if data.size < head + 1 then throw .truncated
        let weights ← Fse.decodeWeights (data.extract 1 (head + 1))
        return (weights, head + 1)
      else
        let count := head - 127
        let size := (count + 1) / 2
        if data.size < size + 1 then throw .truncated
        let weights := (Array.range count).map fun i =>
          let byte := (data.getD (1 + i / 2) 0).toNat
          if i % 2 = 0 then byte / 16 else byte % 16
        return (weights, size + 1)

/-- Adds the weight of the last symbol, which makes the total a power of two. Returns the weights
and the length of the longest code. -/
def completeWeights (weights : Array Nat) : Except Error (Array Nat × Nat) := do
  if weights.any (maxLog < ·) then throw .corrupted
  let total := weights.foldl (fun sum weight => sum + Nat.pow 2 weight / 2) 0
  if total = 0 then throw .corrupted
  let log := total.log2 + 1
  if maxLog < log then throw .corrupted
  let rest := Nat.pow 2 log - total
  if Nat.pow 2 rest.log2 ≠ rest then throw .corrupted
  let weights := weights.push (rest.log2 + 1)
  let ones := (weights.filter (· == 1)).size
  if ones < 2 ∨ ones % 2 = 1 then throw .corrupted
  return (weights, log)

/-- The table of codes: symbols by ascending weight, those of equal weight in order. -/
def buildTable (weights : Array Nat) (log : Nat) : Table :=
  let numbered := weights.toList.zipIdx
  let cells := (List.range log).foldl (fun cells below =>
    let weight := below + 1
    numbered.foldl (fun cells (w, symbol) =>
      if w == weight then
        cells ++ Array.replicate (Nat.pow 2 below) ⟨UInt8.ofNat symbol, log + 1 - weight⟩
      else cells) cells) #[]
  ⟨log, cells⟩

/-- Reads a tree; returns its table and the number of bytes it takes. -/
def readTable (data : Array UInt8) : Except Error (Table × Nat) := do
  let (weights, used) ← readWeights data
  let (weights, log) ← completeWeights weights
  return (buildTable weights log, used)

/-- Decodes `count` symbols. -/
def decodeSymbols (t : Table) :
    (count : Nat) → BackwardBits → Array UInt8 → Array UInt8 × BackwardBits
  | 0, bits, done => (done, bits)
  | count + 1, bits, done =>
      let cell := t.cells.getD (bits.peek t.log) default
      decodeSymbols t count (bits.skip cell.bits) (done.push cell.symbol)

/-- Decodes one stream of `count` symbols, which must use up its bits. -/
def decodeStream (t : Table) (data : Array UInt8) (count : Nat) (done : Array UInt8) :
    Except Error (Array UInt8) := do
  let bits ← BackwardBits.ofBytes data
  let (done, bits) := decodeSymbols t count bits done
  if bits.atEnd then return done else throw .corrupted

/-- Decodes four streams behind the table of the lengths of the first three. The first three hold a
quarter of the symbols each, rounded up. -/
def decodeFourStreams (t : Table) (data : Array UInt8) (count : Nat) :
    Except Error (Array UInt8) := do
  if data.size < 10 ∨ count < 6 then throw .corrupted
  let first := loadLE data 0 2
  let second := loadLE data 2 2
  let third := loadLE data 4 2
  let start₂ := 6 + first
  let start₃ := start₂ + second
  let start₄ := start₃ + third
  if data.size < start₄ then throw .corrupted
  let quarter := (count + 3) / 4
  if count < 3 * quarter then throw .corrupted
  let done ← decodeStream t (data.extract 6 start₂) quarter #[]
  let done ← decodeStream t (data.extract start₂ start₃) quarter done
  let done ← decodeStream t (data.extract start₃ start₄) quarter done
  decodeStream t (data.extract start₄ data.size) (count - 3 * quarter) done

end BlobInscription.Zstd.Huffman
