import BlobInscription.Zstd.Bits

namespace BlobInscription.Zstd.Fse

/-- What a state decodes to, and how the next state is found. -/
structure Cell where
  symbol : Nat
  bits : Nat
  base : Nat
  deriving Repr, Inhabited

/-- A table of `2 ^ log` states. -/
structure Table where
  log : Nat
  cells : Array Cell
  deriving Repr

/-- Counts of symbols that add up to `2 ^ log`; minus one marks a symbol of less than one state. -/
structure Counts where
  log : Nat
  counts : Array Int
  deriving Repr

/-- Which symbols fill a table: those of less than one state from the top down, the others from the
bottom in steps that visit every place. -/
def spreadSymbols (counts : Counts) : Array Nat :=
  let size := Nat.pow 2 counts.log
  let numbered := counts.counts.toList.zipIdx
  let rare := (numbered.filter fun (count, _) => count == -1).map Prod.snd
  let cells := (Array.replicate (size - rare.length) 0) ++ rare.reverse.toArray
  let limit := size - rare.length
  let step := size / 2 + size / 8 + 3
  let next (place : Nat) : Nat :=
    ((List.range size).foldl (fun place _ => if place < limit then place else (place + step) % size)
      ((place + step) % size))
  let symbols := numbered.flatMap fun (count, symbol) => List.replicate count.toNat symbol
  (symbols.foldl (fun (cells, place) symbol => (cells.setIfInBounds place symbol, next place))
    (cells, 0)).1

def buildTable (counts : Counts) : Table :=
  let size := Nat.pow 2 counts.log
  let start := counts.counts.map fun count => if count == -1 then 1 else count.toNat
  let (cells, _) := (spreadSymbols counts).foldl (fun (cells, following) symbol =>
    let count := following.getD symbol 0
    let bits := counts.log - count.log2
    let cell := ⟨symbol, bits, count * Nat.pow 2 bits - size⟩
    (cells.push cell, following.setIfInBounds symbol (count + 1))) (#[], start)
  ⟨counts.log, cells⟩

/-- The table that always decodes to one symbol. -/
def constantTable (symbol : Nat) : Table :=
  ⟨0, #[⟨symbol, 0, 0⟩]⟩

/-- A zero count is followed by codes of two bits for more zeros; three means that another code
follows. Returns how many zeros, and the place behind. -/
def zeroRun (data : Array UInt8) : (bound place zeros : Nat) → Nat × Nat
  | 0, place, zeros => (zeros, place)
  | bound + 1, place, zeros =>
      let code := bitsAt data place 2
      if code = 3 then zeroRun data bound (place + 2) (zeros + 3) else (zeros + code, place + 2)

/-- The next count, shifted up by one, and how many bits it takes: values below the number of unused
codes save one bit. -/
def readCount (data : Array UInt8) (place remaining : Nat) : Nat × Nat :=
  let width := remaining.log2 + 1
  let threshold := Nat.pow 2 (width - 1)
  let unused := 2 * threshold - 1 - remaining
  let low := bitsAt data place (width - 1)
  if low < unused then (low, width - 1)
  else
    let full := bitsAt data place width
    (if threshold ≤ full then full - unused else full, width)

/-- Reads counts onto `counts` until `remaining` states, counted up by one, are used up. -/
def readCountsFrom (data : Array UInt8) (maxSymbol : Nat) :
    (bound place remaining : Nat) → Array Int → Except Error (Array Int × Nat)
  | 0, _, _, _ => .error .corrupted
  | bound + 1, place, remaining, counts =>
      let (value, width) := readCount data place remaining
      let count : Int := (value : Int) - 1
      let place := place + width
      let counts := counts.push count
      let remaining := (remaining : Int) - count.natAbs
      if remaining ≤ 1 then
        if remaining = 1 then .ok (counts, place) else .error .corrupted
      else
        let (zeros, place) := if count = 0 then zeroRun data (maxSymbol + 2) place 0 else (0, place)
        let counts := counts ++ Array.replicate zeros 0
        if maxSymbol < counts.size then .error .corrupted
        else readCountsFrom data maxSymbol bound place remaining.toNat counts

/-- Reads normalised counts of at most `maxSymbol + 1` symbols and `2 ^ maxLog` states; returns also
the number of bytes read. -/
def readCounts (data : Array UInt8) (maxSymbol maxLog : Nat) : Except Error (Counts × Nat) := do
  let log := bitsAt data 0 4 + 5
  if maxLog < log then throw .corrupted
  let (counts, place) ← readCountsFrom data maxSymbol (maxSymbol + 2) 4 (Nat.pow 2 log + 1) #[]
  let used := (place + 7) / 8
  if data.size < used then throw .corrupted
  return (⟨log, counts⟩, used)

def Table.cell (t : Table) (state : Nat) : Cell :=
  t.cells.getD state default

/-- The state that follows, from the bits the cell asks for. -/
def Table.next (t : Table) (state : Nat) (bits : BackwardBits) : Nat × BackwardBits :=
  let cell := t.cell state
  let (value, bits) := bits.take cell.bits
  (cell.base + value, bits)

/-- Two states take turns until the bits are used up; then the other one gives the last symbol. -/
def alternate (t : Table) : (bound : Nat) → (state other : Nat) → BackwardBits → Array Nat →
    Except Error (Array Nat)
  | 0, _, _, _, _ => .error .corrupted
  | bound + 1, state, other, bits, symbols =>
      let symbols := symbols.push (t.cell state).symbol
      let (state, bits) := t.next state bits
      if bits.left < 0 then .ok (symbols.push (t.cell other).symbol)
      else alternate t bound other state bits symbols

/-- The most weights that may be written out. -/
def maxWeights : Nat := 255

/-- Decodes the weights of a Huffman tree. -/
def decodeWeights (data : Array UInt8) : Except Error (Array Nat) := do
  let (counts, used) ← readCounts data 255 6
  let table := buildTable counts
  let bits ← BackwardBits.ofBytes (data.extract used data.size)
  let (first, bits) := bits.take table.log
  let (second, bits) := bits.take table.log
  alternate table (maxWeights - 1) first second bits #[]

end BlobInscription.Zstd.Fse
