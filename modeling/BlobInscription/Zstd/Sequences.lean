import BlobInscription.Zstd.Fse

namespace BlobInscription.Zstd

namespace Sequences

/-- The number of extra bits of each code of a literal length. -/
def literalExtra : Array Nat :=
  #[0, 0, 0, 0, 0, 0, 0, 0, 0, 0, 0, 0, 0, 0, 0, 0, 1, 1, 1, 1, 2, 2, 3, 3, 4, 6, 7, 8, 9, 10, 11,
    12, 13, 14, 15, 16]

/-- The number of extra bits of each code of a match length. -/
def matchExtra : Array Nat :=
  #[0, 0, 0, 0, 0, 0, 0, 0, 0, 0, 0, 0, 0, 0, 0, 0, 0, 0, 0, 0, 0, 0, 0, 0, 0, 0, 0, 0, 0, 0, 0, 0,
    1, 1, 1, 1, 2, 2, 3, 3, 4, 4, 5, 7, 8, 9, 10, 11, 12, 13, 14, 15, 16]

/-- The least value of each code: codes follow each other without gaps. -/
def bases (first : Nat) (extra : Array Nat) : Array Nat :=
  (extra.foldl (fun (done, base) bits => (done.push base, base + Nat.pow 2 bits)) (#[], first)).1

def literalBases : Array Nat := bases 0 literalExtra

def matchBases : Array Nat := bases 3 matchExtra

/-- The counts that a block uses for literal lengths when it gives none. -/
def literalDefault : Fse.Counts :=
  ⟨6, #[4, 3, 2, 2, 2, 2, 2, 2, 2, 2, 2, 2, 2, 1, 1, 1, 2, 2, 2, 2, 2, 2, 2, 2, 2, 3, 2, 1, 1, 1, 1,
    1, -1, -1, -1, -1]⟩

/-- The counts that a block uses for match lengths when it gives none. -/
def matchDefault : Fse.Counts :=
  ⟨6, #[1, 4, 3, 2, 2, 2, 2, 2, 2, 1, 1, 1, 1, 1, 1, 1, 1, 1, 1, 1, 1, 1, 1, 1, 1, 1, 1, 1, 1, 1, 1,
    1, 1, 1, 1, 1, 1, 1, 1, 1, 1, 1, 1, 1, 1, 1, -1, -1, -1, -1, -1, -1, -1]⟩

/-- The counts that a block uses for offsets when it gives none. -/
def offsetDefault : Fse.Counts :=
  ⟨5, #[1, 1, 1, 1, 1, 1, 2, 2, 2, 1, 1, 1, 1, 1, 1, 1, 1, 1, 1, 1, 1, 1, 1, 1, -1, -1, -1, -1, -1]⟩

/-- The three tables of a block. -/
structure Tables where
  literal : Fse.Table
  offset : Fse.Table
  matched : Fse.Table

/-- The number of sequences and the length of the field that holds it. -/
def readCount (data : Array UInt8) : Except Error (Nat × Nat) :=
  match data[0]? with
  | none => .error .truncated
  | some first =>
      let n := first.toNat
      if n < 128 then .ok (n, 1)
      else if n < 255 then
        if data.size < 2 then .error .truncated else .ok ((n - 128) * 256 + loadLE data 1 1, 2)
      else if data.size < 3 then .error .truncated
      else .ok (loadLE data 1 2 + 0x7f00, 3)

/-- One table, by mode: predefined, one symbol, given by counts, or the one in force. Returns it
with the number of bytes it takes from `start` on. -/
def readTable (mode : Nat) (standard : Fse.Counts) (maxSymbol maxLog : Nat)
    (inForce? : Option Fse.Table) (data : Array UInt8) (start : Nat) :
    Except Error (Fse.Table × Nat) :=
  match mode with
  | 0 => .ok (Fse.buildTable standard, 0)
  | 1 =>
      match data[start]? with
      | none => .error .truncated
      | some symbol =>
          if maxSymbol < symbol.toNat then .error .corrupted
          else .ok (Fse.constantTable symbol.toNat, 1)
  | 2 => do
      let (counts, used) ← Fse.readCounts (data.extract start data.size) maxSymbol maxLog
      return (Fse.buildTable counts, used)
  | _ =>
      match inForce? with
      | none => .error .corrupted
      | some table => .ok (table, 0)

/-- The three tables of a block, whose modes stand in the byte at `start`, and the place behind
them. -/
def readTables (inForce? : Option Tables) (data : Array UInt8) (start : Nat) :
    Except Error (Tables × Nat) := do
  if data.size < start + 1 then throw .truncated
  let modes := bitsAt data (8 * start) 8
  if modes % 4 ≠ 0 then throw .corrupted
  let place := start + 1
  let (literal, used) ←
    readTable (modes / 64) literalDefault 35 9 (inForce?.map Tables.literal) data place
  let place := place + used
  let (offset, used) ←
    readTable (modes / 16 % 4) offsetDefault 31 8 (inForce?.map Tables.offset) data place
  let place := place + used
  let (matched, used) ←
    readTable (modes / 4 % 4) matchDefault 52 9 (inForce?.map Tables.matched) data place
  return (⟨literal, offset, matched⟩, place + used)

/-- The three offsets used last, the latest first. -/
structure Recent where
  first : Nat
  second : Nat
  third : Nat

def Recent.start : Recent := ⟨1, 4, 8⟩

/-- The offset that a value stands for: the first three values name recent offsets, counted one
further when there are no literals; the others are offsets plus three. Zero is no offset. -/
def Recent.resolve (recent : Recent) (value literalLength : Nat) : Nat × Recent :=
  if 3 < value then
    let offset := value - 3
    (offset, ⟨offset, recent.first, recent.second⟩)
  else
    match (if literalLength = 0 then value + 1 else value) with
    | 1 => (recent.first, recent)
    | 2 => (recent.second, ⟨recent.second, recent.first, recent.third⟩)
    | 3 => (recent.third, ⟨recent.third, recent.first, recent.second⟩)
    | _ => (recent.first - 1, ⟨recent.first - 1, recent.first, recent.second⟩)

/-- The states of the three tables. -/
structure States where
  literal : Nat
  offset : Nat
  matched : Nat

/-- What decoding has made so far: the content of the frame, the literals used up, the recent
offsets. -/
structure Progress where
  content : Array UInt8
  literalsUsed : Nat
  recent : Recent

/-- Appends `length` bytes of what was written `offset` bytes ago. -/
def copyMatch (offset : Nat) : (length : Nat) → Array UInt8 → Array UInt8
  | 0, content => content
  | length + 1, content =>
      copyMatch offset length (content.push (content.getD (content.size - offset) 0))

/-- Appends literals and a match, within `limit` bytes of content. -/
def execute (literals : Array UInt8) (limit literalLength offset matchLength : Nat)
    (content : Array UInt8) (literalsUsed : Nat) : Except Error (Array UInt8) := do
  if limit < content.size + literalLength + matchLength then throw .size
  if literals.size < literalsUsed + literalLength then throw .corrupted
  let content := content ++ literals.extract literalsUsed (literalsUsed + literalLength)
  if offset = 0 ∨ content.size < offset then throw .corrupted
  return copyMatch offset matchLength content

/-- Decodes `count` sequences. -/
def decode (tables : Tables) (literals : Array UInt8) (limit : Nat) :
    (count : Nat) → States → BackwardBits → Progress → Except Error (Progress × BackwardBits)
  | 0, _, bits, progress => .ok (progress, bits)
  | count + 1, states, bits, ⟨content, literalsUsed, recent⟩ => do
      let offsetCode := (tables.offset.cell states.offset).symbol
      let matchCode := (tables.matched.cell states.matched).symbol
      let literalCode := (tables.literal.cell states.literal).symbol
      let (extra, bits) := bits.take offsetCode
      let value := Nat.pow 2 offsetCode + extra
      let (extra, bits) := bits.take (matchExtra.getD matchCode 0)
      let matchLength := matchBases.getD matchCode 0 + extra
      let (extra, bits) := bits.take (literalExtra.getD literalCode 0)
      let literalLength := literalBases.getD literalCode 0 + extra
      if bits.left < 0 then throw .corrupted
      let (offset, recent) := recent.resolve value literalLength
      let content ← execute literals limit literalLength offset matchLength content literalsUsed
      let progress := ⟨content, literalsUsed + literalLength, recent⟩
      if count = 0 then return (progress, bits)
      let (literal, bits) := tables.literal.next states.literal bits
      let (matched, bits) := tables.matched.next states.matched bits
      let (offset, bits) := tables.offset.next states.offset bits
      decode tables literals limit count ⟨literal, offset, matched⟩ bits progress

/-- Decodes the bit stream of the sequences, which must be used up. -/
def decodeStream (tables : Tables) (literals : Array UInt8) (limit count : Nat)
    (data : Array UInt8) (progress : Progress) : Except Error Progress := do
  let bits ← BackwardBits.ofBytes data
  let (literal, bits) := bits.take tables.literal.log
  let (offset, bits) := bits.take tables.offset.log
  let (matched, bits) := bits.take tables.matched.log
  let (progress, bits) ← decode tables literals limit count ⟨literal, offset, matched⟩ bits progress
  if bits.atEnd then return progress else throw .corrupted

end Sequences

end BlobInscription.Zstd
