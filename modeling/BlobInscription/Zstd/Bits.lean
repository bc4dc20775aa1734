namespace BlobInscription.Zstd

inductive Error
  /-- The header is no frame header, or asks for what is not supported. -/
  | header
  /-- The frame needs a dictionary. -/
  | dictionary
  | truncated
  | corrupted
  /-- The content is not as long as declared. -/
  | size
  | checksum
  deriving DecidableEq, Repr

/-- The number of `count` bytes from `start` on, least significant first; bytes past the end are
zeros. -/
def loadLE (data : Array UInt8) (start : Nat) : (count : Nat) → Nat
  | 0 => 0
  | count + 1 => (data.getD start 0).toNat + 256 * loadLE data (start + 1) count

/-- The number of `count` bits from bit `start` on, the lowest bit of a byte first. -/
def bitsAt (data : Array UInt8) (start count : Nat) : Nat :=
  let shift := start % 8
  loadLE data (start / 8) ((shift + count + 7) / 8) / Nat.pow 2 shift % Nat.pow 2 count

/-- A stream of bits read from the end of a byte string. A set bit above the first marks the end.
The count of bits left turns negative when more bits are asked for than there are; those are
zeros. -/
structure BackwardBits where
  data : Array UInt8
  left : Int

namespace BackwardBits

def ofBytes (data : Array UInt8) : Except Error BackwardBits :=
  match data.back? with
  | none => .error .corrupted
  | some last =>
      if last = 0 then .error .corrupted
      else .ok ⟨data, 8 * (data.size - 1) + last.toNat.log2⟩

/-- The next `count` bits, without taking them. -/
def peek (s : BackwardBits) (count : Nat) : Nat :=
  let start := s.left - count
  if 0 ≤ start then bitsAt s.data start.toNat count
  else bitsAt s.data 0 s.left.toNat * Nat.pow 2 (count - s.left.toNat)

def skip (s : BackwardBits) (count : Nat) : BackwardBits :=
  { s with left := s.left - count }

def take (s : BackwardBits) (count : Nat) : Nat × BackwardBits :=
  (s.peek count, s.skip count)

/-- Whether every bit has been read, and no more. -/
def atEnd (s : BackwardBits) : Bool :=
  s.left == 0

end BackwardBits

end BlobInscription.Zstd
