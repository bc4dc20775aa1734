import BlobInscription.Bytes

/-!
The wire format shared by transactions and blocks: fixed-width numbers, compact sizes, and a reader
that walks a byte string and reports where it ran out.
-/

namespace BlobInscription.Wire

inductive WidthError
  /-- A number with more bits than its field. -/
  | tooLarge
  /-- A negative number in an unsigned field. -/
  | negative
  /-- A negative compact size. -/
  | negativeSize
  deriving DecidableEq, Repr

def WidthError.message : WidthError → String
  | tooLarge => "int too big to convert"
  | negative => "can't convert negative int to unsigned"
  | negativeSize => "bytes must be in range(0, 256)"

/-- An unsigned number in `width` bytes, least significant first. -/
def unsigned (width : Nat) (n : Int) : Except WidthError Bytes :=
  if n < 0 then .error .negative
  else if n < Nat.pow 256 width then .ok (Bytes.ofNatLE width n.toNat)
  else .error .tooLarge

/-- A two's complement number in `width` bytes, least significant first. -/
def signed (width : Nat) (n : Int) : Except WidthError Bytes :=
  let count : Int := Nat.pow 256 width
  if -(count / 2) ≤ n ∧ n < count / 2 then .ok (Bytes.ofNatLE width (n % count).toNat)
  else .error .tooLarge

/-- The shortest compact size of a number. -/
def compactSize (n : Int) : Except WidthError Bytes :=
  if n < 0 then .error .negativeSize
  else if n < 253 then .ok [UInt8.ofNat n.toNat]
  else if n ≤ 0xffff then .ok (253 :: Bytes.ofNatLE 2 n.toNat)
  else if n ≤ 0xffffffff then .ok (254 :: Bytes.ofNatLE 4 n.toNat)
  else (unsigned 8 n).map (255 :: ·)

/-- A byte string behind its length. -/
def varBytes (bytes : Bytes) : Except WidthError Bytes :=
  (compactSize bytes.length).map (· ++ bytes)

inductive ReadError
  | truncated (wanted : Int) (offset : Nat)
  | trailing (what : String)
  | notHex
  deriving DecidableEq, Repr

def ReadError.message : ReadError → String
  | truncated wanted offset => s!"Unexpected end of data: wanted {wanted} bytes at offset {offset}"
  | trailing what => s!"Trailing bytes after {what}"
  | notHex => "Transaction hex is not valid hex"

/-- A place in a byte string: how much lies before it, and what lies behind it. -/
structure Cursor where
  offset : Nat
  rest : Bytes
  deriving DecidableEq, Repr

def Cursor.start (bytes : Bytes) : Cursor :=
  ⟨0, bytes⟩

def Cursor.exhausted (c : Cursor) : Bool :=
  c.rest.isEmpty

/-- The next `size` bytes without moving, fewer at the end of the data. A negative end is counted
from the end of the data. -/
def Cursor.peek (c : Cursor) (size : Int) : Bytes :=
  let stop := c.offset + size
  let stop := if stop < 0 then stop + (c.offset + c.rest.length) else stop
  c.rest.take (stop - c.offset).toNat

/-- A reader stops at the first error, at the place where the error's read began. -/
abbrev Reader := StateT Cursor (Except ReadError)

/-- Takes the next `size` bytes. -/
def read (size : Nat) : Reader Bytes := fun c =>
  let chunk := c.rest.take size
  if chunk.length < size then .error (.truncated size c.offset)
  else .ok (chunk, ⟨c.offset + size, c.rest.drop size⟩)

/-- Takes the next `size` bytes, refusing a negative size. -/
def readInt (size : Int) : Reader Bytes := fun c =>
  if size < 0 then .error (.truncated size c.offset) else read size.toNat c

def readUnsigned (width : Nat) : Reader Nat := do
  return Bytes.toNatLE (← read width)

def readSigned (width : Nat) : Reader Int := do
  return Bytes.toIntLE (← read width)

/-- How many bytes follow the first byte of a compact size; nothing when that byte is the size. -/
def compactWidth? (first : Nat) : Option Nat :=
  if first = 253 then some 2
  else if first = 254 then some 4
  else if first = 255 then some 8
  else none

/-- A compact size, in the shortest form or not. -/
def readCompactSize : Reader Nat := do
  let first ← readUnsigned 1
  match compactWidth? first with
  | none => return first
  | some width => readUnsigned width

def readVarBytes : Reader Bytes := do
  read (← readCompactSize)

/-- Reads `count` values onto the reversed list `done`. -/
def readManyOnto {α : Type} (item : Reader α) : (count : Nat) → (done : List α) → Reader (List α)
  | 0, done => return done.reverse
  | count + 1, done => do readManyOnto item count ((← item) :: done)

/-- Reads `count` values in order. -/
def readMany {α : Type} (item : Reader α) (count : Nat) : Reader (List α) :=
  readManyOnto item count []

/-- Reads a compact size and as many values. -/
def readList {α : Type} (item : Reader α) : Reader (List α) := do
  readMany item (← readCompactSize)

/-- Reads one value that must take up all the bytes. -/
def readAll {α : Type} (what : String) (item : Reader α) (bytes : Bytes) : Except ReadError α := do
  let (value, c) ← item.run (Cursor.start bytes)
  if c.exhausted then return value else throw (.trailing what)

end BlobInscription.Wire
