import BlobInscription.Bytes

namespace BlobInscription.Bytes

/-- The lower-case digit of a number below sixteen. -/
def hexDigit (n : Nat) : Char :=
  Char.ofNat (if n < 10 then 48 + n else 87 + n)

/-- The two digits of one byte, high half first. -/
def hexPair (b : UInt8) : List Char :=
  [hexDigit (b.toNat / 16), hexDigit (b.toNat % 16)]

/-- The lower-case hexadecimal text of a byte string. -/
def hex (bytes : Bytes) : String :=
  String.ofList (bytes.flatMap hexPair)

/-- The value of a hexadecimal digit of either case. -/
def hexValue? (c : Char) : Option Nat :=
  if '0' ≤ c ∧ c ≤ '9' then some (c.toNat - 48)
  else if 'a' ≤ c ∧ c ≤ 'f' then some (c.toNat - 87)
  else if 'A' ≤ c ∧ c ≤ 'F' then some (c.toNat - 55)
  else none

/-- The blanks that may stand between two bytes of hexadecimal text. -/
def isHexBlank (c : Char) : Bool :=
  c = ' ' || c = '\t' || c = '\n' || c = '\r' || c = '\x0b' || c = '\x0c'

/-- Reads bytes onto the reversed list `done`. -/
def readHex : List Char → (done : Bytes) → Option Bytes
  | [], done => some done.reverse
  | c :: rest, done =>
      if isHexBlank c then readHex rest done
      else
        match rest with
        | [] => none
        | d :: rest =>
            match hexValue? c, hexValue? d with
            | some high, some low => readHex rest (UInt8.ofNat (16 * high + low) :: done)
            | _, _ => none

/-- The bytes written in hexadecimal, or nothing when a digit is missing or foreign. -/
def ofHex? (text : String) : Option Bytes :=
  readHex text.toList []

end BlobInscription.Bytes
