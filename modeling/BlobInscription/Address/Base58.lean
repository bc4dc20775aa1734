import BlobInscription.Bytes
import BlobInscription.Hash.Sha256
import BlobInscription.Address.Error

namespace BlobInscription.Base58

/-- The digits of base 58; the first one is zero. -/
def alphabet : List Char := "123456789ABCDEFGHJKLMNPQRSTUVWXYZabcdefghijkmnopqrstuvwxyz".toList

/-- The number shown, or the first character that is no digit. -/
def readNumber : List Char → (n : Nat) → Except AddressError Nat
  | [], n => .ok n
  | c :: rest, n =>
      match alphabet.idxOf? c with
      | some digit => readNumber rest (58 * n + digit)
      | none => .error (.base58Character c)

/-- The big-endian bytes of a number without leading zeros. -/
def minimalBytes (n : Nat) : Bytes :=
  if n = 0 then [] else Bytes.ofNatBE (n.log2 / 8 + 1) n

/-- The four bytes that follow a body. -/
def checksum (body : Bytes) : Bytes :=
  (Sha256.double body).take 4

/-- The body of a text, without its checksum. -/
def decodeCheck (text : String) : Except AddressError Bytes := do
  let chars := text.toList
  let n ← readNumber chars 0
  let leading := (chars.takeWhile (· = '1')).length
  let raw := List.replicate leading 0 ++ minimalBytes n
  if raw.length < 5 then throw .base58Short
  let body := raw.take (raw.length - 4)
  if checksum body ≠ raw.drop (raw.length - 4) then throw .base58Checksum
  return body

end BlobInscription.Base58
