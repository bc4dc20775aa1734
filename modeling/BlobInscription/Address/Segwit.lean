import BlobInscription.Bytes
import BlobInscription.Address.Regroup
import BlobInscription.Address.Error

namespace BlobInscription.Segwit

/-- The characters of the thirty-two groups. -/
def alphabet : List Char := "qpzry9x8gf2tvdw0s3jn54khce6mua7l".toList

/-- What the checksum of version zero leaves. -/
def residueV0 : Int := 1

/-- What the checksum of later versions leaves. -/
def residueV1 : Int := 0x2bc830a3

/-- The exclusive or with a number in two's complement. -/
def xor (n : Nat) : Int → Int
  | .ofNat m => .ofNat (n ^^^ m)
  | .negSucc m => .negSucc (n ^^^ m)

def generators : List Nat := [0x3b6a57b2, 0x26508e6d, 0x1ea119fa, 0x3d4233dd, 0x2a1462b3]

/-- The sum of the generators whose bits are set in `top`, from bit `i` on. -/
def generatorSum (top : Int) : (i : Nat) → List Nat → Nat
  | _, [] => 0
  | i, g :: gs => (if top / Nat.pow 2 i % 2 = 1 then g else 0) ^^^ generatorSum top (i + 1) gs

/-- One step of the checksum: shifts in a value and reduces what leaves at the top. -/
def polymodStep (chk value : Int) : Int :=
  xor ((chk % Nat.pow 2 25).toNat * 32 ^^^ generatorSum (chk / Nat.pow 2 25) 0 generators) value

/-- The residue of a sequence of values. -/
def polymod (values : List Int) : Int :=
  values.foldl polymodStep 1

/-- The values that stand for the human-readable part. -/
def expandHumanPart (human : List Char) : List Int :=
  human.map (fun c => (c.toNat / 32 : Int)) ++ 0 :: human.map fun c => (c.toNat % 32 : Int)

/-- The residue that an address of a version leaves. -/
def residueFor (version : Int) : Int :=
  if 1 ≤ version then residueV1 else residueV0

/-- The six values that make the residue come out. -/
def checksum (human : List Char) (values : List Int) (residue : Int) : List Int :=
  let remainder := polymod (expandHumanPart human ++ values ++ List.replicate 6 0)
  let difference := xor residue.toNat remainder
  [25, 20, 15, 10, 5, 0].map fun shift => difference / Nat.pow 2 shift % 32

/-- The character of a value; a negative one counts from the end of the alphabet. -/
def symbol? (value : Int) : Option Char :=
  if value < 0 then
    if -32 ≤ value then alphabet[(value + 32).toNat]? else none
  else alphabet[value.toNat]?

/-- The address of a witness program. -/
def encode (human : String) (version : Int) (program : Bytes) : Except AddressError String :=
  match Regroup.regroup? 8 5 true (program.map fun b => (b.toNat : Int)) with
  | none => .error .witnessProgram
  | some groups =>
      let values := version :: groups.map Int.ofNat
      let check := checksum human.toList values (residueFor version)
      match (values ++ check).mapM symbol? with
      | none => .error (.versionSymbol version)
      | some symbols => .ok (String.ofList (human.toList ++ '1' :: symbols))

/-- The human-readable part and the symbols after the last separator. -/
def splitAtSeparator? (text : List Char) : Option (List Char × List Char) :=
  let reversed := text.reverse
  match reversed.dropWhile (· ≠ '1') with
  | [] => none
  | _ :: human => some (human.reverse, (reversed.takeWhile (· ≠ '1')).reverse)

/-- The human-readable part, the values without the checksum, and the residue. -/
def decodeParts (text : List Char) : Except AddressError (List Char × List Int × Int) :=
  if Text.lowerChars text ≠ text ∧ !Text.isUpperForm text then .error .mixedCase
  else
    let text := Text.lowerChars text
    match splitAtSeparator? text with
    | none => .error .malformedSegwit
    | some (human, symbols) =>
        if human.isEmpty ∨ symbols.length < 6 ∨ 90 < text.length then .error .malformedSegwit
        else
          match symbols.mapM fun c => alphabet.idxOf? c with
          | none => .error .segwitCharacter
          | some values =>
              let values := values.map Int.ofNat
              .ok (human, values.take (values.length - 6),
                polymod (expandHumanPart human ++ values))

structure Decoded where
  human : String
  version : Nat
  program : Bytes
  deriving DecidableEq, Repr

/-- The witness program of an address. -/
def decode (text : String) : Except AddressError Decoded := do
  let (human, values, residue) ← decodeParts text.toList
  match values with
  | [] => throw .emptySegwit
  | version :: groups =>
      if 16 < version then throw (.witnessVersion version.toNat)
      if residue ≠ residueFor version then throw .segwitChecksum
      match Regroup.regroup? 5 8 false groups with
      | none => throw .witnessProgram
      | some program =>
          if program.length < 2 ∨ 40 < program.length then throw .witnessProgram
          if version = 0 ∧ program.length ≠ 20 ∧ program.length ≠ 32 then throw .versionZeroLength
          return ⟨String.ofList human, version.toNat, program.map UInt8.ofNat⟩

end BlobInscription.Segwit
