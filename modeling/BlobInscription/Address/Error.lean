import BlobInscription.Network
import BlobInscription.Text.Quoted

namespace BlobInscription

inductive AddressError
  | empty
  | mixedCase
  | malformedSegwit
  | segwitCharacter
  | emptySegwit
  | witnessVersion (version : Nat)
  | segwitChecksum
  | witnessProgram
  | versionZeroLength
  /-- A witness version that no character of the alphabet shows. -/
  | versionSymbol (version : Int)
  | base58Character (c : Char)
  | base58Short
  | base58Checksum
  | base58Length
  | base58Version (version : UInt8)
  | outputKeyLength (length : Nat)
  | networkMismatch (text : String) (network : Network)
  deriving DecidableEq, Repr

namespace AddressError

def message : AddressError → String
  | empty => "Address is empty"
  | mixedCase => "Mixed-case bech32 address"
  | malformedSegwit => "Malformed bech32 address"
  | segwitCharacter => "Invalid bech32 character"
  | emptySegwit => "Empty segwit payload"
  | witnessVersion version => s!"Invalid witness version {version}"
  | segwitChecksum => "Bad bech32 checksum"
  | witnessProgram => "Invalid witness program"
  | versionZeroLength => "Invalid v0 witness program length"
  | versionSymbol _ => "string index out of range"
  | base58Character c => s!"Invalid base58 character {Text.quoted c.toString}"
  | base58Short => "Base58 payload too short"
  | base58Checksum => "Bad base58 checksum"
  | base58Length => "Base58 address must carry a 20-byte hash"
  | base58Version version =>
      "Unknown base58 version byte 0x" ++ String.ofList (Text.escapeDigits 2 version.toNat)
  | outputKeyLength length => s!"Output key must be 32 bytes, got {length}"
  | networkMismatch text network => s!"Address {text} is not valid for network {network.name}"

/-- Whether the text is an address, but one of another network. -/
def isMismatch : AddressError → Bool
  | networkMismatch .. => true
  | _ => false

end AddressError

end BlobInscription
