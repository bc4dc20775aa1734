import BlobInscription.Script
import BlobInscription.Address.Segwit
import BlobInscription.Address.Base58

namespace BlobInscription

/-- The family of encodings that an address belongs to. -/
inductive AddressKind
  | base58Main
  | base58Test
  | segwit (human : String)
  deriving DecidableEq, Repr

namespace AddressKind

def name : AddressKind → String
  | base58Main => "base58-main"
  | base58Test => "base58-test"
  | segwit human => human

/-- The networks whose addresses are of a kind. -/
def networks : AddressKind → List Network
  | base58Main => [.mainnet]
  | base58Test => [.testnet, .signet, .regtest]
  | segwit human => Network.all.filter fun network => network.humanPart == human

end AddressKind

structure Address where
  text : String
  kind : AddressKind
  scriptPubkey : Bytes
  deriving DecidableEq, Repr

namespace Address

/-- The version bytes of addresses of key hashes, and of script hashes: main, then test. -/
def keyHashVersions : UInt8 × UInt8 := (0x00, 0x6f)
def scriptHashVersions : UInt8 × UInt8 := (0x05, 0xc4)

/-- The script that pays to a witness program. -/
def witnessScript (version : Nat) (program : Bytes) : Bytes :=
  let opcode := if version = 0 then 0 else Opcode.one.toNat + version - 1
  UInt8.ofNat opcode :: UInt8.ofNat program.length :: program

def keyHashScript (hash : Bytes) : Bytes :=
  [0x76, 0xa9, 0x14] ++ hash ++ [0x88, 0xac]

def scriptHashScript (hash : Bytes) : Bytes :=
  [0xa9, 0x14] ++ hash ++ [0x87]

/-- The beginnings that mark a text as a segwit address. -/
def segwitBeginnings : List String := ["bcrt1", "bc1", "tb1"]

def ofSegwit (text : String) : Except AddressError Address := do
  let d ← Segwit.decode text
  return ⟨text, .segwit d.human, witnessScript d.version d.program⟩

def ofBase58 (text : String) : Except AddressError Address := do
  match ← Base58.decodeCheck text with
  | [] => throw .base58Length
  | version :: hash =>
      if hash.length ≠ 20 then throw .base58Length
      else if version = keyHashVersions.1 then return ⟨text, .base58Main, keyHashScript hash⟩
      else if version = keyHashVersions.2 then return ⟨text, .base58Test, keyHashScript hash⟩
      else if version = scriptHashVersions.1 then return ⟨text, .base58Main, scriptHashScript hash⟩
      else if version = scriptHashVersions.2 then return ⟨text, .base58Test, scriptHashScript hash⟩
      else throw (.base58Version version)

/-- Reads an address of any network. -/
def ofText (text : String) : Except AddressError Address :=
  let text := Text.strip text
  let low := Text.lowerChars text.toList
  if text.isEmpty then .error .empty
  else if segwitBeginnings.any fun start => start.toList.isPrefixOf low then ofSegwit text
  else ofBase58 text

def isValidFor (a : Address) (network : Network) : Bool :=
  a.kind.networks.contains network

/-- Reads an address that must belong to `network`. -/
def forNetwork (text : String) (network : Network) : Except AddressError Address := do
  let address ← ofText text
  if address.isValidFor network then return address else throw (.networkMismatch text network)

/-- The Taproot address of an output key. -/
def taproot (key : Bytes) (network : Network) : Except AddressError String :=
  if key.length = 32 then Segwit.encode network.humanPart 1 key
  else .error (.outputKeyLength key.length)

end Address

end BlobInscription
