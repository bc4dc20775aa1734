import BlobInscription.Text.Blank
import BlobInscription.Text.Case

namespace BlobInscription

inductive Network
  | mainnet
  | testnet
  | signet
  | regtest
  deriving DecidableEq, Repr

namespace Network

def all : List Network := [mainnet, testnet, signet, regtest]

def name : Network → String
  | mainnet => "bitcoin"
  | testnet => "testnet"
  | signet => "signet"
  | regtest => "regtest"

/-- Other names of networks. -/
def aliases : List (String × Network) :=
  [("main", mainnet), ("mainnet", mainnet), ("test", testnet)]

/-- The network of a name in any letter case, with blanks around it ignored. -/
def ofName? (text : String) : Option Network :=
  let wanted := Text.lower (Text.strip text)
  match aliases.lookup wanted with
  | some network => some network
  | none => all.find? fun network => network.name == wanted

/-- What is said of a name that no network has. -/
def unknownMessage (name : String) : String :=
  s!"Unknown network: {name}"

/-- The human-readable part of the network's segwit addresses. -/
def humanPart : Network → String
  | mainnet => "bc"
  | testnet | signet => "tb"
  | regtest => "bcrt"

end Network

end BlobInscription
