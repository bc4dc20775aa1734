import BlobInscription.Datum.Display

namespace BlobInscription.Rpc

/-- A host and a wallet may be any value of a configuration file; they are shown as texts in the
URL. A wallet that does not count as given is none. -/
structure Connection where
  user : String
  password : String
  host : Datum := .text "127.0.0.1"
  port : Int := 18443
  useHttps : Bool := false
  wallet : Datum := .null
  deriving Repr

namespace Connection

def scheme (c : Connection) : String :=
  if c.useHttps then "https" else "http"

/-- The URL of the node. -/
def baseUrl (c : Connection) : String :=
  s!"{c.scheme}://{c.host.display}:{c.port}"

/-- The URL that calls are sent to. -/
def url (c : Connection) : String :=
  if c.wallet.truthy then s!"{c.baseUrl}/wallet/{c.wallet.display}" else c.baseUrl

end Connection

end BlobInscription.Rpc
