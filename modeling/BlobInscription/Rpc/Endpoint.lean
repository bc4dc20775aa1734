import BlobInscription.Datum.Display
import BlobInscription.Net.IpAddress
import BlobInscription.Text.Case

namespace BlobInscription.Rpc

/-- What a URL says of a node; what it does not say is left to other sources. -/
structure Endpoint where
  host? : Option String := none
  port? : Option Nat := none
  useHttps? : Option Bool := none
  deriving DecidableEq, Repr

/-- Why a value is not accepted as a URL. -/
inductive EndpointError
  /-- Neither a scheme nor a host. -/
  | invalid (url : String)
  | unbalancedBrackets
  | futureAddress
  | notAnAddress (host : String)
  | bracketedVersion4
  /-- A character that stands for a delimiter in another guise. -/
  | disguisedDelimiter (authority : String)
  | unreadablePort (port : String)
  | portOutOfRange
  | notText (kind : String)
  deriving DecidableEq, Repr

namespace EndpointError

def message : EndpointError → String
  | invalid url => s!"Invalid RPC endpoint URL: {url}"
  | unbalancedBrackets => "Invalid IPv6 URL"
  | futureAddress => "IPvFuture address is invalid"
  | notAnAddress host => s!"{Text.quoted host} does not appear to be an IPv4 or IPv6 address"
  | bracketedVersion4 => "An IPv4 address cannot be in brackets"
  | disguisedDelimiter authority =>
      s!"netloc '{authority}' contains invalid characters under NFKC normalization"
  | unreadablePort port => s!"Port could not be cast to integer value as {Text.quoted port}"
  | portOutOfRange => "Port out of range 0-65535"
  | notText kind => s!"'{kind}' object has no attribute 'decode'"

end EndpointError

namespace Endpoint

def isLetter (c : Char) : Bool :=
  ('a' ≤ c && c ≤ 'z') || ('A' ≤ c && c ≤ 'Z')

def isSchemeChar (c : Char) : Bool :=
  isLetter c || IpAddress.isDecimal c || c == '+' || c == '-' || c == '.'

/-- Control characters and blanks in front of a URL do not count, and neither do tabs and line ends
inside. -/
def clean (url : List Char) : List Char :=
  (url.dropWhile fun c => c.toNat ≤ 32).filter fun c => c != '\t' && c != '\r' && c != '\n'

/-- The text before a separator, and after it when it is there. -/
def cutAt (separator : Char) (text : List Char) : List Char × Option (List Char) :=
  match text.dropWhile (· != separator) with
  | [] => (text, none)
  | _ :: after => (text.takeWhile (· != separator), some after)

/-- The scheme in front of a URL, in lower case, and what follows. -/
def takeScheme (url : List Char) : List Char × List Char :=
  match cutAt ':' url with
  | (scheme, some rest) =>
      if (scheme.head?.any isLetter) && scheme.all isSchemeChar then (scheme.map Char.toLower, rest)
      else ([], url)
  | (_, none) => ([], url)

/-- The part of a URL that names a user, a host and a port. -/
def authorityOf : List Char → List Char
  | '/' :: '/' :: rest => rest.takeWhile fun c => c != '/' && c != '?' && c != '#'
  | _ => []

/-- Whether a text is an address of a version yet to come. -/
def isFutureAddress (host : List Char) : Bool :=
  match cutAt '.' (host.drop 1) with
  | (version, some rest) => !version.isEmpty && version.all IpAddress.isHexadecimal && !rest.isEmpty
  | (_, none) => false

/-- A host in brackets must be an address of version 6, or of a version yet to come. -/
def checkBracketed (host : List Char) : Except EndpointError Unit :=
  if host.head? == some 'v' then
    if isFutureAddress host then .ok () else .error .futureAddress
  else if IpAddress.isVersion4 host then .error .bracketedVersion4
  else if IpAddress.isVersion6 host then .ok ()
  else .error (.notAnAddress (String.ofList host))

def checkBrackets (authority : List Char) : Except EndpointError Unit :=
  match authority.contains '[', authority.contains ']' with
  | false, false => .ok ()
  | true, true => checkBracketed (cutAt ']' ((cutAt '[' authority).2.getD [])).1
  | _, _ => .error .unbalancedBrackets

/-- The characters whose compatibility forms contain a delimiter. -/
def disguises : List Nat := [
  0x2047, 0x2048, 0x2049, 0x2100, 0x2101, 0x2105, 0x2106, 0x2a74, 0xfe13, 0xfe16, 0xfe55, 0xfe56,
  0xfe5f, 0xfe6b, 0xff03, 0xff0f, 0xff1a, 0xff1f, 0xff20]

def checkDisguises (authority : List Char) : Except EndpointError Unit :=
  if authority.any fun c => disguises.contains c.toNat then
    .error (.disguisedDelimiter (String.ofList authority))
  else .ok ()

/-- The part of an authority after the user. -/
def withoutUser (authority : List Char) : List Char :=
  (authority.reverse.takeWhile (· != '@')).reverse

/-- The host and the port of an authority, as they are written. -/
def hostAndPort (authority : List Char) : List Char × List Char :=
  let place := withoutUser authority
  match cutAt '[' place with
  | (_, some bracketed) =>
      let (host, after) := cutAt ']' bracketed
      (host, (cutAt ':' (after.getD [])).2.getD [])
  | (_, none) =>
      let (host, port) := cutAt ':' place
      (host, port.getD [])

/-- A host is in lower case, except for its zone. -/
def normalHost (host : List Char) : List Char :=
  let name := host.takeWhile (· != '%')
  Text.lowerChars name ++ host.drop name.length

def readPort (port : List Char) : Except EndpointError (Option Nat) :=
  if port.isEmpty then .ok none
  else if !port.all IpAddress.isDecimal then .error (.unreadablePort (String.ofList port))
  else
    let n := port.foldl (fun n c => 10 * n + (c.toNat - 48)) 0
    if n ≤ 65535 then .ok (some n) else .error .portOutOfRange

/-- The endpoint that a URL names. -/
def ofUrl (url : String) : Except EndpointError Endpoint := do
  let (scheme, rest) := takeScheme (clean url.toList)
  let authority := authorityOf rest
  checkBrackets authority
  checkDisguises authority
  let (host, port) := hostAndPort authority
  if scheme.isEmpty && host.isEmpty then throw (.invalid url)
  let port? ← readPort port
  return {
    host? := if host.isEmpty then none else some (String.ofList (normalHost host))
    port?
    useHttps? := if scheme.isEmpty then none else some (scheme == "https".toList) }

/-- The endpoint in a configuration; a value that does not count as given names none. -/
def ofDatum (value : Datum) : Except EndpointError Endpoint :=
  match value with
  | .text url => if url.isEmpty then .ok {} else ofUrl url
  | d => if d.truthy then .error (.notText d.kindName) else .ok {}

end Endpoint

end BlobInscription.Rpc
