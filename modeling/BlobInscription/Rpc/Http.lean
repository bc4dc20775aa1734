import BlobInscription.Bytes.Base64
import BlobInscription.Rpc.Call
import BlobInscription.Text.Utf8

namespace BlobInscription.Rpc.Http

/-- The body of the message for a call. -/
def body (call : Call) : Bytes :=
  Bytes.ofText (Json.render Json.compact 0 (.map [
    (.text "jsonrpc", .text "2.0"),
    (.text "id", .text call.method),
    (.text "method", .text call.method),
    (.text "params", call.params)]))

/-- The path part of the URL that calls are sent to. -/
def path (c : Connection) : String :=
  if c.wallet.truthy then s!"/wallet/{c.wallet.display}" else "/"

/-- The message for a call. -/
def message (c : Connection) (call : Call) : Bytes :=
  let body := body call
  let credentials := String.ofList (Base64.encode (Bytes.ofText s!"{c.user}:{c.password}"))
  let head := [
    s!"POST {path c} HTTP/1.0",
    s!"Host: {c.host.display}:{c.port}",
    s!"Authorization: Basic {credentials}",
    "Content-Type: application/json",
    s!"Content-Length: {body.length}"]
  Bytes.ofText (String.join (head.map fun line => line ++ "\r\n") ++ "\r\n") ++ body

/-- What follows the first empty line. -/
def afterHead : List Char → List Char
  | '\r' :: '\n' :: '\r' :: '\n' :: rest => rest
  | _ :: rest => afterHead rest
  | [] => []

/-- The status in the first line, which stands after the version. -/
def status? (text : List Char) : Option Nat :=
  let word := ((text.dropWhile (· != ' ')).drop 1).takeWhile (· != ' ')
  (String.ofList word).toNat?

/-- What makes a type of content name an encoding. -/
def encodingMarks : List String := ["charset", "text", "application/json"]

/-- Whether the type of the content, in one of the lines before the first empty one, names an
encoding. -/
def namesEncoding (text : String) : Bool :=
  let head := (text.splitOn "\r\n").takeWhile fun line => !line.isEmpty
  match head.map String.toLower |>.find? fun line => line.startsWith "content-type:" with
  | some line => encodingMarks.any fun mark => 1 < (line.splitOn mark).length
  | none => false

/-- The reply in a message. -/
def reply (message : Bytes) : Reply :=
  match Text.ofUtf8 message with
  | .error _ => .noConnection
  | .ok text =>
      match status? text.toList with
      | some status =>
          .response status (String.ofList (afterHead text.toList)) (namesEncoding text)
      | none => .noConnection

end BlobInscription.Rpc.Http
