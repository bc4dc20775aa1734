import BlobInscription.CommandLine
import BlobInscription.Rpc.Http
import Std.Async.DNS
import Std.Async.TCP

open BlobInscription
open CommandLine (Question Answer Run Ending FileEntry Surroundings Invocation)

namespace BlobInscription.Main

/-- The name of an index. -/
def indexName : String := "index"

/-- How many times a block is waited for. -/
def patience : Nat := 1000000000

/-- The greatest size of a reply, in pieces of 64 KiB. -/
def replyPieces : Nat := 65536

def helpText : String :=
  "usage: [--config PATH] [--rollup-name NAME] [--rpc-url URL] [--rpc-user NAME] " ++
    "[--rpc-password PASSWORD] [--rpc-wallet NAME] [--json] [-v] COMMAND\n" ++
    "commands: finalized HEIGHT, block HEIGHT, extract [--with-proof] HEIGHT, verify HEIGHT, " ++
    "send FILE --builder MODULE:FACTORY, checkpoints"

/-- The variables that are looked at. -/
def variableNames : List String := [
  "BITCOIN_DA_RPC_URL", "BITCOIN_DA_RPC_USER", "BITCOIN_DA_RPC_PASSWORD", "BITCOIN_DA_RPC_HOST",
  "BITCOIN_DA_RPC_PORT", "BITCOIN_DA_RPC_USE_HTTPS", "BITCOIN_DA_RPC_WALLET",
  "BITCOIN_DA_ROLLUP_NAME", "BITCOIN_DA_NETWORK", "BITCOIN_DA_FINALITY_DEPTH",
  "BITCOIN_DA_POLLING_INTERVAL", "BITCOIN_DA_COMPLETENESS_PREFIX_BYTES",
  "BITCOIN_DA_CHECKPOINT_DIR", "BITCOIN_DA_ADDRESS", "BITCOIN_DA_SEQUENCER_PRIVATE_KEY"]

def surroundings : IO Surroundings := do
  let home := (← IO.getEnv "HOME").getD "/"
  let env ← variableNames.filterMapM fun name => do
    return (← IO.getEnv name).map fun value => (name, value)
  let usualConfig := (PathName.ofText home).child ".bitcoin-da.yaml"
  return { env, homes := [("", home)], usualConfig }

def readFile? (path : PathName) : IO (Option Bytes) := do
  try
    return some (← IO.FS.readBinFile path.text).toList
  catch _ => return none

/-- What there is under a path. -/
def entry (path : PathName) : IO FileEntry := do
  match ← readFile? path, ← readFile? (path.child indexName) with
  | some content, _ => return .file content
  | none, some index =>
      let text := (Text.ofUtf8 index).toOption.getD ""
      return .directory ((text.splitOn "\n").filter fun name => !name.isEmpty)
  | none, none => return .missing

/-- All of the standard input. -/
def input : IO Bytes := do
  return (← (← IO.getStdin).readToEnd).toUTF8.toList

/-- Receives until the other side closes. -/
def receive (client : Std.Async.TCP.Socket.Client) : IO Bytes := do
  let mut pieces : Array UInt8 := #[]
  for _ in [0:replyPieces] do
    match ← (client.recv? 65536).block with
    | some piece => pieces := pieces ++ piece.data
    | none => return pieces.toList
  return pieces.toList

/-- Sends a call and waits for the reply. -/
def transmit (c : Rpc.Connection) (call : Rpc.Call) : IO Rpc.Reply := do
  if c.useHttps then return .noConnection
  try
    let addresses ← (Std.Async.DNS.getAddrInfo c.host.display (toString c.port)).block
    let port := UInt16.ofNat c.port.toNat
    match addresses[0]? with
    | none => return .noConnection
    | some address =>
        let client ← Std.Async.TCP.Socket.Client.mk
        (client.connect (match address with
          | .v4 a => .v4 ⟨a, port⟩
          | .v6 a => .v6 ⟨a, port⟩)).block
        (client.send ⟨(Rpc.Http.message c call).toArray⟩).block
        return Rpc.Http.reply (← receive client)
  catch _ => return .noConnection

/-- Sleeps for a number of seconds, to the millisecond. -/
def sleep (seconds : Binary64) : IO Unit :=
  match (seconds.mul (.ofRatio false 1000 1)) with
  | .finite false units => IO.sleep (UInt32.ofNat (min (units / Binary64.unitsPerOne) 0xffffffff))
  | _ => return

/-- Saves a reveal transaction, and notes it in the index. -/
def save (directory : PathName) (id : String) (raw : Bytes) : IO (Except CheckpointError Unit) := do
  match CheckpointDirectory.fileOf id with
  | .error error => return .error error
  | .ok name =>
      match ← readFile? (directory.child name) with
      | some stored => return if stored = raw then .ok () else .error (.conflict id)
      | none =>
          try
            IO.FS.createDirAll directory.text
            IO.FS.writeBinFile (directory.child name).text ⟨raw.toArray⟩
            let index ← IO.FS.Handle.mk (directory.child indexName).text .append
            index.putStrLn name
            return .ok ()
          catch error => return .error (.storage (toString error))

def answer : (q : Question) → IO (Answer q)
  | .entry path => entry path
  | .input => input
  | .service config (.call call) => do return (← transmit config.rpc call).result
  | .service _ .cancelled => return false
  | .service _ (.sleep seconds) => do
      sleep seconds
      return .ok ()
  | .service _ (.build _) => return .error (.reported "There are no builders")
  | .service config (.saveReveal id raw) => save config.checkpoints id raw

/-- Carries out an invocation; the result is the exit status. -/
def run (i : Invocation) : IO UInt32 := do
  let ending := Ending.ofResult (← (Run.invocation (← surroundings) patience i).run.run answer)
  IO.print ending.output
  IO.eprint ending.complaint
  return UInt32.ofNat ending.status

end BlobInscription.Main

def main (arguments : List String) : IO UInt32 := do
  match Invocation.read arguments with
  | .ok i => Main.run i
  | .error .help =>
      IO.println Main.helpText
      return 0
  | .error (.mistake error) =>
      IO.eprintln s!"error: {error.message}"
      return 2
