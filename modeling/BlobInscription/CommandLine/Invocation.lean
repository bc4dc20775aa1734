import BlobInscription.CommandLine.Argument
import BlobInscription.Datum
import BlobInscription.Number.Numeral

namespace BlobInscription.CommandLine

inductive Command
  /-- Shows the block at a height, once it is final. -/
  | finalized (height : Int)
  /-- Shows the block at a height, once it exists. -/
  | block (height : Int)
  /-- Lists the blobs of the rollup in the final block at a height. -/
  | extract (height : Int) (withProof : Bool)
  /-- Checks the blobs of the final block at a height against their proofs. -/
  | verify (height : Int)
  /-- Publishes the content of a file. -/
  | send (file builder : String)
  /-- Lists the saved reveal transactions. -/
  | checkpoints
  deriving DecidableEq, Repr

structure Invocation where
  config? : Option String
  rollup? : Option String
  url? : Option String
  user? : Option String
  password? : Option String
  wallet? : Option String
  asJson : Bool
  command : Command
  deriving DecidableEq, Repr

/-- Why arguments are no invocation. -/
inductive Halt
  /-- They ask for help. -/
  | help
  | mistake (error : UsageError)
  deriving DecidableEq, Repr

/-- What switches stand for. -/
inductive Key
  | help
  | config
  | rollup
  | url
  | user
  | password
  | wallet
  | json
  | verbose
  | withProof
  | builder
  deriving DecidableEq, Repr

def helpSwitch : Switch Key := ⟨.help, ["-h", "--help"], false⟩

/-- The switches in front of a command. -/
def switches : List (Switch Key) := [
  helpSwitch,
  ⟨.config, ["--config"], true⟩,
  ⟨.rollup, ["--rollup-name"], true⟩,
  ⟨.url, ["--rpc-url"], true⟩,
  ⟨.user, ["--rpc-user"], true⟩,
  ⟨.password, ["--rpc-password"], true⟩,
  ⟨.wallet, ["--rpc-wallet"], true⟩,
  ⟨.json, ["--json"], false⟩,
  ⟨.verbose, ["-v", "--verbose"], false⟩]

/-- What has been read of arguments. The newest values come first. -/
structure Draft where
  values : List (Key × String) := []
  plain? : Option String := none
  words : List String := []
  unrecognized : List String := []
  deriving Repr

namespace Draft

def value? (d : Draft) (key : Key) : Option String :=
  d.values.lookup key

/-- Goes through what arguments say. A plain argument must be accepted when it is met. -/
def ofEvents (accepts : String → Except UsageError Unit) :
    List (Event Key) → Draft → Except Halt Draft
  | [], d => .ok d
  | .set .help _ :: _, _ => .error .help
  | .set key value :: rest, d => ofEvents accepts rest { d with values := (key, value) :: d.values }
  | .plain text :: rest, d => do
      (accepts text).mapError .mistake
      ofEvents accepts rest { d with plain? := some text }
  | .command words :: rest, d => ofEvents accepts rest { d with words }
  | .unrecognized text :: rest, d =>
      ofEvents accepts rest { d with unrecognized := d.unrecognized ++ [text] }
  | .mistake error :: _, _ => .error (.mistake error)

/-- What is read of arguments. -/
def ofTexts (switches : List (Switch Key)) (want : Want)
    (accepts : String → Except UsageError Unit) (texts : List String) : Except Halt Draft :=
  ofEvents accepts (Event.ofTexts switches want texts) {}

/-- The plain argument, which must be there. -/
def plain (d : Draft) (what : String) : Except Halt String :=
  match d.plain? with
  | some text => .ok text
  | none => .error (.mistake (.missing what))

end Draft

def readHeight (text : String) : Except UsageError Int :=
  (Number.readInteger text).mapError fun _ => .badNumber text

namespace Command

/-- The arguments of a command that takes a height, with a switch of its own or none. -/
def readHeightDraft (own : List (Switch Key)) (texts : List String) :
    Except Halt (Int × Draft) := do
  let check text := (readHeight text).map fun _ => ()
  let d ← Draft.ofTexts (helpSwitch :: own) .one check texts
  let height ← (readHeight (← d.plain "height")).mapError .mistake
  return (height, d)

/-- The arguments of the command that publishes. -/
def readSend (texts : List String) : Except Halt (Command × Draft) := do
  let d ← Draft.ofTexts [helpSwitch, ⟨.builder, ["--builder"], true⟩] .one (fun _ => .ok ()) texts
  let file ← d.plain "file"
  match d.value? .builder with
  | some builder => return (send file builder, d)
  | none => throw (.mistake (.missing "--builder"))

/-- The command in words, with what else they say. -/
def read : List String → Except Halt (Command × Draft)
  | [] => .error (.mistake (.missing "command"))
  | "finalized" :: rest => do
      let (height, d) ← readHeightDraft [] rest
      return (finalized height, d)
  | "block" :: rest => do
      let (height, d) ← readHeightDraft [] rest
      return (block height, d)
  | "extract" :: rest => do
      let (height, d) ← readHeightDraft [⟨.withProof, ["--with-proof"], false⟩] rest
      return (extract height (d.value? .withProof).isSome, d)
  | "verify" :: rest => do
      let (height, d) ← readHeightDraft [] rest
      return (verify height, d)
  | "send" :: rest => readSend rest
  | "checkpoints" :: rest => do
      return (checkpoints, ← Draft.ofTexts [helpSwitch] .nothing (fun _ => .ok ()) rest)
  | name :: _ => .error (.mistake (.unknownCommand name))

end Command

namespace Invocation

/-- The invocation that arguments make. -/
def read (arguments : List String) : Except Halt Invocation := do
  let d ← Draft.ofTexts switches .command (fun _ => .ok ()) arguments
  let (command, rest) ← Command.read d.words
  let unrecognized := d.unrecognized ++ rest.unrecognized
  if !unrecognized.isEmpty then throw (.mistake (.unrecognized unrecognized))
  return {
    config? := d.value? .config
    rollup? := d.value? .rollup
    url? := d.value? .url
    user? := d.value? .user
    password? := d.value? .password
    wallet? := d.value? .wallet
    asJson := (d.value? .json).isSome
    command }

/-- A setting, if it is given. -/
def setting (key : String) (value? : Option String) : List (Datum × Datum) :=
  (value?.map fun value => (Datum.text key, Datum.text value)).toList

/-- What overrides the configuration. An empty name of a rollup does not count. -/
def overrides (i : Invocation) : Datum :=
  let rpc := setting "endpoint" i.url? ++ setting "user" i.user? ++
    setting "password" i.password? ++ setting "wallet" i.wallet?
  .map ((.text "rpc", .map rpc) ::
    setting "rollup_name" (i.rollup?.filter fun name => !name.isEmpty))

end Invocation

end BlobInscription.CommandLine
