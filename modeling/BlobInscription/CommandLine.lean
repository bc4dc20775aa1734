import BlobInscription.Checkpoint.Directory
import BlobInscription.CommandLine.Error
import BlobInscription.CommandLine.Invocation
import BlobInscription.CommandLine.Report
import BlobInscription.CommandLine.Surroundings

namespace BlobInscription.CommandLine

/-- A run, which may fail. -/
abbrev Run := ExceptT Error (Dialogue Answer)

namespace Run

/-- Asks the surroundings. -/
def ask (question : Question) : Run (Answer question) :=
  ExceptT.mk ((Dialogue.query question).bind fun answer => .done (.ok answer))

/-- A step that asks nothing. -/
def step {ε α : Type} (wrap : ε → Error) (result : Except ε α) : Run α :=
  ExceptT.mk (.done (result.mapError wrap))

/-- Runs a service of a configuration. -/
def serve {ε α : Type} (config : Config) (wrap : ε → Error)
    (service : ExceptT ε (Dialogue Service.Answer) α) : Run α :=
  ExceptT.mk (((service.run.relay fun question =>
    Dialogue.query (Question.service config question)) : Dialogue Answer (Except ε α)).bind
      fun result => .done (result.mapError wrap))

/-- The configuration for an invocation. -/
def loadConfig (s : Surroundings) (i : Invocation) : Run Config := do
  let (path, isExplicit) ← step .config (Config.choosePath s.homes none i.config? s.usualConfig)
  let entry ← ask (.entry path)
  step .config (Config.load {
    path
    isExplicit
    file := entry.content
    env := s.env
    overrides := i.overrides
    homes := s.homes })

/-- The block at a height, once it is final. -/
def finalBlock (config : Config) (patience : Nat) (height : Int) : Run Block :=
  serve config .polling (config.service.finalizedAt patience height)

/-- Shows the blobs of the final block at a height. -/
def extract (config : Config) (patience : Nat) (asJson withProof : Bool) (height : Int) :
    Run String := do
  let block ← finalBlock config patience height
  if withProof then
    let extraction ← step .width (config.service.extraction block)
    step .width (Report.extraction asJson block extraction)
  else
    let blobs ← step .width (config.service.blobsIn block)
    step .width (Report.blobs asJson block blobs)

/-- Checks the blobs of the final block at a height. -/
def verify (config : Config) (patience : Nat) (asJson : Bool) (height : Int) : Run String := do
  let block ← finalBlock config patience height
  let blobs ← step .verification (config.service.verified block)
  step .width (Report.verified asJson block blobs)

/-- The content of a file, or of the standard input. -/
def readBlob (s : Surroundings) (file : String) : Run Bytes := do
  if file = "-" then ask .input
  else
    let path ← step .config (Config.pathOf s.homes (.text file))
    match ← ask (.entry path) with
    | .missing => throw (.missingBlob path)
    | .directory _ => throw (.unreadableBlob path)
    | .file content => return content

/-- Publishes the content of a file. -/
def send (s : Surroundings) (config : Config) (asJson : Bool) (file builder : String) :
    Run String := do
  step .builder (s.builders.check builder)
  let blob ← readBlob s file
  if blob.isEmpty then throw .emptyBlob
  let receipt ← serve config .publish ({ config.service with hasBuilder := true }.publish blob)
  return Report.receipt asJson receipt

/-- Lists the saved reveal transactions. -/
def checkpoints (config : Config) (asJson : Bool) : Run String := do
  let directory := config.checkpoints
  let ids := match ← ask (.entry directory) with
    | .directory names => CheckpointDirectory.idsOf names
    | _ => []
  if asJson then return Report.json (.list (ids.map Datum.text))
  else if ids.isEmpty then return Report.lines [s!"No reveal checkpoints in {directory.text}"]
  else
    return Report.lines (ids.map fun id =>
      s!"{id}  {(directory.child (CheckpointDirectory.fileName id)).text}")

/-- Carries out an invocation; the result is what it shows. -/
def invocation (s : Surroundings) (patience : Nat) (i : Invocation) : Run String := do
  let config ← loadConfig s i
  match i.command with
  | .checkpoints => checkpoints config i.asJson
  | .send file builder => send s config i.asJson file builder
  | .finalized height =>
      let block ← finalBlock config patience height
      step .width (Report.block i.asJson block)
  | .block height =>
      let block ← serve config .polling (config.service.blockAt patience height)
      step .width (Report.block i.asJson block)
  | .extract height withProof => extract config patience i.asJson withProof height
  | .verify height => verify config patience i.asJson height

end Run

end BlobInscription.CommandLine
