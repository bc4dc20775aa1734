import BlobInscription.Config.Sources
import BlobInscription.Rpc.Connection
import BlobInscription.Service

namespace BlobInscription

structure Config where
  rpc : Rpc.Connection
  rollup : String
  network : Network := .regtest
  /-- Receives the inscriptions and the change. -/
  address : String := ""
  privateKey : String := ""
  depth : Int := 4
  interval : Binary64 := .ofRatio false 10 1
  filter : SampleFilter := .standard
  checkpoints : PathName
  deriving Repr

namespace Config

def defaultHost : String := "127.0.0.1"

def defaultPort : Int := 18443

def defaultDepth : Int := 4

def defaultInterval : Binary64 := .ofRatio false 10 1

def defaultCheckpoints : String := "reveal-checkpoints"

/-- The endpoint that the settings name. -/
def endpoint (l : Layers) : Except ConfigError Rpc.Endpoint :=
  (Rpc.Endpoint.ofDatum (l.pick "endpoint" "BITCOIN_DA_RPC_URL")).mapError .endpoint

/-- The first host of overrides, endpoint, environment and file. -/
def hostOf (l : Layers) (e : Rpc.Endpoint) : Datum :=
  let (override, env, file) := l.values "host" "BITCOIN_DA_RPC_HOST"
  firstOf [override, (e.host?.map Datum.text).getD .null, env, file, .text defaultHost]

/-- The first port of overrides, endpoint, environment and file. All of them must be numbers. -/
def portOf (path : PathName) (l : Layers) (e : Rpc.Endpoint) (nesting : Nat) :
    Except ConfigError Int := do
  let (override, env, file) := l.values "port" "BITCOIN_DA_RPC_PORT"
  let override? ← readInt? "overrides" override nesting
  let env? ← readInt? "environment" env nesting
  let file? ← readInt? s!"{path.text} rpc.port" file nesting
  return ((override? <|> e.port?.map Int.ofNat) <|> env? <|> file?).getD defaultPort

/-- The first truth value of overrides, endpoint, environment and file. -/
def httpsOf (l : Layers) (e : Rpc.Endpoint) : Bool :=
  let (override, env, file) := l.values "use_https" "BITCOIN_DA_RPC_USE_HTTPS"
  ((readBool? override <|> e.useHttps?) <|> readBool? env <|> readBool? file).getD false

/-- How to reach the node, with settings of the `rpc` section. -/
def connection (s : Sources) : Except ConfigError Rpc.Connection := do
  let file ← s.sectionOf "rpc"
  let overrides ← overrideEntries s.overrides
  let l : Layers := { overrides, env := s.env, file }
  let endpoint ← endpoint l
  let user := l.pick "user" "BITCOIN_DA_RPC_USER"
  let password := l.pick "password" "BITCOIN_DA_RPC_PASSWORD"
  if !user.truthy || !password.truthy then throw .noCredentials
  let port ← portOf s.path l endpoint s.nesting
  return {
    user := ← textOf user s.nesting
    password := ← textOf password s.nesting
    host := hostOf l endpoint
    port
    useHttps := httpsOf l endpoint
    wallet := l.pick "wallet" "BITCOIN_DA_RPC_WALLET" }

/-- A value, or another when it does not count as given. -/
def orElse (value absent : Datum) : Datum :=
  if value.truthy then value else absent

def networkOf (l : Layers) (nesting : Nat) : Except ConfigError Network :=
  let named := orElse (l.pick "network" "BITCOIN_DA_NETWORK") (.text Network.regtest.name)
  match named.toText nesting with
  | .error .integerTooLong => .error .longNetwork
  | .error .tooDeep => .error (.form (.noText .tooDeep))
  | .ok name =>
      match Network.ofName? name with
      | some network => .ok network
      | none => .error (.unknownNetwork name)

/-- Depth, interval and filter, each in its range. -/
def limitsOf (l : Layers) (nesting : Nat) :
    Except ConfigError (Int × Binary64 × SampleFilter) := do
  let depth? ← readInt? "finality_depth" (l.pick "finality_depth" "BITCOIN_DA_FINALITY_DEPTH")
    nesting
  let interval? ← readFloat? "polling_interval_seconds"
    (l.pick "polling_interval_seconds" "BITCOIN_DA_POLLING_INTERVAL") nesting
  let zeroBytes? ← readInt? "completeness_prefix_bytes"
    (l.pick "completeness_prefix_bytes" "BITCOIN_DA_COMPLETENESS_PREFIX_BYTES") nesting
  let depth := depth?.getD defaultDepth
  let interval := interval?.getD defaultInterval
  if depth < 0 || interval.lt .zero then throw .outOfRange
  match zeroBytes? with
  | none => return (depth, interval, .standard)
  | some n =>
      match SampleFilter.ofInt? n with
      | some filter => return (depth, interval, filter)
      | none => throw .outOfRange

/-- The path that a value names. -/
def pathOf (homes : List (String × String)) (value : Datum) : Except ConfigError PathName :=
  match value with
  | .text text =>
      match (PathName.ofText text).expandHome? homes with
      | some path => .ok path
      | none => .error .unknownHome
  | value => .error (.pathNotText value.kindName)

/-- The configuration, with settings of the `da` section. -/
def load (s : Sources) : Except ConfigError Config := do
  let file ← s.sectionOf "da"
  let overrides ← overrideEntries s.overrides
  let l : Layers := { overrides, env := s.env, file }
  let rpc ← connection { s with overrides := Datum.lookup overrides "rpc" }
  let rollup := l.pick "rollup_name" "BITCOIN_DA_ROLLUP_NAME"
  if !rollup.truthy then throw .noRollup
  let network ← networkOf l s.nesting
  let (depth, interval, filter) ← limitsOf l s.nesting
  return {
    rpc
    rollup := ← textOf rollup s.nesting
    network
    address := ← textOf (orElse (l.pick "address" "BITCOIN_DA_ADDRESS") (.text "")) s.nesting
    privateKey := ← textOf
      (orElse (l.pick "sequencer_da_private_key" "BITCOIN_DA_SEQUENCER_PRIVATE_KEY") (.text ""))
      s.nesting
    depth
    interval
    filter
    checkpoints := ← pathOf s.homes
      (orElse (l.pick "checkpoint_dir" "BITCOIN_DA_CHECKPOINT_DIR") (.text defaultCheckpoints)) }

/-- The file to read and whether it must exist: a given one, a remembered one or the usual one. -/
def choosePath (homes : List (String × String)) (given? remembered? : Option String)
    (usual : PathName) : Except ConfigError (PathName × Bool) := do
  let remembered? := remembered?.filter fun path => !path.isEmpty
  match given?, remembered? with
  | some path, _ | none, some path => return (← pathOf homes (.text path), true)
  | none, none => return (usual, false)

/-- The service of a configuration. -/
def service (c : Config) : Service where
  rollup := c.rollup
  network := c.network
  filter := c.filter
  depth := c.depth
  interval := c.interval
  destination := c.address
  privateKey := c.privateKey

end Config

end BlobInscription
