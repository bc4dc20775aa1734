import BlobInscription.Network
import BlobInscription.PathName
import BlobInscription.Rpc.Endpoint
import BlobInscription.Yaml.Cursor

namespace BlobInscription

inductive ConfigError
  | missingFile (path : PathName)
  | unreadableFile (path : PathName)
  /-- A file that is not in UTF-8. -/
  | undecodableFile (reason : String)
  | invalidYaml (path : PathName)
  /-- A YAML document whose value there is not. -/
  | invalidValue (error : Yaml.Error)
  | notMap (path : PathName)
  | sectionNotMap (name : String) (path : PathName)
  | endpoint (error : Rpc.EndpointError)
  | noCredentials
  | invalidInteger (source shown : String)
  | invalidNumber (source shown : String)
  | noRollup
  | unknownNetwork (name : String)
  /-- The name of a network that is an integer too long to be shown. -/
  | longNetwork
  | outOfRange
  /-- A value that cannot stand where it does. -/
  | form (error : FormError)
  /-- A path that is no text. -/
  | pathNotText (kind : String)
  | unknownHome
  deriving DecidableEq, Repr

def ConfigError.message : ConfigError → String
  | missingFile path => s!"Config file not found: {path.text}"
  | unreadableFile path => s!"Cannot read config file {path.text}"
  | undecodableFile reason => reason
  | invalidYaml path => s!"Invalid YAML in config file {path.text}"
  | invalidValue error => error.message
  | notMap path => s!"Expected {path.text} to contain a YAML object with 'rpc' and 'da' sections"
  | sectionNotMap name path => s!"Expected '{name}' to be a mapping in {path.text}"
  | endpoint error => error.message
  | noCredentials =>
      "RPC credentials must be provided via BITCOIN_DA_RPC_* environment variables or a config file"
  | invalidInteger source shown => s!"Invalid integer in {source}: {shown}"
  | invalidNumber source shown => s!"Invalid number in {source}: {shown}"
  | noRollup => "A rollup name must be configured (BITCOIN_DA_ROLLUP_NAME or da.rollup_name)"
  | unknownNetwork name => Network.unknownMessage name
  | longNetwork => Datum.DisplayError.integerTooLong.message
  | outOfRange =>
      "finality_depth, polling_interval_seconds and completeness_prefix_bytes are out of range"
  | form error => error.message
  | pathNotText kind => s!"expected str, bytes or os.PathLike object, not {kind}"
  | unknownHome => "Could not determine home directory."

end BlobInscription
