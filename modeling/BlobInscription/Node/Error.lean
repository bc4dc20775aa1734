import BlobInscription.Datum.Form
import BlobInscription.Rpc.Error
import BlobInscription.Wire

namespace BlobInscription

inductive NodeError
  | rpc (error : Rpc.Error)
  /-- An answer that does not have the wanted form. -/
  | form (error : FormError)
  | undecodableBlock (hash : Datum)
  | hashMismatch (requested : Datum) (received : String)
  | noUnspentOutputs
  | incompleteSignature
  /-- A number of a block that does not fit its field. -/
  | width (error : Wire.WidthError)
  deriving Repr

namespace NodeError

def message : NodeError → String
  | rpc error => error.message
  | form error => error.message
  | undecodableBlock hash => s!"Node returned an undecodable block {hash.display}"
  | hashMismatch requested received =>
      s!"Block hash mismatch: requested {requested.display}, received {received}"
  | noUnspentOutputs => "Wallet has no UTXOs. Fund or unlock the sequencer wallet."
  | incompleteSignature => "Node failed to produce a complete signature set"
  | width error => error.message

/-- Whether the chain has no block at the wanted height yet. -/
def isHeightNotProduced : NodeError → Bool
  | rpc (.heightNotProduced _) => true
  | _ => false

end NodeError

end BlobInscription
