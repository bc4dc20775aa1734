import BlobInscription.Node

namespace BlobInscription.NodeCall

def name : NodeCall → String
  | blockCount => "get_block_count"
  | blockHash _ => "get_block_hash"
  | block .. => "get_block"
  | changeAddresses => "get_change_addresses"
  | unspentOutputs => "get_utxos"
  | feeRate => "estimate_smart_fee"
  | sign _ => "sign_raw_transaction_with_wallet"
  | broadcast _ => "send_raw_transaction"

def arguments : NodeCall → List Datum
  | blockHash height => [.int height]
  | block hash rollup => [hash, .text rollup]
  | sign raw => [.text raw]
  | broadcast raw => [raw]
  | _ => []

/-- The name and the arguments. -/
def words (call : NodeCall) : List Datum :=
  .text call.name :: call.arguments

/-- The call of a name and arguments. -/
def ofWords? : (name : String) → (arguments : List Datum) → Option NodeCall
  | "get_block_count", [] => some blockCount
  | "get_block_hash", [.int height] => some (blockHash height)
  | "get_block", [hash, .text rollup] => some (block hash rollup)
  | "get_change_addresses", [] => some changeAddresses
  | "get_utxos", [] => some unspentOutputs
  | "estimate_smart_fee", [] => some feeRate
  | "sign_raw_transaction_with_wallet", [.text raw] => some (sign raw)
  | "send_raw_transaction", [raw] => some (broadcast raw)
  | _, _ => none

@[simp] theorem ofWords?_words (call : NodeCall) :
    ofWords? call.name call.arguments = some call := by
  cases call <;> rfl

end BlobInscription.NodeCall
