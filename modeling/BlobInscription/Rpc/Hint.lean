import BlobInscription.Datum.Form
import BlobInscription.Rpc.Error
import BlobInscription.Text.Case

namespace BlobInscription.Rpc

inductive Hint
  | feeBelowRelay
  | unfunded
  | walletLocked
  | noWallet
  | heightAboveTip
  deriving DecidableEq, Repr

namespace Hint

def text : Hint → String
  | feeBelowRelay =>
      "The node rejected the transaction because the fee is below its minrelaytxfee policy. " ++
        "Raise the fee rate or lower minrelaytxfee in bitcoin.conf for a local test node."
  | unfunded =>
      "The wallet could not fund the inscription. Fund or unlock the wallet; unconfirmed " ++
        "outputs are included when listing UTXOs."
  | walletLocked => "The wallet is locked. Unlock it with walletpassphrase, then retry."
  | noWallet =>
      "No wallet is loaded. Set rpc.wallet (or BITCOIN_DA_RPC_WALLET) or load one with loadwallet."
  | heightAboveTip => "The requested block height is above the node's current tip."

/-- Whether one text occurs in another. -/
def occursIn (part : String) (whole : List Char) : Bool :=
  match whole with
  | [] => part.isEmpty
  | _ :: rest => part.toList.isPrefixOf whole || occursIn part rest

/-- Whether a text is a part of a message: a part of its text, one of its items or one of its
keys. -/
def isPartOf (part : String) : Datum → Except FormError Bool
  | .text t => .ok (occursIn part t.toList)
  | .list items => .ok (items.any fun item => item.same (.text part))
  | .map entries => .ok (entries.any fun (key, _) => key.same (.text part))
  | d => .error (.noMembership d.kindName)

/-- A message in lower case. -/
def lowered : Datum → Except FormError (List Char)
  | .text t => .ok (Text.lowerChars t.toList)
  | d => .error (.notText d.kindName)

/-- The hint on a refusal whose message matters. -/
def ofMessage (refusal : Refusal) : Except FormError (Option Hint) := do
  let message ← lowered refusal.message
  if occursIn "insufficient funds" message then return some unfunded
  if refusal.hasCode (-13) || occursIn "wallet passphrase" message ||
      occursIn "wallet locked" message then
    return some walletLocked
  if refusal.hasCode (-18) || occursIn "wallet not found" message then return some noWallet
  if refusal.hasCode Refusal.invalidParameter && occursIn "out of range" message then
    return some heightAboveTip
  return none

/-- The hint on a refusal. A code or a message of an unexpected kind is an error where it
matters. -/
def ofRefusal (refusal : Refusal) : Except FormError (Option Hint) := do
  if refusal.hasCode (-26) then
    if ← isPartOf "min relay fee not met" refusal.message then return some feeBelowRelay
  if !refusal.code.isHashable then throw (.notHashable refusal.code.kindName)
  if refusal.hasCode (-4) || refusal.hasCode (-6) then return some unfunded
  ofMessage refusal

/-- The hint on an error in the form in which nodes send it. What has no such form has no hint. -/
def ofDatum : Datum → Except FormError (Option Hint)
  | .map entries =>
      let message := ((Datum.lookup? entries "message").getD (.text "")).display
      ofRefusal ⟨Datum.lookup entries "code", .text message⟩
  | _ => .ok none

end Hint

end BlobInscription.Rpc
