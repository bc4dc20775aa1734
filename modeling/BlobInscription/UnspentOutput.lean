import BlobInscription.Datum.Form

namespace BlobInscription

/-- An output of a wallet. The amount is in the smallest unit; address and script are kept as the
node gave them. -/
structure UnspentOutput where
  txid : String
  vout : Int
  amount : Int
  address : Datum := .null
  scriptPubkey : Datum := .null
  confirmations : Int := 0
  spendable : Bool := true
  solvable : Bool := true
  deriving Repr

namespace UnspentOutput

/-- The power of ten of the smallest units in a coin. -/
def coinPower : Nat := 8

/-- The decimal that a value shows. -/
def readDecimal (value : Datum) : Except FormError Number.Decimal :=
  match Number.Decimal.read? value.display with
  | some d => .ok d
  | none => .error (.decimal .unreadable)

/-- An amount of coins in the smallest unit, cut toward zero. -/
def amountOf (coins : Number.Decimal) : Except FormError Int :=
  ((coins.mulPowTen coinPower) >>= Number.Decimal.toInt).mapError .decimal

/-- Reads an entry of a wallet's list. -/
def ofDatum (entry : Datum) : Except FormError UnspentOutput := do
  let entries ← entry.entries
  let valueOr (key : String) (absent : Datum) := (Datum.lookup? entries key).getD absent
  let coins ← readDecimal (valueOr "amount" (.int 0))
  let txid ← Datum.require entries "txid"
  let vout ← (← Datum.require entries "vout").toInteger
  let amount ← amountOf coins
  let confirmations ← (valueOr "confirmations" (.int 0)).toInteger
  return {
    txid := txid.display
    vout
    amount
    address := valueOr "address" .null
    scriptPubkey := valueOr "scriptPubKey" .null
    confirmations
    spendable := (valueOr "spendable" (.bool true)).truthy
    solvable := (valueOr "solvable" (.bool true)).truthy }

end UnspentOutput

/-- The position of one smallest unit: an output, and an offset into its amount. -/
structure SatPoint where
  txid : String
  vout : Int
  offset : Int := 0
  deriving DecidableEq, Repr

def SatPoint.text (p : SatPoint) : String :=
  s!"{p.txid}:{p.vout}:{p.offset}"

end BlobInscription
