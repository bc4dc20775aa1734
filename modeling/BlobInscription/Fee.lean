import BlobInscription.Number.Binary64.Text
import BlobInscription.Rpc.Session

/-!
The fee rate of inscription transactions: the node's estimate, or a fallback when it has none, and
never below the rates that the node's policy asks for. Nodes give rates in coins per 1000 virtual
bytes; here they are in the smallest unit per virtual byte.
-/

namespace BlobInscription

/-- A rate below which a node does not relay or keep transactions. -/
structure FeeFloor where
  label : String
  rate : Binary64
  deriving DecidableEq, Repr

inductive FeeSource
  | estimate
  | fallback
  deriving DecidableEq, Repr

structure FeeSelection where
  rate : Binary64
  source : FeeSource
  /-- The floors that raised the rate. -/
  floors : List FeeFloor
  deriving DecidableEq, Repr

def FeeSource.name : FeeSource → String
  | estimate => "estimatesmartfee"
  | fallback => "fallback"

namespace Fee

/-- The number of blocks in which a transaction should be confirmed. -/
def confirmationTarget : Int := 1

/-- The smallest units in a coin. -/
def unitsPerCoin : Binary64 := .ofRatio false 100000000 1

/-- Converts a rate that a node gave. -/
def ofCoinsPerKilobyte (rate : Binary64) : Binary64 :=
  (rate.mul unitsPerCoin).divNat 1000

/-- The rate that a value shows. One that shows none is ignored, but a number beyond the range of
doubles is an error. -/
def readRate? (value : Datum) : Except FormError (Option Binary64) :=
  match value.toFloat with
  | .ok rate => .ok (some (ofCoinsPerKilobyte rate))
  | .error e => if e.isOverflow then .error e else .ok none

/-- The rate under a key of an answer. -/
def rateUnder? (entries : List (Datum × Datum)) (key : String) :
    Except FormError (Option Binary64) :=
  let value := Datum.lookup entries key
  if value.isNull then .ok none else readRate? value

/-- The rate of an estimate; an answer that does not count as given has none. -/
def readEstimate? (answer : Datum) : Except FormError (Option Binary64) := do
  if answer.truthy then rateUnder? (← answer.entries) "feerate" else return none

/-- The floor under a key of an answer, if the answer is a map that has it. -/
def readFloor (label : String) (answer? : Option Datum) : Except FormError (List FeeFloor) :=
  match answer? with
  | some (.map entries) => do
      return ((← rateUnder? entries label).map fun rate => ⟨label, rate⟩).toList
  | _ => .ok []

/-- The greatest rate of the floors. -/
def greatest (first : FeeFloor) (rest : List FeeFloor) : Binary64 :=
  rest.foldl (fun best floor => if best.lt floor.rate then floor.rate else best) first.rate

/-- Raises a rate to the greatest floor above it. -/
def raise (rate : Binary64) (source : FeeSource) : List FeeFloor → FeeSelection
  | [] => ⟨rate, source, []⟩
  | first :: rest =>
      let best := greatest first rest
      if rate.lt best then
        ⟨best, source, (first :: rest).filter fun floor => floor.rate.eq best⟩
      else ⟨rate, source, []⟩

/-- The floors of the node's policy. -/
def policyFloors : Rpc.Session (List FeeFloor) := do
  let mempool? ← Rpc.Session.tryCall .mempoolInfo
  let mempool ← Rpc.Session.reading (readFloor "mempoolminfee" mempool?)
  let network? ← Rpc.Session.tryCall .networkInfo
  let network ← Rpc.Session.reading (readFloor "relayfee" network?)
  return mempool ++ network

/-- The node's estimate, if it has one. -/
def estimate? (target : Int) : Rpc.Session (Option Binary64) := do
  match ← Rpc.Session.tryCall (.feeEstimate (.int target) .null) with
  | some answer => Rpc.Session.reading (readEstimate? answer)
  | none => return none

/-- Selects the rate. -/
def select (target : Int) (fallback : Binary64) : Rpc.Session FeeSelection := do
  let estimate? ← estimate? target
  let floors ← policyFloors
  match estimate? with
  | some rate => return raise rate .estimate floors
  | none => return raise fallback .fallback floors

/-- The text of floors in reports. -/
def floorsText (floors : List FeeFloor) : String :=
  if floors.isEmpty then "none"
  else ", ".intercalate (floors.map fun floor => s!"{floor.label}={floor.rate.twoPlaces} sat/vB")

end Fee

end BlobInscription
