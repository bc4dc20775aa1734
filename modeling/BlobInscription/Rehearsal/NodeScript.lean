import BlobInscription.Node.Notation

namespace BlobInscription

structure NodeScript where
  /-- The heights of the tip, one for each time it is asked for; the last one stays. -/
  counts : List Int := []
  /-- The hash of every block; without one, blocks are named for their heights. -/
  hash? : Option Datum := none
  changeAddresses : Datum × Datum := (.null, .null)
  unspentOutputs : Except FormError (List UnspentOutput) := .ok []
  feeRate : Binary64 := Node.defaultFallbackRate
  /-- What signing appends to a transaction. -/
  signature : String := ""
  /-- What is answered to broadcasts of odd and of even number. -/
  ids : Datum × Datum := (.null, .null)
  /-- The failures by the name of the call, alone or followed by its number, as in `get_block#2`. -/
  failures : List (String × NodeError) := []

namespace NodeScript

/-- What is answered to the `n`th call of its kind, when no failure is planned. -/
def value (s : NodeScript) (n : Nat) : (call : NodeCall) → call.Answer
  | .blockCount => .ok ((s.counts[n - 1]?).getD (s.counts.getLastD 0))
  | .blockHash height => .ok (s.hash?.getD (.text s!"h{height}"))
  | .block .. => .ok default
  | .changeAddresses => .ok s.changeAddresses
  | .unspentOutputs => s.unspentOutputs.mapError .form
  | .feeRate => .ok s.feeRate
  | .sign raw => .ok (.text (raw ++ s.signature))
  | .broadcast _ => .ok (if n % 2 = 1 then s.ids.1 else s.ids.2)

/-- The failure planned for the `n`th call of a name. -/
def failure? (s : NodeScript) (name : String) (n : Nat) : Option NodeError :=
  s.failures.lookup s!"{name}#{n}" <|> s.failures.lookup name

/-- What is answered to a call, given all calls up to it. -/
def answer (s : NodeScript) (calls : List NodeCall) (call : NodeCall) : call.Answer :=
  let n := calls.countP fun earlier => earlier.name == call.name
  match s.failure? call.name n with
  | some error => .error error
  | none => s.value n call

end NodeScript

end BlobInscription
