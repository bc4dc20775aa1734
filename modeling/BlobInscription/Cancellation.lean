import BlobInscription.Number.Binary64

namespace BlobInscription

/-- How a wait was called off: by a token, before the wait began or while it lasted, or by the
clock. -/
inductive Cancellation
  | beforehand
  | whileWaiting
  /-- A failure that a clock reports in its own words. -/
  | reported (text : String)
  deriving DecidableEq, Repr

namespace Cancellation

def message : Cancellation → String
  | beforehand => "Operation cancelled"
  | whileWaiting => "Operation cancelled while waiting"
  | reported text => text

/-- Whether a token called the wait off. -/
def isByToken : Cancellation → Bool
  | beforehand | whileWaiting => true
  | reported _ => false

end Cancellation

/-- A flag shared by those who wait and those who may cancel the wait. -/
structure CancelToken where
  cancelled : Bool := false
  deriving DecidableEq, Repr

namespace CancelToken

def cancel (_ : CancelToken) : CancelToken :=
  ⟨true⟩

/-- Fails when the token is cancelled. -/
def check (token : CancelToken) : Except Cancellation Unit :=
  if token.cancelled then .error .beforehand else .ok ()

end CancelToken

namespace SystemClock

/-- How a clock of real time sleeps. Without a token it pauses for the whole time, which is the
result; with a token it waits on the token and has nothing to pause for. -/
def sleep (seconds : Binary64) : Option CancelToken → Except Cancellation (Option Binary64)
  | none => .ok (some seconds)
  | some token => if token.cancelled then .error .whileWaiting else .ok none

end SystemClock

end BlobInscription
