import BlobInscription.Text.Quoted

namespace BlobInscription

inductive CheckpointError
  | invalidId (id : String)
  /-- Another transaction is stored under the identifier. -/
  | conflict (id : String)
  /-- The storage fails, in its own words. -/
  | storage (text : String)
  deriving DecidableEq, Repr

def CheckpointError.message : CheckpointError → String
  | invalidId id => s!"Invalid commit txid: {Text.quoted id}"
  | conflict id => s!"A different reveal transaction is already stored for commit {id}"
  | storage text => text

end BlobInscription
