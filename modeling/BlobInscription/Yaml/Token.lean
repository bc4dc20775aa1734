namespace BlobInscription.Yaml

inductive Directive
  | version (major : Nat)
  | tagHandle (handle tagStart : String)
  | other
  deriving DecidableEq, Repr

inductive Token
  | directive (directive : Directive)
  | documentStart
  | documentEnd
  | blockSequenceStart
  | blockMappingStart
  | blockEnd
  | flowSequenceStart
  | flowSequenceEnd
  | flowMappingStart
  | flowMappingEnd
  | flowEntry
  | blockEntry
  | key
  | value
  | alias (name : String)
  | anchor (name : String)
  /-- A tag; without a handle, the suffix is the whole of it. -/
  | tag (handle? : Option String) (suffix : String)
  /-- A scalar; only plain ones, without quotes or indicators, may be numbers and the like. -/
  | scalar (text : String) (plain : Bool)
  deriving DecidableEq, Repr

end BlobInscription.Yaml
