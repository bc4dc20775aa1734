import BlobInscription.Yaml.Lexer

namespace BlobInscription.Yaml

/-- A node with its tag; a scalar without one takes the tag that its text suggests. -/
inductive Node
  | scalar (tag? : Option String) (text : String)
  | sequence (tag? : Option String) (items : List Node)
  | mapping (tag? : Option String) (entries : List (Node × Node))
  /-- An alias of a node around it. -/
  | enclosing
  deriving Repr, Inhabited

namespace Node

/-- What standard tags start with. -/
def standardStart : String := "tag:yaml.org,2002:"

/-- The handles that are known without being declared. -/
def standardHandles : List (String × String) := [("!", "!"), ("!!", standardStart)]

/-- The tag of text. -/
def textTag : String := standardStart ++ "str"

/-- A node without content. -/
def empty : Node :=
  scalar none ""

/-- What a parser has left, and what it has learned. -/
structure Parser where
  tokens : List Token
  anchors : List (String × Node) := []
  handles : List (String × String) := standardHandles

abbrev Parse := StateT Parser (Except Error)

def malformed {α : Type} : Parse α :=
  throw Error.malformed

def peek? : Parse (Option Token) :=
  return (← get).tokens.head?

/-- Takes the next token. -/
def drop : Parse Unit :=
  modify fun s => { s with tokens := s.tokens.tail }

/-- Takes the next token if it is a given one. -/
def accept (token : Token) : Parse Bool := do
  if (← peek?) == some token then
    drop
    return true
  else return false

def takeAnchor? : Parse (Option String) := do
  match ← peek? with
  | some (.anchor name) =>
      drop
      return some name
  | _ => return none

/-- The tag that a handle and a suffix give. -/
def tagOf (handles : List (String × String)) (handle? : Option String) (suffix : String) :
    Except Error String :=
  match handle? with
  | none => .ok suffix
  | some handle =>
      match handles.lookup handle with
      | some start => .ok (start ++ suffix)
      | none => .error .malformed

def takeTag? : Parse (Option String) := do
  match ← peek? with
  | some (.tag handle? suffix) =>
      drop
      return some (← tagOf (← get).handles handle? suffix)
  | _ => return none

/-- What is written in front of a node: an anchor and a tag, in either order. -/
def takeProperties : Parse (Option String × Option String) := do
  match ← takeAnchor? with
  | some anchor => return (some anchor, ← takeTag?)
  | none =>
      let tag? ← takeTag?
      return (← takeAnchor?, tag?)

/-- The tag of a scalar: a plain one without a tag, and one with the empty tag, take the tag that
their text suggests. -/
def scalarTag (tag? : Option String) (plain : Bool) : Option String :=
  match tag? with
  | none => if plain then none else some textTag
  | some tag => if tag == "!" then none else some tag

/-- The tag of a collection, when it is not the standard one. -/
def collectionTag (tag? : Option String) : Option String :=
  if tag? == some "!" then none else tag?

/-- Names a node. -/
def name (anchor? : Option String) (node : Node) : Parse Node := do
  match anchor? with
  | none => return node
  | some anchor =>
      modify fun s => { s with anchors := (anchor, node) :: s.anchors }
      return node

/-- The node that an alias stands for. -/
def aliased (anchor : String) : Parse Node := do
  match (← get).anchors.lookup anchor with
  | some node => return node
  | none => malformed

/-- Whether a token cannot start the node of an entry. -/
def endsEntry (ends : List Token) (token? : Option Token) : Bool :=
  match token? with
  | some token => ends.contains token
  | none => false

/-- Enters a collection, whose name is known inside already; what is left of the nesting there. Each
collection takes two calls. -/
def enter (anchor? : Option String) (nesting : Nat) : Parse Nat := do
  let _ ← name anchor? enclosing
  if nesting < 2 then throw .tooDeep else return nesting - 2

mutual

/-- Reads a node. In blocks it may be a block itself, and after a key a sequence that is not
indented. -/
def parse (inBlock indentless : Bool) : (fuel nesting : Nat) → Parse Node
  | 0, _ => malformed
  | fuel + 1, nesting => do
      if let some (.alias anchor) ← peek? then
        drop
        return ← aliased anchor
      let (anchor?, tag?) ← takeProperties
      if let some anchor := anchor? then
        if ((← get).anchors.lookup anchor).isSome then malformed
      let token? ← peek?
      if indentless && token? == some .blockEntry then
        let nesting ← enter anchor? nesting
        name anchor? (sequence (collectionTag tag?) (← looseItems fuel nesting []))
      else
        match token? with
        | some (.scalar text plain) =>
            drop
            name anchor? (scalar (scalarTag tag? plain) text)
        | some .flowSequenceStart =>
            drop
            let nesting ← enter anchor? nesting
            name anchor? (sequence (collectionTag tag?) (← flowItems fuel nesting true []))
        | some .flowMappingStart =>
            drop
            let nesting ← enter anchor? nesting
            name anchor? (mapping (collectionTag tag?) (← flowEntries fuel nesting true []))
        | some .blockSequenceStart =>
            if !inBlock then malformed
            drop
            let nesting ← enter anchor? nesting
            name anchor? (sequence (collectionTag tag?) (← blockItems fuel nesting []))
        | some .blockMappingStart =>
            if !inBlock then malformed
            drop
            let nesting ← enter anchor? nesting
            name anchor? (mapping (collectionTag tag?) (← blockEntries fuel nesting []))
        | _ =>
            if anchor?.isNone && tag?.isNone then malformed
            name anchor? (scalar (scalarTag tag? true) "")
termination_by structural fuel _ => fuel

/-- Reads the node of an entry, which is empty before certain tokens. -/
def parseEntry (inBlock indentless : Bool) (ends : List Token) :
    (fuel nesting : Nat) → Parse Node
  | 0, _ => malformed
  | fuel + 1, nesting => do
      if endsEntry ends (← peek?) then return empty else parse inBlock indentless fuel nesting
termination_by structural fuel _ => fuel

/-- The items of an indented sequence. -/
def blockItems : (fuel nesting : Nat) → (done : List Node) → Parse (List Node)
  | 0, _, _ => malformed
  | fuel + 1, nesting, done => do
      if ← accept .blockEntry then
        let item ← parseEntry true false [.blockEntry, .blockEnd] fuel nesting
        blockItems fuel nesting (item :: done)
      else if ← accept .blockEnd then return done.reverse
      else malformed
termination_by structural fuel _ _ => fuel

/-- The items of a sequence that is not indented. -/
def looseItems : (fuel nesting : Nat) → (done : List Node) → Parse (List Node)
  | 0, _, _ => malformed
  | fuel + 1, nesting, done => do
      if ← accept .blockEntry then
        let item ← parseEntry true false [.blockEntry, .key, .value, .blockEnd] fuel nesting
        looseItems fuel nesting (item :: done)
      else return done.reverse
termination_by structural fuel _ _ => fuel

/-- The entries of an indented mapping. -/
def blockEntries : (fuel nesting : Nat) → (done : List (Node × Node)) → Parse (List (Node × Node))
  | 0, _, _ => malformed
  | fuel + 1, nesting, done => do
      if ← accept .key then
        let key ← parseEntry true true [.key, .value, .blockEnd] fuel nesting
        let value ← if ← accept .value then
            parseEntry true true [.key, .value, .blockEnd] fuel nesting
          else pure empty
        blockEntries fuel nesting ((key, value) :: done)
      else if ← accept .blockEnd then return done.reverse
      else malformed
termination_by structural fuel _ _ => fuel

/-- The items of a sequence in brackets. A key starts a mapping of one entry. -/
def flowItems : (fuel nesting : Nat) → (isFirst : Bool) → (done : List Node) → Parse (List Node)
  | 0, _, _, _ => malformed
  | fuel + 1, nesting, isFirst, done => do
      if ← accept .flowSequenceEnd then return done.reverse
      if !isFirst then
        if !(← accept .flowEntry) then malformed
      if ← accept .flowSequenceEnd then return done.reverse
      if ← accept .key then
        let inner ← enter none nesting
        let key ← parseEntry false false [.value, .flowEntry, .flowSequenceEnd] fuel inner
        let value ← if ← accept .value then
            parseEntry false false [.flowEntry, .flowSequenceEnd] fuel inner
          else pure empty
        flowItems fuel nesting false (mapping none [(key, value)] :: done)
      else
        let item ← parse false false fuel nesting
        flowItems fuel nesting false (item :: done)
termination_by structural fuel _ _ _ => fuel

/-- The entries of a mapping in braces. A node by itself is a key without a value. -/
def flowEntries : (fuel nesting : Nat) → (isFirst : Bool) → (done : List (Node × Node)) →
    Parse (List (Node × Node))
  | 0, _, _, _ => malformed
  | fuel + 1, nesting, isFirst, done => do
      if ← accept .flowMappingEnd then return done.reverse
      if !isFirst then
        if !(← accept .flowEntry) then malformed
      if ← accept .flowMappingEnd then return done.reverse
      if ← accept .key then
        let key ← parseEntry false false [.value, .flowEntry, .flowMappingEnd] fuel nesting
        let value ← if ← accept .value then
            parseEntry false false [.flowEntry, .flowMappingEnd] fuel nesting
          else pure empty
        flowEntries fuel nesting false ((key, value) :: done)
      else
        let key ← parse false false fuel nesting
        flowEntries fuel nesting false ((key, empty) :: done)
termination_by structural fuel _ _ _ => fuel

end

/-- Learns a handle; each may be declared once. -/
def declare (declared : List (String × String)) (handle tagStart : String) :
    Except Error (List (String × String)) :=
  if (declared.lookup handle).isSome then .error .malformed
  else .ok ((handle, tagStart) :: declared)

/-- Reads directives: whether a version has been given, and the declared handles. -/
def readDirectives : List Token → (versioned : Bool) → (declared : List (String × String)) →
    Except Error (List Token × List (String × String))
  | .directive (.version major) :: rest, versioned, declared =>
      if versioned || major != 1 then .error .malformed else readDirectives rest true declared
  | .directive (.tagHandle handle tagStart) :: rest, versioned, declared => do
      readDirectives rest versioned (← declare declared handle tagStart)
  | .directive .other :: rest, versioned, declared => readDirectives rest versioned declared
  | rest, _, declared => .ok (rest, declared)

/-- Whether a document has no content before a token. -/
def endsDocument : Option Token → Bool
  | none | some .documentStart | some .documentEnd | some (.directive _) => true
  | _ => false

/-- The content of the document whose start has been read, which must be the only one. -/
def parseDocument (nesting : Nat) (handles : List (String × String)) (tokens : List Token) :
    Except Error Node := do
  let (node, s) ← if endsDocument tokens.head? then pure (empty, { tokens, handles })
    else (parse true false (4 * tokens.length + 4) nesting).run { tokens, handles }
  if s.tokens.all (· == .documentEnd) then return node else throw .malformed

/-- The tree of the document with some tokens; nothing when they are none. -/
def ofTokens? (nesting : Nat) (tokens : List Token) : Except Error (Option Node) := do
  match tokens with
  | [] => return none
  | .directive _ :: _ | .documentStart :: _ =>
      let (rest, declared) ← readDirectives tokens false []
      match rest with
      | .documentStart :: rest =>
          return some (← parseDocument nesting (declared ++ standardHandles) rest)
      | _ => throw .malformed
  | tokens =>
      if tokens.head? == some .documentEnd then throw .malformed
      return some (← parseDocument nesting standardHandles tokens)

end Node

/-- The tree of a text, which is one document; nothing when the text is empty. -/
def document (text : String) (nesting : Nat) : Except Error (Option Node) := do
  Node.ofTokens? nesting (← tokens text)

end BlobInscription.Yaml
