import BlobInscription.Yaml.Name
import BlobInscription.Yaml.Scalar.Block

/-!
Tokens from text. Indentation opens and closes blocks. A key in front of a colon is known as a key
only when the colon is met, so each place where one may have started is kept as pending, and the
tokens that announce a key are put in there afterwards.
-/

namespace BlobInscription.Yaml

/-- A place where a key may have started. A required one must be followed by its colon. -/
structure PendingKey where
  /-- How many tokens come before it. -/
  place : Nat
  required : Bool
  column : Nat
  line : Nat
  /-- How much of the text was left. -/
  left : Nat

structure Lexer where
  cursor : Cursor
  tokens : Array Token := #[]
  /-- The column of the innermost block, and those of the blocks around it. -/
  indent : Int := -1
  outer : List Int := []
  /-- How many brackets are open. -/
  depth : Nat := 0
  keyAllowed : Bool := true
  /-- The pending keys by depth. -/
  pending : List (Nat × PendingKey) := []

namespace Lexer

def add (s : Lexer) (token : Token) : Lexer :=
  { s with tokens := s.tokens.push token }

/-- Puts a token in at a place. -/
def insert (s : Lexer) (place : Nat) (token : Token) : Lexer :=
  { s with tokens := (s.tokens.extract 0 place).push token ++ s.tokens.extract place s.tokens.size }

def column (s : Lexer) : Nat :=
  s.cursor.column

/-- Skips blanks, comments and line ends. After a line end outside brackets a key may start. -/
def skipToToken (s : Lexer) : (fuel : Nat) → Lexer
  | 0 => s
  | fuel + 1 =>
      let c := s.cursor.skipRun (· == ' ')
      let c := if c.char == '#' then c.skipRun fun ch => !endsLine ch else c
      if isBreak c.char then
        skipToToken { s with
          cursor := c.lineBreak.2, keyAllowed := s.keyAllowed || s.depth == 0 } fuel
      else { s with cursor := c }

/-- How far from its start a colon may make a key. -/
def keyReach : Nat := 1024

def isStale (s : Lexer) (key : PendingKey) : Bool :=
  key.line != s.cursor.line || keyReach < key.left - s.cursor.rest.length

/-- Drops the pending keys that no colon can follow any more. -/
def dropStale (s : Lexer) : Except Error Lexer :=
  if s.pending.any fun (_, key) => s.isStale key && key.required then .error .malformed
  else .ok { s with pending := s.pending.filter fun (_, key) => !s.isStale key }

/-- Drops the pending key of the current depth. -/
def forget (s : Lexer) : Except Error Lexer :=
  match s.pending.lookup s.depth with
  | some key =>
      if key.required then .error .malformed
      else .ok { s with pending := s.pending.filter fun (depth, _) => depth != s.depth }
  | none => .ok s

/-- Notes that a key may start here. -/
def remember (s : Lexer) : Except Error Lexer := do
  if !s.keyAllowed then return s
  let s ← s.forget
  let key : PendingKey := {
    place := s.tokens.size
    required := s.depth == 0 && s.indent == s.column
    column := s.column
    line := s.cursor.line
    left := s.cursor.rest.length }
  return { s with pending := (s.depth, key) :: s.pending }

/-- Leaves the blocks that are deeper than a column: how many, and what is left. -/
def leave (column : Int) : (indent : Int) → (outer : List Int) → Nat × Int × List Int
  | indent, next :: outer =>
      if column < indent then
        let (count, rest) := leave column next outer
        (count + 1, rest)
      else (0, indent, next :: outer)
  | indent, [] => (0, indent, [])

/-- Closes the blocks that are deeper than a column. -/
def unwind (s : Lexer) (column : Int) : Lexer :=
  if s.depth != 0 then s
  else
    let (count, indent, outer) := leave column s.indent s.outer
    { s with indent, outer, tokens := s.tokens ++ (List.replicate count Token.blockEnd).toArray }

/-- Opens a block at a column, if it is deeper than the innermost one. -/
def enter? (s : Lexer) (column : Nat) : Option Lexer :=
  if s.indent < column then some { s with indent := column, outer := s.indent :: s.outer }
  else none

/-- Opens a block outside brackets, with its token. -/
def openBlock (s : Lexer) (token : Token) : Except Error Lexer :=
  if s.depth != 0 then .ok s
  else if !s.keyAllowed then .error .malformed
  else
    match s.enter? s.column with
    | some s => .ok (s.add token)
    | none => .ok s

/-- Takes an indicator of some length. -/
def take (s : Lexer) (length : Nat) (token : Token) : Lexer :=
  { s.add token with cursor := s.cursor.skip length }

/-- Ends all blocks, before a marker or the end of the text. -/
def endBlocks (s : Lexer) : Except Error Lexer := do
  let s ← (s.unwind (-1)).forget
  return { s with keyAllowed := false }

def openBracket (s : Lexer) (token : Token) : Except Error Lexer := do
  let s ← s.remember
  return { s.take 1 token with depth := s.depth + 1, keyAllowed := true }

def closeBracket (s : Lexer) (token : Token) : Except Error Lexer := do
  let s ← s.forget
  match s.depth with
  | 0 => throw .malformed
  | depth + 1 => return { s.take 1 token with depth, keyAllowed := false }

def entry (s : Lexer) : Except Error Lexer := do
  let s ← ({ s with keyAllowed := true } : Lexer).forget
  return s.take 1 .flowEntry

def blockEntry (s : Lexer) : Except Error Lexer := do
  let s ← s.openBlock .blockSequenceStart
  let s ← ({ s with keyAllowed := true } : Lexer).forget
  return s.take 1 .blockEntry

def key (s : Lexer) : Except Error Lexer := do
  let s ← s.openBlock .blockMappingStart
  let s ← ({ s with keyAllowed := s.depth == 0 } : Lexer).forget
  return s.take 1 .key

/-- A colon after a pending key, which becomes a key at its place. -/
def valueOf (s : Lexer) (key : PendingKey) : Lexer :=
  let others := s.pending.filter fun (depth, _) => depth != s.depth
  let s := { s with pending := others, keyAllowed := false }
  let s := s.insert key.place .key
  let s := match s.depth, s.enter? key.column with
    | 0, some s => s.insert key.place .blockMappingStart
    | _, _ => s
  s.take 1 .value

/-- A colon. -/
def value (s : Lexer) : Except Error Lexer := do
  match s.pending.lookup s.depth with
  | some key => return s.valueOf key
  | none =>
      let s ← s.openBlock .blockMappingStart
      let s ← ({ s with keyAllowed := s.depth == 0 } : Lexer).forget
      return s.take 1 .value

/-- Something that may be a key: an alias, an anchor, a tag or a scalar in one line. -/
def content (s : Lexer) (read : Cursor → Except Error (Token × Cursor)) : Except Error Lexer := do
  let s ← s.remember
  let (token, cursor) ← read s.cursor
  return { s.add token with cursor, keyAllowed := false }

def blockScalar (s : Lexer) : Except Error Lexer := do
  let s ← ({ s with keyAllowed := true } : Lexer).forget
  let (text, cursor) ← Block.read s.indent s.cursor
  return { s.add (.scalar (String.ofList text) false) with cursor }

def plainScalar (s : Lexer) : Except Error Lexer := do
  let s ← s.remember
  let reading := Plain.read (s.depth != 0) s.indent s.cursor
  return { s.add (.scalar (String.ofList reading.text) true) with
    cursor := reading.after, keyAllowed := reading.atNewLine }

def quotedScalar (s : Lexer) : Except Error Lexer :=
  s.content fun c => do
    let (text, c) ← Quoted.read c
    return (.scalar (String.ofList text) false, c)

def directive (s : Lexer) : Except Error Lexer := do
  let s ← s.endBlocks
  let (directive, cursor) ← readDirective s.cursor
  return { s.add (.directive directive) with cursor }

/-- Whether a plain scalar may start with the character ahead. -/
def startsPlain (inFlow : Bool) (ch next : Char) : Bool :=
  (!endsWord ch && !"-?:,[]\x7b\x7d#&*!|>'\"%@\x60".toList.contains ch) ||
    (!endsWord next && (ch == '-' || (!inFlow && (ch == '?' || ch == ':'))))

/-- Reads the token ahead, which is not the end of the text. -/
def token (s : Lexer) : Except Error Lexer :=
  let c := s.cursor
  let ch := c.char
  let inFlow := s.depth != 0
  let indicates := inFlow || endsWord (c.ahead 1)
  if c.column == 0 && ch == '%' then s.directive
  else if c.column == 0 && c.atTriple '-' then do return (← s.endBlocks).take 3 .documentStart
  else if c.column == 0 && c.atTriple '.' then do return (← s.endBlocks).take 3 .documentEnd
  else if ch == '[' then s.openBracket .flowSequenceStart
  else if ch == '\x7b' then s.openBracket .flowMappingStart
  else if ch == ']' then s.closeBracket .flowSequenceEnd
  else if ch == '\x7d' then s.closeBracket .flowMappingEnd
  else if ch == ',' then s.entry
  else if ch == '-' && endsWord (c.ahead 1) then s.blockEntry
  else if ch == '?' && indicates then s.key
  else if ch == ':' && indicates then s.value
  else if ch == '*' then s.content fun c => do
    let (name, c) ← readAnchor c
    return (.alias name, c)
  else if ch == '&' then s.content fun c => do
    let (name, c) ← readAnchor c
    return (.anchor name, c)
  else if ch == '!' then s.content readTag
  else if (ch == '|' || ch == '>') && !inFlow then s.blockScalar
  else if ch == '\'' || ch == '"' then s.quotedScalar
  else if startsPlain inFlow ch (c.ahead 1) then s.plainScalar
  else .error .malformed

/-- Reads all tokens. -/
def run : (fuel : Nat) → Lexer → Except Error (List Token)
  | 0, _ => .error .malformed
  | fuel + 1, s => do
      let s ← (s.skipToToken (s.cursor.rest.length + 1)).dropStale
      let s := s.unwind s.column
      if s.cursor.atEnd then return (← s.endBlocks).tokens.toList
      run fuel (← s.token)

end Lexer

/-- Whether a character may stand in a YAML text. -/
def isAllowed (c : Char) : Bool :=
  let n := c.toNat
  n == 9 || n == 10 || n == 13 || (0x20 ≤ n && n ≤ 0x7e) || n == 0x85 ||
    (0xa0 ≤ n && n ≤ 0xd7ff) || (0xe000 ≤ n && n ≤ 0xfffd) || 0x10000 ≤ n

/-- The tokens of a text. -/
def tokens (text : String) : Except Error (List Token) :=
  let chars := text.toList
  if !chars.all isAllowed then .error .malformed
  else
    let c := Cursor.start text
    let c := if c.char == orderMark then c.next else c
    Lexer.run (2 * chars.length + 2) { cursor := c }

end BlobInscription.Yaml
