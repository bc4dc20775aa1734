import BlobInscription.Yaml.Cursor

namespace BlobInscription.Yaml.Block

/-- What becomes of the line ends after the last line. -/
inductive Chomping
  | clip
  | strip
  | keep
  deriving DecidableEq, Repr

/-- What is said after the indicator of a block. -/
structure Header where
  chomping : Chomping := .clip
  increment? : Option Nat := none

def chomping? (c : Char) : Option Chomping :=
  if c == '+' then some .keep else if c == '-' then some .strip else none

def digit? (c : Char) : Option Nat :=
  if '0' ≤ c && c ≤ '9' then some (c.toNat - 48) else none

/-- The header in front, in either order of its two parts, and the cursor after it. -/
def readHeader (c : Cursor) : Header × Cursor :=
  match chomping? c.char, digit? c.char with
  | some chomping, _ =>
      match digit? (c.ahead 1) with
      | some n => (⟨chomping, some n⟩, c.skip 2)
      | none => (⟨chomping, none⟩, c.next)
  | none, some n =>
      match chomping? (c.ahead 1) with
      | some chomping => (⟨chomping, some n⟩, c.skip 2)
      | none => (⟨.clip, some n⟩, c.next)
  | none, none => ({}, c)

/-- Skips blanks, a comment and the line end; nothing else may stand in the line. -/
def skipRestOfLine (c : Cursor) : Except Error Cursor :=
  let c := c.skipRun (· == ' ')
  let c := if c.char == '#' then c.skipRun fun ch => !endsLine ch else c
  if endsLine c.char then .ok c.lineBreak.2 else .error .malformed

/-- Skips blank lines before the first line; gives their ends and the deepest indentation. -/
def detect : (fuel : Nat) → Cursor → (breaks : List Char) → (deepest : Nat) →
    List Char × Nat × Cursor
  | 0, c, breaks, deepest => (breaks, deepest, c)
  | fuel + 1, c, breaks, deepest =>
      if c.char == ' ' then detect fuel c.next breaks (max deepest c.next.column)
      else if isBreak c.char then
        let (ch, c) := c.lineBreak
        detect fuel c (breaks ++ ch) deepest
      else (breaks, deepest, c)

/-- Skips an indentation, as far as it goes. -/
def skipIndent (indent : Nat) (c : Cursor) : Cursor :=
  c.skip (min (indent - c.column) (c.run (· == ' ')).length)

/-- Skips blank lines, and the indentation of the next one; gives the line ends. -/
def blankLines (indent : Nat) : (fuel : Nat) → Cursor → (breaks : List Char) → List Char × Cursor
  | 0, c, breaks => (breaks, c)
  | fuel + 1, c, breaks =>
      let c := skipIndent indent c
      if isBreak c.char then
        let (ch, c) := c.lineBreak
        blankLines indent fuel c (breaks ++ ch)
      else (breaks, c)

def isBlank (c : Char) : Bool :=
  c == ' ' || c == '\t'

/-- Reads the lines of a block; gives their text, the last line end, and the ends of blank lines. -/
def readLines (folds : Bool) (indent : Nat) : (fuel : Nat) → Cursor → (done breaks : List Char) →
    List Char × List Char × List Char × Cursor
  | 0, c, done, breaks => (done, [], breaks, c)
  | fuel + 1, c, done, breaks =>
      let startsWithWord := !isBlank c.char
      let (line, c) := c.takeRun fun ch => !endsLine ch
      let done := done ++ breaks ++ line
      let (ending, c) := c.lineBreak
      let (breaks, c) := blankLines indent (c.rest.length + 1) c []
      if c.column == indent && !c.atEnd then
        if folds && ending == ['\n'] && startsWithWord && !isBlank c.char then
          readLines folds indent fuel c (if breaks.isEmpty then done ++ [' '] else done) breaks
        else readLines folds indent fuel c (done ++ ending) breaks
      else (done, ending, breaks, c)

/-- Reads the block whose indicator is ahead, inside a block of an indentation. -/
def read (parent : Int) (c : Cursor) : Except Error (List Char × Cursor) := do
  let folds := c.char == '>'
  let (header, c) := readHeader c.next
  if header.increment? == some 0 then throw .malformed
  let c ← skipRestOfLine c
  let least := max 1 (parent + 1).toNat
  let (breaks, indent, c) := match header.increment? with
    | some n =>
        let indent := least + n - 1
        let (breaks, c) := blankLines indent (c.rest.length + 1) c []
        (breaks, indent, c)
    | none =>
        let (breaks, deepest, c) := detect (c.rest.length + 1) c [] 0
        (breaks, max least deepest, c)
  let (text, ending, breaks, c) :=
    if c.column == indent && !c.atEnd then readLines folds indent (c.rest.length + 1) c [] breaks
    else ([], [], breaks, c)
  return match header.chomping with
    | .strip => (text, c)
    | .clip => (text ++ ending, c)
    | .keep => (text ++ ending ++ breaks, c)

end BlobInscription.Yaml.Block
