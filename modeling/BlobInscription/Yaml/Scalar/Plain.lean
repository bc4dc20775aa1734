import BlobInscription.Yaml.Cursor

namespace BlobInscription.Yaml.Plain

/-- Whether a plain scalar ends before the characters ahead. -/
def endsBefore (inFlow : Bool) (ch next : Char) : Bool :=
  endsWord ch || (ch == ':' && (endsWord next || (inFlow && ",[]\x7b\x7d".toList.contains next))) ||
    (inFlow && ",?[]\x7b\x7d".toList.contains ch)

/-- The length of the word ahead. -/
def wordLength (inFlow : Bool) : List Char → Nat
  | [] => 0
  | ch :: rest => if endsBefore inFlow ch (rest.headD '\x00') then 0 else wordLength inFlow rest + 1

/-- What comes between two words, the cursor after it, and whether a line ended. -/
structure Gap where
  text : List Char
  after : Cursor
  brokeLine : Bool

/-- Skips blanks and line ends; nothing when a document marker follows a line end. -/
def skipLines : (fuel : Nat) → Cursor → (breaks : List Char) → List Char × Cursor × Bool
  | 0, c, breaks => (breaks, c, false)
  | fuel + 1, c, breaks =>
      if c.char == ' ' then skipLines fuel c.next breaks
      else if isBreak c.char then
        let (ch, c) := c.lineBreak
        if c.atMarker then (breaks ++ ch, c, true) else skipLines fuel c (breaks ++ ch)
      else (breaks, c, false)

/-- One line end between words counts as a blank, and more as one fewer. -/
def folded (first breaks : List Char) : List Char :=
  if first != ['\n'] then first ++ breaks
  else if breaks.isEmpty then [' ']
  else breaks

/-- The gap after a word. -/
def gap (c : Cursor) : Gap :=
  let (blanks, c) := c.takeRun (· == ' ')
  if !isBreak c.char then ⟨blanks, c, false⟩
  else
    let (first, c) := c.lineBreak
    if c.atMarker then ⟨[], c, true⟩
    else
      let (breaks, c, marked) := skipLines (c.rest.length + 1) c []
      if marked then ⟨[], c, true⟩ else ⟨folded first breaks, c, true⟩

/-- A plain scalar, the cursor after it, and whether it reached a new line after its last word. -/
structure Reading where
  text : List Char
  after : Cursor
  atNewLine : Bool

/-- Reads words and gaps. A scalar goes on in lines that are indented deep enough. -/
def readFrom (inFlow : Bool) (indent : Int) : (fuel : Nat) → Cursor → (done before : List Char) →
    (atNewLine : Bool) → Reading
  | 0, c, done, _, atNewLine => ⟨done, c, atNewLine⟩
  | fuel + 1, c, done, before, atNewLine =>
      let length := wordLength inFlow c.rest
      if c.char == '#' || length == 0 then ⟨done, c, atNewLine⟩
      else
        let done := done ++ before ++ c.rest.take length
        let g := gap (c.skip length)
        if g.text.isEmpty || g.after.char == '#' || (!inFlow && g.after.column < indent) then
          ⟨done, g.after, g.brokeLine⟩
        else readFrom inFlow indent fuel g.after done g.text g.brokeLine

/-- Reads the scalar ahead, inside a block of an indentation. -/
def read (inFlow : Bool) (indent : Int) (c : Cursor) : Reading :=
  readFrom inFlow (indent + 1) (c.rest.length + 1) c [] [] false

end BlobInscription.Yaml.Plain
