import BlobInscription.Datum.Form

namespace BlobInscription.Yaml

/-- Why a text has no value. -/
inductive Error
  /-- The text is not a document, or asks for values that there are not. -/
  | malformed
  /-- A scalar does not have the form that its tag asks for. -/
  | form (error : FormError)
  /-- A date, a time or a character that there is not. -/
  | noSuch (text : String)
  /-- An empty scalar where a number is asked for. -/
  | emptyNumber
  /-- Nodes or mergings that are nested deeper than a reader goes. -/
  | tooDeep
  /-- An alias of a node around it, whose value would have no end. -/
  | endless
  /-- Half of a pair that gives one character, by itself; no text here holds it. -/
  | halfCharacter
  deriving DecidableEq, Repr

def Error.message : Error → String
  | malformed => "malformed YAML"
  | form error => error.message
  | noSuch text => text
  | emptyNumber => "string index out of range"
  | tooDeep => "maximum recursion depth exceeded"
  | endless => "alias of a node around it"
  | halfCharacter => "half of a character"

structure Cursor where
  rest : List Char
  column : Nat := 0
  line : Nat := 0
  deriving Repr

/-- Whether a character ends a line. -/
def isBreak (c : Char) : Bool :=
  c == '\n' || c == '\r' || c == '\u0085' || c == '\u2028' || c == '\u2029'

/-- Whether a character is a line end or the end of the text. -/
def endsLine (c : Char) : Bool :=
  c == '\x00' || isBreak c

/-- Whether a character stands between words: a blank, a line end or the end of the text. -/
def endsWord (c : Char) : Bool :=
  c == ' ' || c == '\t' || endsLine c

/-- A mark in front of a text, which shows the order of its bytes and does not count. -/
def orderMark : Char := '\ufeff'

namespace Cursor

def start (text : String) : Cursor where
  rest := text.toList

/-- The character `n` places ahead. -/
def ahead (c : Cursor) (n : Nat) : Char :=
  c.rest.getD n '\x00'

def char (c : Cursor) : Char :=
  c.ahead 0

def atEnd (c : Cursor) : Bool :=
  c.rest.isEmpty

/-- The cursor after a character. A carriage return before a line feed does not end the line. -/
def next (c : Cursor) : Cursor :=
  match c.rest with
  | [] => c
  | ch :: rest =>
      if isBreak ch && !(ch == '\r' && rest.head? == some '\n') then
        { rest, column := 0, line := c.line + 1 }
      else if ch == orderMark then { c with rest }
      else { c with rest, column := c.column + 1 }

/-- The cursor after `n` characters. -/
def skip (c : Cursor) : (n : Nat) → Cursor
  | 0 => c
  | n + 1 => c.next.skip n

/-- The characters ahead that pass a test. -/
def run (c : Cursor) (test : Char → Bool) : List Char :=
  c.rest.takeWhile test

/-- The cursor after the characters that pass a test. -/
def skipRun (c : Cursor) (test : Char → Bool) : Cursor :=
  c.skip (c.run test).length

/-- The characters ahead that pass a test, and the cursor after them. -/
def takeRun (c : Cursor) (test : Char → Bool) : List Char × Cursor :=
  (c.run test, c.skipRun test)

/-- What a line end counts as, and the cursor after it; no text when there is none. All ends but the
two of Unicode count as a line feed. -/
def lineBreak (c : Cursor) : List Char × Cursor :=
  let ch := c.char
  if !isBreak ch then ([], c)
  else if ch == '\r' && c.ahead 1 == '\n' then (['\n'], c.skip 2)
  else if ch == '\u2028' || ch == '\u2029' then ([ch], c.next)
  else (['\n'], c.next)

/-- Whether a word of three equal characters stands ahead. -/
def atTriple (c : Cursor) (ch : Char) : Bool :=
  c.ahead 0 == ch && c.ahead 1 == ch && c.ahead 2 == ch && endsWord (c.ahead 3)

/-- Whether a marker of a document's start or end stands ahead. -/
def atMarker (c : Cursor) : Bool :=
  c.atTriple '-' || c.atTriple '.'

end Cursor

end BlobInscription.Yaml
