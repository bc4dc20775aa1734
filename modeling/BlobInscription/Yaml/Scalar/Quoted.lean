import BlobInscription.Yaml.Scalar.Plain

namespace BlobInscription.Yaml.Quoted

/-- Escapes of one character. -/
def escapes : List (Char × Char) := [
  ('0', '\x00'), ('a', '\x07'), ('b', '\x08'), ('t', '\x09'), ('\t', '\x09'), ('n', '\n'),
  ('v', '\x0b'), ('f', '\x0c'), ('r', '\r'), ('e', '\x1b'), (' ', ' '), ('"', '"'), ('\\', '\\'),
  ('/', '/'), ('N', '\u0085'), ('_', '\u00a0'), ('L', '\u2028'), ('P', '\u2029')]

/-- How many digits follow the escapes that give a character by its number. -/
def digitCounts : List (Char × Nat) := [('x', 2), ('u', 4), ('U', 8)]

def digitValue? (c : Char) : Option Nat :=
  let n := c.toNat
  if 48 ≤ n && n ≤ 57 then some (n - 48)
  else if 97 ≤ n && n ≤ 102 then some (n - 87)
  else if 65 ≤ n && n ≤ 70 then some (n - 55)
  else none

/-- The number that hexadecimal digits show. -/
def readHex (digits : List Char) : Except Error Nat :=
  digits.foldlM (fun n c =>
    match digitValue? c with
    | some d => .ok (16 * n + d)
    | none => .error .malformed) 0

/-- The number of the second half of a pair that gives one character, when it follows an escape. -/
def secondHalf? (c : Cursor) : Option Nat :=
  if c.char == '\\' && c.ahead 1 == 'u' then
    match readHex ((c.skip 2).rest.take 4) with
    | .ok n => if 0xdc00 ≤ n && n < 0xe000 then some n else none
    | .error _ => none
  else none

/-- The character of a number, and the cursor after it. Two halves of a pair give one character. -/
def character (n : Nat) (after : Cursor) : Except Error (Char × Cursor) :=
  if 0xd800 ≤ n && n < 0xdc00 then
    match secondHalf? after with
    | some low => .ok (Char.ofNat (0x10000 + (n - 0xd800) * 0x400 + (low - 0xdc00)), after.skip 6)
    | none => .error .halfCharacter
  else if 0xdc00 ≤ n && n < 0xe000 then .error .halfCharacter
  else if n < 0x110000 then .ok (Char.ofNat n, after)
  else .error (.noSuch "chr() arg not in range(0x110000)")

/-- Skips the blanks and line ends after a line end; the line ends count. -/
def lineEnds : (fuel : Nat) → Cursor → (breaks : List Char) → Except Error (List Char × Cursor)
  | 0, c, breaks => .ok (breaks, c)
  | fuel + 1, c, breaks =>
      if c.atMarker then .error .malformed
      else
        let c := c.skipRun fun ch => ch == ' ' || ch == '\t'
        if isBreak c.char then
          let (ch, c) := c.lineBreak
          lineEnds fuel c (breaks ++ ch)
        else .ok (breaks, c)

/-- What an escape stands for, and the cursor after it. -/
def escape (c : Cursor) : Except Error (List Char × Cursor) :=
  let ch := c.char
  match escapes.lookup ch, digitCounts.lookup ch with
  | some plain, _ => .ok ([plain], c.next)
  | none, some count => do
      if (c.next.rest.take count).length < count then throw .malformed
      let (ch, c) ← character (← readHex (c.next.rest.take count)) (c.skip (count + 1))
      return ([ch], c)
  | none, none =>
      if isBreak ch then lineEnds (c.rest.length + 1) c.lineBreak.2 []
      else .error .malformed

/-- What blanks between words stand for: themselves, or a fold at a line end. -/
def spaces (c : Cursor) : Except Error (List Char × Cursor) := do
  let (blanks, c) := c.takeRun fun ch => ch == ' ' || ch == '\t'
  if c.atEnd then throw .malformed
  if !isBreak c.char then return (blanks, c)
  let (first, c) := c.lineBreak
  let (breaks, c) ← lineEnds (c.rest.length + 1) c []
  return (Plain.folded first breaks, c)

/-- Whether a character stands for itself whatever the quotes. -/
def isOrdinary (c : Char) : Bool :=
  c != '\'' && c != '"' && c != '\\' && !endsWord c

/-- Reads up to the closing quote, which is skipped. -/
def readFrom (double : Bool) : (fuel : Nat) → Cursor → (done : List Char) →
    Except Error (List Char × Cursor)
  | 0, _, _ => .error .malformed
  | fuel + 1, c, done => do
      let ch := c.char
      if isOrdinary ch then
        let (text, c) := c.takeRun isOrdinary
        readFrom double fuel c (done ++ text)
      else if ch == '\'' && !double then
        if c.ahead 1 == '\'' then readFrom double fuel (c.skip 2) (done ++ [ch])
        else return (done, c.next)
      else if ch == '"' && double then return (done, c.next)
      else if ch == '\\' && double then
        let (text, c) ← escape c.next
        readFrom double fuel c (done ++ text)
      else if endsWord ch then
        let (text, c) ← spaces c
        readFrom double fuel c (done ++ text)
      else readFrom double fuel c.next (done ++ [ch])

/-- Reads the scalar whose opening quote is ahead. -/
def read (c : Cursor) : Except Error (List Char × Cursor) :=
  readFrom (c.char == '"') (c.rest.length + 1) c.next []

end BlobInscription.Yaml.Quoted
