import BlobInscription.Datum
import BlobInscription.Number.Numeral

/-!
Reading of JSON. Besides the standard it accepts the words for NaN and the infinities; an integer is
kept apart from a number with a point or an exponent; the last value of a repeated key counts.
-/

namespace BlobInscription.Json

inductive Container
  | list
  | map
  deriving DecidableEq, Repr

/-- Why a text holds no value. -/
inductive ReadError
  | malformed
  /-- A list or a map that is nested deeper than a reader goes. -/
  | tooDeep (container : Container)
  deriving DecidableEq, Repr

def orMalformed {α : Type} (result? : Option α) : Except ReadError α :=
  result?.elim (.error .malformed) .ok

def isSpace (c : Char) : Bool :=
  c = ' ' || c = '\t' || c = '\n' || c = '\r'

def skipSpace (text : List Char) : List Char :=
  text.dropWhile isSpace

def hexValue? (c : Char) : Option Nat :=
  if '0' ≤ c ∧ c ≤ '9' then some (c.toNat - 48)
  else if 'a' ≤ c ∧ c ≤ 'f' then some (c.toNat - 87)
  else if 'A' ≤ c ∧ c ≤ 'F' then some (c.toNat - 55)
  else none

/-- The code unit of four hexadecimal digits. -/
def codeUnit? : List Char → Option (Nat × List Char)
  | a :: b :: c :: d :: rest => do
      let a ← hexValue? a
      let b ← hexValue? b
      let c ← hexValue? c
      let d ← hexValue? d
      return (((a * 16 + b) * 16 + c) * 16 + d, rest)
  | _ => none

def isHighSurrogate (n : Nat) : Bool :=
  0xd800 ≤ n && n < 0xdc00

def isLowSurrogate (n : Nat) : Bool :=
  0xdc00 ≤ n && n < 0xe000

/-- A character for a code unit; a surrogate without its partner has none and is replaced. -/
def unitChar (n : Nat) : Char :=
  if isHighSurrogate n || isLowSurrogate n then '\ufffd' else Char.ofNat n

/-- What follows `\u`: one code unit, or two that make up one character. -/
def unicodeEscape? (text : List Char) : Option (Char × List Char) := do
  let (first, rest) ← codeUnit? text
  match rest with
  | '\\' :: 'u' :: more =>
      if isHighSurrogate first then
        match codeUnit? more with
        | some (second, after) =>
            if isLowSurrogate second then
              return (Char.ofNat (0x10000 + (first - 0xd800) * 0x400 + (second - 0xdc00)), after)
            else return (unitChar first, rest)
        | none => return (unitChar first, rest)
      else return (unitChar first, rest)
  | _ => return (unitChar first, rest)

/-- The character of a one-letter escape. -/
def shortEscape? (c : Char) : Option Char :=
  match c with
  | '"' => some '"'
  | '\\' => some '\\'
  | '/' => some '/'
  | 'b' => some '\x08'
  | 'f' => some '\x0c'
  | 'n' => some '\n'
  | 'r' => some '\r'
  | 't' => some '\t'
  | _ => none

/-- The characters up to the closing quote, onto the reversed list `done`. -/
def readText? : (fuel : Nat) → List Char → (done : List Char) → Option (String × List Char)
  | 0, _, _ => none
  | fuel + 1, text, done =>
      match text with
      | [] => none
      | '"' :: rest => some (String.ofList done.reverse, rest)
      | '\\' :: 'u' :: rest =>
          match unicodeEscape? rest with
          | some (c, rest) => readText? fuel rest (c :: done)
          | none => none
      | '\\' :: c :: rest =>
          match shortEscape? c with
          | some c => readText? fuel rest (c :: done)
          | none => none
      | c :: rest => if c.toNat < 32 then none else readText? fuel rest (c :: done)

def isAsciiDigit (c : Char) : Bool :=
  '0' ≤ c && c ≤ '9'

/-- The number of a run of ASCII digits. -/
def digitsValue (digits : List Char) : Nat :=
  digits.foldl (fun n c => 10 * n + (c.toNat - 48)) 0

/-- The fraction part: its digits, or none. -/
def takeFraction : List Char → List Char × List Char
  | '.' :: rest =>
      match rest.span isAsciiDigit with
      | ([], _) => ([], '.' :: rest)
      | (digits, after) => (digits, after)
  | text => ([], text)

/-- The exponent part, when there is one. -/
def takeExponent : List Char → Option Int × List Char
  | c :: rest =>
      if c = 'e' || c = 'E' then
        let (negative, body) := match rest with
          | '-' :: more => (true, more)
          | '+' :: more => (false, more)
          | more => (false, more)
        match body.span isAsciiDigit with
        | ([], _) => (none, c :: rest)
        | (digits, after) =>
            let magnitude := digitsValue digits
            (some (if negative then -(magnitude : Int) else magnitude), after)
      else (none, c :: rest)
  | [] => (none, [])

/-- The whole part: a zero, or digits that do not start with one. -/
def takeWhole? : List Char → Option (List Char × List Char)
  | '0' :: rest => some (['0'], rest)
  | text =>
      match text.span isAsciiDigit with
      | ([], _) => none
      | (digits, rest) => some (digits, rest)

/-- A number after its sign. -/
def readNumber? (negative : Bool) (text : List Char) : Option (Datum × List Char) := do
  let (whole, rest) ← takeWhole? text
  let (fraction, rest) := takeFraction rest
  let (exponent?, rest) := takeExponent rest
  if fraction.isEmpty && exponent?.isNone then
    if Number.maxIntegerDigits < whole.length then none
    else
      let magnitude := digitsValue whole
      return (.int (if negative then -(magnitude : Int) else magnitude), rest)
  else
    let digits := digitsValue (whole ++ fraction)
    return (.float (.ofDecimal negative digits (exponent?.getD 0 - fraction.length)), rest)

/-- The text after a given beginning. -/
def afterWord? (word : String) (text : List Char) : Option (List Char) :=
  if word.toList.isPrefixOf text then some (text.drop word.length) else none

/-- The words that stand for values. -/
def words : List (String × Datum) := [
  ("null", .null), ("true", .bool true), ("false", .bool false), ("NaN", .float .nan),
  ("Infinity", .float (.infinite false)), ("-Infinity", .float (.infinite true))]

def readWord? (text : List Char) : Option (Datum × List Char) :=
  words.findSome? fun (word, value) => (afterWord? word text).map fun rest => (value, rest)

mutual

/-- One value at the start of the text. -/
def readValue : (fuel nesting : Nat) → List Char → Except ReadError (Datum × List Char)
  | 0, _, _ => .error .malformed
  | fuel + 1, nesting, text =>
      match text with
      | '"' :: rest =>
          orMalformed ((readText? (fuel + 1) rest []).map fun (t, rest) => (.text t, rest))
      | '[' :: rest =>
          match nesting with
          | 0 => .error (.tooDeep .list)
          | nesting + 1 =>
              match skipSpace rest with
              | ']' :: rest => .ok (.list [], rest)
              | rest => readItems fuel nesting rest []
      | '\x7b' :: rest =>
          match nesting with
          | 0 => .error (.tooDeep .map)
          | nesting + 1 =>
              match skipSpace rest with
              | '\x7d' :: rest => .ok (.map [], rest)
              | rest => readEntries fuel nesting rest []
      | '-' :: rest => orMalformed (readNumber? true rest <|> readWord? text)
      | _ => orMalformed (readNumber? false text <|> readWord? text)

/-- The items of a list up to its end, onto the reversed list `done`. -/
def readItems : (fuel nesting : Nat) → List Char → (done : List Datum) →
    Except ReadError (Datum × List Char)
  | 0, _, _, _ => .error .malformed
  | fuel + 1, nesting, text, done => do
      let (value, rest) ← readValue fuel nesting text
      match skipSpace rest with
      | ',' :: rest => readItems fuel nesting (skipSpace rest) (value :: done)
      | ']' :: rest => return (.list (value :: done).reverse, rest)
      | _ => throw .malformed

/-- The entries of a map up to its end. -/
def readEntries : (fuel nesting : Nat) → List Char → (done : List (Datum × Datum)) →
    Except ReadError (Datum × List Char)
  | 0, _, _, _ => .error .malformed
  | fuel + 1, nesting, text, done =>
      match text with
      | '"' :: rest => do
          let (key, rest) ← orMalformed (readText? (fuel + 1) rest [])
          match skipSpace rest with
          | ':' :: rest =>
              let (value, rest) ← readValue fuel nesting (skipSpace rest)
              let done := Datum.insertEntry done (.text key) value
              match skipSpace rest with
              | ',' :: rest => readEntries fuel nesting (skipSpace rest) done
              | '\x7d' :: rest => return (.map done, rest)
              | _ => throw .malformed
          | _ => throw .malformed
      | _ => .error .malformed

end

/-- The value that a JSON text holds, whose lists and maps are nested up to a depth. -/
def read (nesting : Nat) (text : String) : Except ReadError Datum := do
  let chars := text.toList
  -- A character starts two of the readers at most.
  let (value, rest) ← readValue (2 * chars.length + 2) nesting (skipSpace chars)
  if (skipSpace rest).isEmpty then return value else throw .malformed

/-- The value that a JSON text holds. No text is nested deeper than it is long. -/
def read? (text : String) : Option Datum :=
  (read text.length text).toOption

end BlobInscription.Json
