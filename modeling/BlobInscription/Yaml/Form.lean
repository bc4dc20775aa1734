import BlobInscription.Number.Numeral
import BlobInscription.Text.Split

namespace BlobInscription.Yaml

/-- What the text of a plain scalar suggests. -/
inductive Form
  | null
  | bool
  | int
  | float
  | timestamp
  | merge
  | value
  | text
  deriving DecidableEq, Repr

namespace Form

/-- A word as it is, with a capital, and in capitals. -/
def spellings (word : String) : List String :=
  [word, word.capitalize, word.toUpper]

def nullWords : List String :=
  ["", "~"] ++ spellings "null"

/-- The words for true and false. -/
def boolWords : List (String × Bool) :=
  [("yes", true), ("no", false), ("true", true), ("false", false), ("on", true), ("off", false)]

def isDigit (c : Char) : Bool :=
  '0' ≤ c && c ≤ '9'

def isDigitOrGap (c : Char) : Bool :=
  isDigit c || c == '_'

def isHexOrGap (c : Char) : Bool :=
  isDigitOrGap c || ('a' ≤ c && c ≤ 'f') || ('A' ≤ c && c ≤ 'F')

def isOctalOrGap (c : Char) : Bool :=
  ('0' ≤ c && c ≤ '7') || c == '_'

def isBitOrGap (c : Char) : Bool :=
  c == '0' || c == '1' || c == '_'

/-- Whether a text is not empty and passes a test throughout. -/
def allOf (test : Char → Bool) (text : List Char) : Bool :=
  !text.isEmpty && text.all test

/-- Whether a text is a place in base sixty: one digit, or two of which the first is below six. -/
def isSixtieth (text : List Char) : Bool :=
  match text with
  | [a] => isDigit a
  | [a, b] => '0' ≤ a && a ≤ '5' && isDigit b
  | _ => false

/-- Digits and gaps, starting with a digit. -/
def isDigits (text : List Char) : Bool :=
  (text.head?.any isDigit) && text.all isDigitOrGap

def isIntBody (text : List Char) : Bool :=
  match text with
  | ['0'] => true
  | '0' :: 'b' :: rest => allOf isBitOrGap rest
  | '0' :: 'x' :: rest => allOf isHexOrGap rest
  | '0' :: rest => allOf isOctalOrGap rest
  | text =>
      match Text.splitAt ':' text with
      | head :: places => isDigits head && places.all isSixtieth
      | [] => false

def isInt (text : List Char) : Bool :=
  isIntBody (Number.takeSign text).2

/-- An exponent, which needs its sign, or nothing. -/
def isExponent (text : List Char) : Bool :=
  match text with
  | [] => true
  | mark :: sign :: digits =>
      (mark == 'e' || mark == 'E') && (sign == '+' || sign == '-') && allOf isDigit digits
  | _ => false

/-- A fraction in digits and gaps with an exponent. -/
def isFraction (text : List Char) : Bool :=
  isExponent (text.dropWhile isDigitOrGap)

/-- Places in base sixty, of which the last has a point. -/
def isSixtiethFraction (places : List (List Char)) : Bool :=
  match places.getLast? with
  | none => false
  | some last =>
      places.dropLast.all isSixtieth && isSixtieth (last.takeWhile (· != '.')) &&
        last.contains '.' && ((last.dropWhile (· != '.')).drop 1).all isDigitOrGap

def isFloatBody (text : List Char) : Bool :=
  let whole := text.takeWhile isDigitOrGap
  if !isDigits whole then false
  else
    match text.drop whole.length with
    | '.' :: fraction => isFraction fraction
    | ':' :: rest => isSixtiethFraction (Text.splitAt ':' rest)
    | _ => false

def isFloat (text : List Char) : Bool :=
  let body := (Number.takeSign text).2
  match text with
  | '.' :: fraction =>
      ((fraction.head?.any isDigit) && isFraction fraction) ||
        [".nan", ".NaN", ".NAN"].contains (String.ofList text) ||
        [".inf", ".Inf", ".INF"].contains (String.ofList text)
  | _ => isFloatBody body || [".inf", ".Inf", ".INF"].contains (String.ofList body)

/-- Takes from one to two digits. -/
def takeShort (text : List Char) : List Char × List Char :=
  let digits := (text.takeWhile isDigit).take 2
  (digits, text.drop digits.length)

/-- Takes a number of digits, all of which must be there. -/
def takeExact? (count : Nat) (text : List Char) : Option (List Char × List Char) :=
  let digits := (text.takeWhile isDigit).take count
  if digits.length == count then some (digits, text.drop count) else none

/-- Takes one given character. -/
def takeChar? (c : Char) (text : List Char) : Option (List Char) :=
  match text with
  | first :: rest => if first = c then some rest else none
  | [] => none

/-- An offset from UTC as it is written: nothing, the letter Z, or a sign with hours and perhaps
minutes. -/
inductive Zone
  | none
  | utc
  | offset (negative : Bool) (hours : List Char) (minutes : List Char)
  deriving DecidableEq, Repr

/-- The digits of a date and a time. -/
structure TimeParts where
  year : List Char
  month : List Char
  day : List Char
  /-- Hour, minute, second and fraction. -/
  time? : Option (List Char × List Char × List Char × List Char) := none
  zone : Zone := .none
  deriving DecidableEq, Repr

def isBlank (c : Char) : Bool :=
  c == ' ' || c == '\t'

def readZone? (text : List Char) : Option Zone :=
  match text, text.dropWhile isBlank with
  | [], _ => some .none
  | _, ['Z'] => some .utc
  | _, sign :: rest =>
      if sign != '+' && sign != '-' then none
      else
        let (hours, rest) := takeShort rest
        match hours, rest with
        | [], _ => none
        | hours, [] => some (.offset (sign == '-') hours [])
        | hours, ':' :: minutes =>
            if minutes.length == 2 && minutes.all isDigit then
              some (.offset (sign == '-') hours minutes)
            else none
        | _, _ => none
  | _, [] => none

/-- A fraction of a second, without its point; it may be left out. -/
def takeFraction (text : List Char) : List Char × List Char :=
  match text with
  | '.' :: rest => (rest.takeWhile isDigit, rest.dropWhile isDigit)
  | _ => ([], text)

/-- Skips what stands between a date and a time: the letter T, or blanks. -/
def skipTimeMark? (text : List Char) : Option (List Char) :=
  match text with
  | c :: rest =>
      if c == 'T' || c == 't' then some rest
      else if isBlank c then some (rest.dropWhile isBlank)
      else none
  | [] => none

/-- The parts of a date with a time. -/
def readTime? (date : TimeParts) (text : List Char) : Option TimeParts := do
  let text ← skipTimeMark? text
  let (hour, text) := takeShort text
  if hour.isEmpty then none
  let (minute, text) ← takeExact? 2 (← takeChar? ':' text)
  let (second, text) ← takeExact? 2 (← takeChar? ':' text)
  let (fraction, text) := takeFraction text
  let zone ← readZone? text
  return { date with time? := some (hour, minute, second, fraction), zone }

/-- The parts of a date, perhaps with a time, when month and day may have one digit. -/
def readTimestamp? (text : List Char) : Option TimeParts := do
  let (year, text) ← takeExact? 4 text
  let (month, text) := takeShort (← takeChar? '-' text)
  let (day, text) := takeShort (← takeChar? '-' text)
  if month.isEmpty || day.isEmpty then none
  let date : TimeParts := { year, month, day }
  if text.isEmpty then return date else readTime? date text

/-- Whether a text is a date or a time; a date by itself has two digits for month and day. -/
def isTimestamp (text : List Char) : Bool :=
  match readTimestamp? text with
  | some parts => parts.time?.isSome || (parts.month.length == 2 && parts.day.length == 2)
  | none => false

/-- The form of a text. -/
def of (text : String) : Form :=
  let chars := text.toList
  if boolWords.any fun (word, _) => (spellings word).contains text then bool
  else if isFloat chars then float
  else if isInt chars then int
  else if text == "<<" then merge
  else if nullWords.contains text then null
  else if isTimestamp chars then timestamp
  else if text == "=" then value
  else Form.text

end Form

end BlobInscription.Yaml
