import BlobInscription.Bytes.Base64
import BlobInscription.Text.Case
import BlobInscription.Yaml.Cursor
import BlobInscription.Yaml.Form

namespace BlobInscription.Yaml.Scalar

/-- A text without the gaps between digits. -/
def withoutGaps (text : String) : List Char :=
  text.toList.filter (· != '_')

/-- The value of a digit of sixteen or less; decimal digits may be of any script. -/
def digitValue? (c : Char) : Option Nat :=
  let n := c.toLower.toNat
  if 97 ≤ n && n ≤ 102 then some (n - 87) else Text.digitValue? c

/-- Numerals without the letter of their base, which may stand after a zero in front. -/
def withoutBase (base : Nat) (body : List Char) : List Char :=
  match body with
  | '0' :: letter :: rest =>
      if [(2, 'b'), (8, 'o'), (16, 'x')].contains (base, letter.toLower) then rest else body
  | _ => body

/-- The number that a numeral of a base shows. -/
def readBase (base : Nat) (numeral : List Char) : Except Error Int :=
  let (negative, body) := Number.signAndBody (String.ofList numeral)
  let digits := withoutBase base body
  let value? := digits.foldl (fun n? c => do
    let n ← n?
    let d ← digitValue? c
    if d < base then return base * n + d else none) (some 0)
  match digits, value? with
  | _ :: _, some n => .ok (if negative then -(n : Int) else n)
  | _, _ =>
      let shown := Text.quoted (String.ofList numeral)
      .error (.noSuch s!"invalid literal for int() with base {base}: {shown}")

/-- The number that decimal digits show. -/
def readDecimal (digits : List Char) : Except Error Int :=
  let text := String.ofList digits
  (Datum.integerOfText text (Text.quoted text)).mapError .form

/-- The value of places in base sixty. -/
def sixtieths (places : List Int) : Int :=
  places.foldl (fun n place => 60 * n + place) 0

def magnitude (digits : List Char) : Except Error Int :=
  match digits with
  | [] => .error .emptyNumber
  | ['0'] => .ok 0
  | '0' :: 'b' :: rest => readBase 2 rest
  | '0' :: 'x' :: rest => readBase 16 rest
  | '0' :: _ => readBase 8 digits
  | _ =>
      if digits.contains ':' then do
        return sixtieths (← (Text.splitAt ':' digits).mapM readDecimal)
      else readDecimal digits

/-- The integer that a text shows. -/
def int (text : String) : Except Error Int := do
  let digits := withoutGaps text
  if digits.isEmpty then throw .emptyNumber
  let (negative, digits) := Number.takeSign digits
  let n ← magnitude digits
  return if negative then -n else n

def readFloat (text : List Char) : Except Error Binary64 :=
  let text := String.ofList text
  (Datum.floatOfText text (Text.quoted text)).mapError .form

/-- The value of places in base sixty, from the last one on; each step is rounded. A place that no
double can count is an error. -/
def sixtiethFloat : (reversed : List Binary64) → (base : Nat) → (sum : Binary64) →
    Except Error Binary64
  | [], _, sum => .ok sum
  | place :: rest, base, sum =>
      match Binary64.ofInt? base with
      | some unit => sixtiethFloat rest (base * 60) (sum.add (place.mul unit))
      | none => .error (.form .floatOverflow)

def floatMagnitude (text : List Char) : Except Error Binary64 :=
  if text == ".inf".toList then .ok (.infinite false)
  else if text == ".nan".toList then .ok .nan
  else if text.contains ':' then do
    sixtiethFloat (← (Text.splitAt ':' text).mapM readFloat).reverse 1 .zero
  else readFloat text

/-- The double that a text shows. -/
def float (text : String) : Except Error Binary64 := do
  let text := Text.lowerChars (withoutGaps text)
  if text.isEmpty then throw .emptyNumber
  let (negative, text) := Number.takeSign text
  let x ← floatMagnitude text
  return if negative then x.neg else x

/-- The truth value that a word in any letter case names. -/
def bool (text : String) : Except Error Bool :=
  let word := Text.lower text
  match Form.boolWords.lookup word with
  | some value => .ok value
  | none => .error (.form (.missingKey word))

def natOf (digits : List Char) : Nat :=
  digits.foldl (fun n d => 10 * n + (d.toNat - 48)) 0

def isLeapYear (year : Nat) : Bool :=
  year % 4 == 0 && (year % 100 != 0 || year % 400 == 0)

def daysIn (year month : Nat) : Nat :=
  if month == 2 then if isLeapYear year then 29 else 28
  else if [4, 6, 9, 11].contains month then 30
  else 31

def checkDate (year month day : Nat) : Except Error Unit := do
  if year == 0 then throw (.noSuch s!"year {year} is out of range")
  if month < 1 || 12 < month then throw (.noSuch "month must be in 1..12")
  if day < 1 || daysIn year month < day then throw (.noSuch "day is out of range for month")

def checkTime (hour minute second : Nat) : Except Error Unit := do
  if 23 < hour then throw (.noSuch "hour must be in 0..23")
  if 59 < minute then throw (.noSuch "minute must be in 0..59")
  if 59 < second then throw (.noSuch "second must be in 0..59")

/-- The microseconds of a fraction: six digits of it. -/
def microseconds (fraction : List Char) : Nat :=
  natOf ((fraction ++ List.replicate 6 '0').take 6)

/-- The offset of a zone in seconds, which is less than a day. -/
def offset? : Form.Zone → Except Error (Option Int)
  | .none => .ok none
  | .utc => .ok (some 0)
  | .offset negative hours minutes =>
      let seconds : Int := natOf hours * 3600 + natOf minutes * 60
      if 86400 ≤ seconds then
        .error (.noSuch ("offset must be a timedelta strictly between -timedelta(hours=24) and " ++
          "timedelta(hours=24)"))
      else .ok (some (if negative then -seconds else seconds))

/-- The date or the time that a text shows. -/
def timestamp (text : String) : Except Error Datum := do
  match Form.readTimestamp? text.toList with
  | none => throw (.form (.notMap "NoneType"))
  | some parts =>
      let (year, month, day) := (natOf parts.year, natOf parts.month, natOf parts.day)
      match parts.time? with
      | none =>
          checkDate year month day
          return .date year month day
      | some (hour, minute, second, fraction) =>
          let offset? ← offset? parts.zone
          let (hour, minute, second) := (natOf hour, natOf minute, natOf second)
          checkDate year month day
          checkTime hour minute second
          return .timestamp {
            year, month, day, hour, minute, second
            microsecond := microseconds fraction
            offset? }

/-- The bytes that a text in base 64 shows. -/
def binary (text : String) : Except Error Bytes :=
  if text.toList.all fun c => c.toNat < 128 then
    match Base64.decode? text.toList with
    | some bytes => .ok bytes
    | none => .error .malformed
  else .error .malformed

/-- The form that a standard tag asks for. -/
def formOfTag? : (name : String) → Option Form
  | "null" => some .null
  | "bool" => some .bool
  | "int" => some .int
  | "float" => some .float
  | "timestamp" => some .timestamp
  | "str" => some .text
  | _ => none

/-- The value of a text in a form. A text that merges or holds a value does so as a key only. -/
def valueIn : Form → (text : String) → Except Error Datum
  | .null, _ => .ok .null
  | .bool, text => (bool text).map .bool
  | .int, text => (int text).map .int
  | .float, text => (float text).map .float
  | .timestamp, text => timestamp text
  | .text, text => .ok (.text text)
  | .merge, _ | .value, _ => .error .malformed

end BlobInscription.Yaml.Scalar
