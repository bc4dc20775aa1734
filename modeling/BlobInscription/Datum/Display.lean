import BlobInscription.Datum
import BlobInscription.Number.Binary64.Text
import BlobInscription.Number.Numeral
import BlobInscription.Text.Quoted

namespace BlobInscription.Datum

/-- A number with zeros in front up to `width` digits. -/
def padded (width n : Nat) : String :=
  let digits := Nat.toDigits 10 n
  String.ofList (List.replicate (width - digits.length) '0' ++ digits)

def dateText (year month day : Nat) : String :=
  s!"{padded 4 year}-{padded 2 month}-{padded 2 day}"

/-- An offset from UTC, with its seconds when there are any. -/
def offsetText (offset : Int) : String :=
  let size := offset.natAbs
  let sign := if offset < 0 then "-" else "+"
  let minutes := s!"{sign}{padded 2 (size / 3600)}:{padded 2 (size / 60 % 60)}"
  if size % 60 = 0 then minutes else s!"{minutes}:{padded 2 (size % 60)}"

def timestampText (t : Timestamp) : String :=
  let day := dateText t.year t.month t.day
  let time := s!"{padded 2 t.hour}:{padded 2 t.minute}:{padded 2 t.second}"
  let fraction := if t.microsecond = 0 then "" else s!".{padded 6 t.microsecond}"
  let offset := match t.offset? with
    | none => ""
    | some offset => offsetText offset
  s!"{day} {time}{fraction}{offset}"

/-- The parts of a signed duration in seconds: days, possibly negative, and seconds of a day. -/
def durationText (seconds : Int) : String :=
  let days := seconds / 86400
  let rest := seconds % 86400
  match days == 0, rest == 0 with
  | true, true => "0"
  | true, false => s!"seconds={rest}"
  | false, true => s!"days={days}"
  | false, false => s!"days={days}, seconds={rest}"

def quotedTimestamp (t : Timestamp) : String :=
  let fields := [t.year, t.month, t.day, t.hour, t.minute].map toString
  let seconds :=
    if t.microsecond ≠ 0 then [toString t.second, toString t.microsecond]
    else if t.second ≠ 0 then [toString t.second]
    else []
  let zone := match t.offset? with
    | none => []
    | some 0 => ["tzinfo=datetime.timezone.utc"]
    | some offset => [s!"tzinfo=datetime.timezone(datetime.timedelta({durationText offset}))"]
  "datetime.datetime(" ++ ", ".intercalate (fields ++ seconds ++ zone) ++ ")"

/-- One byte between quotes. -/
def quotedByte (quote : Char) (b : UInt8) : List Char :=
  let n := b.toNat
  if n < 127 then Text.quotedChar quote (Char.ofNat n)
  else '\\' :: 'x' :: Text.escapeDigits 2 n

def quotedBytes (bytes : Bytes) : String :=
  let quote := Text.quoteFor (bytes.map fun b => Char.ofNat b.toNat)
  String.ofList ('b' :: quote :: bytes.flatMap (quotedByte quote) ++ [quote])

mutual

/-- The text of a value inside a collection. -/
def inner : Datum → String
  | null => "None"
  | bool b => if b then "True" else "False"
  | int n => toString n
  | float x => x.text
  | text t => Text.quoted t
  | bytes b => quotedBytes b
  | date y m d => s!"datetime.date({y}, {m}, {d})"
  | timestamp t => quotedTimestamp t
  | list items => "[" ++ ", ".intercalate (innerList items) ++ "]"
  | pair a b => "(" ++ inner a ++ ", " ++ inner b ++ ")"
  | set [] => "set()"
  | set members => "\x7b" ++ ", ".intercalate (innerList members) ++ "\x7d"
  | map entries => "\x7b" ++ ", ".intercalate (innerEntries entries) ++ "\x7d"

def innerList : List Datum → List String
  | [] => []
  | d :: ds => inner d :: innerList ds

def innerEntries : List (Datum × Datum) → List String
  | [] => []
  | (k, v) :: rest => (inner k ++ ": " ++ inner v) :: innerEntries rest

end

/-- The text of a value by itself. -/
def display : Datum → String
  | text t => t
  | date y m d => dateText y m d
  | timestamp t => timestampText t
  | d => inner d

/-- Why a value has no text. -/
inductive DisplayError
  | integerTooLong
  | tooDeep
  deriving DecidableEq, Repr

namespace DisplayError

def message : DisplayError → String
  | integerTooLong =>
      s!"Exceeds the limit ({Number.maxIntegerDigits} digits) for integer string conversion; " ++
        "use sys.set_int_max_str_digits() to increase the limit"
  | tooDeep => "maximum recursion depth exceeded while getting the repr of an object"

end DisplayError

mutual

/-- Checks that no integer in a value is too long, and no collection nested too deep. -/
def checkText : Datum → (nesting : Nat) → Except DisplayError Unit
  | int n, _ =>
      if Nat.pow 10 Number.maxIntegerDigits ≤ n.natAbs then .error .integerTooLong else .ok ()
  | list _, 0 | pair .., 0 | set _, 0 | map _, 0 => .error .tooDeep
  | list items, nesting + 1 | set items, nesting + 1 => checkTexts items nesting
  | pair a b, nesting + 1 => do
      checkText a nesting
      checkText b nesting
  | map entries, nesting + 1 => checkEntryTexts entries nesting
  | _, _ => .ok ()

def checkTexts : List Datum → (nesting : Nat) → Except DisplayError Unit
  | [], _ => .ok ()
  | d :: ds, nesting => do
      checkText d nesting
      checkTexts ds nesting

def checkEntryTexts : List (Datum × Datum) → (nesting : Nat) → Except DisplayError Unit
  | [], _ => .ok ()
  | (k, v) :: rest, nesting => do
      checkText k nesting
      checkText v nesting
      checkEntryTexts rest nesting

end

/-- The text of a value by itself, if it has one. -/
def toText (d : Datum) (nesting : Nat) : Except DisplayError String := do
  d.checkText nesting
  return d.display

/-- The name of a value's kind in messages. -/
def kindName : Datum → String
  | null => "NoneType"
  | bool _ => "bool"
  | int _ => "int"
  | float _ => "float"
  | text _ => "str"
  | bytes _ => "bytes"
  | date .. => "datetime.date"
  | timestamp _ => "datetime.datetime"
  | list _ => "list"
  | pair .. => "tuple"
  | set _ => "set"
  | map _ => "dict"

end BlobInscription.Datum
