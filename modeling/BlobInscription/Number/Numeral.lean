import BlobInscription.Number.Binary64
import BlobInscription.Text.Blank
import BlobInscription.Text.Digit

namespace BlobInscription.Number

/-- Longer integers are refused. -/
def maxIntegerDigits : Nat := 4300

/-- A run of digits with single underscores between them: the values of the digits in reverse, and
the characters after the run. -/
def takeDigits : List Char → (done : List Nat) → List Nat × List Char
  | [], done => (done, [])
  | c :: rest, done =>
      match Text.digitValue? c with
      | some d => takeDigits rest (d :: done)
      | none =>
          match c, done, rest with
          | '_', _ :: _, next :: more =>
              match Text.digitValue? next with
              | some d => takeDigits more (d :: done)
              | none => (done, c :: next :: more)
          | _, _, _ => (done, c :: rest)

/-- The number whose digits, last first, are given. -/
def ofReversedDigits (digits : List Nat) : Nat :=
  digits.reverse.foldl (fun n d => 10 * n + d) 0

/-- A leading sign: whether it is a minus, and the characters after it. -/
def takeSign : List Char → Bool × List Char
  | '-' :: rest => (true, rest)
  | '+' :: rest => (false, rest)
  | text => (false, text)

inductive IntegerError
  | notAnInteger
  | tooManyDigits (count : Nat)
  deriving DecidableEq, Repr

/-- The sign of a numeral and the characters after it, without the blanks around them. -/
def signAndBody (text : String) : Bool × List Char :=
  takeSign (Text.stripWhere Text.isNumeralBlank text.toList)

/-- The integer a text shows. -/
def readInteger (text : String) : Except IntegerError Int :=
  let (negative, body) := signAndBody text
  match takeDigits body [] with
  | ([], _) | (_, _ :: _) => .error .notAnInteger
  | (digits, []) =>
      if maxIntegerDigits < digits.length then .error (.tooManyDigits digits.length)
      else
        let magnitude := ofReversedDigits digits
        .ok (if negative then -(magnitude : Int) else magnitude)

/-- An exponent mark with a signed run of digits, or nothing. -/
def takeExponent? : List Char → Option (Int × List Char)
  | c :: rest =>
      if c = 'e' || c = 'E' then
        let (negative, body) := takeSign rest
        match takeDigits body [] with
        | ([], _) => none
        | (digits, rest) =>
            let magnitude := ofReversedDigits digits
            some (if negative then -(magnitude : Int) else magnitude, rest)
      else none
  | [] => none

/-- A decimal `digits · 10ᵉ` as it is written: a run of digits, a point and a second run, one of the
runs being non-empty, and an exponent. -/
def readDecimal? (text : List Char) : Option (List Nat × Int) :=
  let (whole, rest) := takeDigits text []
  let (fraction, rest) :=
    match rest with
    | '.' :: rest => takeDigits rest []
    | _ => ([], rest)
  let digits := fraction ++ whole
  let withExponent :=
    match rest with
    | [] => some 0
    | _ =>
        match takeExponent? rest with
        | some (e, []) => some e
        | _ => none
  match digits, withExponent with
  | [], _ | _, none => none
  | _, some e => some (digits, e - fraction.length)

/-- The characters with ASCII capitals made small. -/
def asciiLower (text : List Char) : List Char :=
  text.map Char.toLower

/-- The double a text shows: a decimal, an infinity or a NaN. -/
def readBinary64? (text : String) : Option Binary64 :=
  let (negative, body) := signAndBody text
  let word := String.ofList (asciiLower body)
  if word = "inf" || word = "infinity" then some (.infinite negative)
  else if word = "nan" then some .nan
  else
    (readDecimal? body).map fun (digits, e) => .ofDecimal negative (ofReversedDigits digits) e

end BlobInscription.Number
