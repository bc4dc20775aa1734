import BlobInscription.Number.Numeral

namespace BlobInscription.Number

inductive Decimal
  | nan (signaling : Bool)
  | infinite (negative : Bool)
  /-- The number `±digits · 10ᵉ`. -/
  | finite (negative : Bool) (digits : Nat) (exponent : Int)
  deriving DecidableEq, Repr

inductive DecimalError
  /-- A text that shows no decimal. -/
  | unreadable
  /-- An operation on a signaling NaN. -/
  | signaling
  /-- A product beyond the largest exponent. -/
  | overflow
  /-- An integer wanted from a NaN. -/
  | nanToInteger
  /-- An integer wanted from an infinity. -/
  | infinityToInteger
  deriving DecidableEq, Repr

namespace Decimal

/-- The number of significant digits that results keep. -/
def precision : Nat := 28

/-- The largest exponent of the leading digit of a result. -/
def maxExponent : Int := 999999

/-- Whether a text is made of digits only. -/
def allDigits (text : List Char) : Bool :=
  text.all fun c => (Text.digitValue? c).isSome

/-- The decimal a text shows. Underscores are ignored wherever they stand. -/
def read? (text : String) : Option Decimal :=
  let (negative, body) := takeSign ((Text.stripChars text.toList).filter (· != '_'))
  let word := asciiLower body
  if word = "inf".toList || word = "infinity".toList then some (infinite negative)
  else if word.take 3 = "nan".toList && allDigits (word.drop 3) then some (nan false)
  else if word.take 4 = "snan".toList && allDigits (word.drop 4) then some (nan true)
  else (readDecimal? body).map fun (digits, e) => finite negative (ofReversedDigits digits) e

/-- Rounds to `precision` digits, a half to the even neighbour. -/
def round (digits : Nat) (e : Int) : Nat × Int :=
  let count := digitCount digits
  if count ≤ precision then (digits, e)
  else
    let spare := count - precision
    let rounded := roundDiv digits (Nat.pow 10 spare)
    if rounded = Nat.pow 10 precision then (Nat.pow 10 (precision - 1), e + spare + 1)
    else (rounded, e + spare)

/-- The product with a power of ten, rounded. -/
def mulPowTen (d : Decimal) (power : Nat) : Except DecimalError Decimal :=
  match d with
  | nan true => .error .signaling
  | nan false => .ok (nan false)
  | infinite negative => .ok (infinite negative)
  | finite negative digits e =>
      let (digits, e) := round (digits * Nat.pow 10 power) e
      if digits ≠ 0 ∧ maxExponent < e + digitCount digits - 1 then .error .overflow
      else .ok (finite negative digits e)

/-- The integer part, cut toward zero. -/
def toInt : Decimal → Except DecimalError Int
  | nan _ => .error .nanToInteger
  | infinite _ => .error .infinityToInteger
  | finite negative digits e =>
      let magnitude :=
        if 0 ≤ e then digits * Nat.pow 10 e.toNat
        else if (digitCount digits : Int) ≤ -e then 0
        else digits / Nat.pow 10 (-e).toNat
      .ok (if negative then -(magnitude : Int) else magnitude)

end Decimal

end BlobInscription.Number
