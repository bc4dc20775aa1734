import BlobInscription.Number.Binary64

namespace BlobInscription.Binary64

open Number (roundDiv digitCount)

/-- The exponent of ten of the leading digit of a positive count of units. -/
def leadingExponent (units : Nat) : Int :=
  if unitsPerOne ≤ units then (digitCount (units / unitsPerOne) : Int) - 1
  else -(digitCount ((unitsPerOne + units - 1) / units - 1) : Int)

/-- The ratio `units / (unitsPerOne · 10ᵉ)`. -/
def scaledRatio (units : Nat) (e : Int) : Nat × Nat :=
  if 0 ≤ e then (units, unitsPerOne * Nat.pow 10 e.toNat)
  else (units * Nat.pow 10 (-e).toNat, unitsPerOne)

/-- Whether `n · 10ᵉ` reads back as the given units. -/
def readsBack (units n : Nat) (e : Int) : Bool :=
  ofDecimal false n e == finite false units

/-- Of the two neighbours on the grid of multiples of `10ᵉ`, the nearest that reads back. -/
def onGrid? (units : Nat) (e : Int) : Option Nat :=
  let (num, den) := scaledRatio units e
  let near := roundDiv num den
  let low := num / den
  if readsBack units near e then some near
  else if readsBack units low e then some low
  else if readsBack units (low + 1) e then some (low + 1)
  else none

/-- The fewest digits that read back, tried from `count` on, with the exponent of their last digit.
Seventeen digits always do. -/
def shortestFrom (units : Nat) (leading : Int) : (tries count : Nat) → Nat × Int
  | 0, count => (units, leading - count)
  | tries + 1, count =>
      let e := leading - count + 1
      match onGrid? units e with
      | some n => (n, e)
      | none => shortestFrom units leading tries (count + 1)

/-- Drops trailing zeros of a number into its exponent of ten. -/
def dropZeros : (bound n : Nat) → Int → Nat × Int
  | 0, n, e => (n, e)
  | bound + 1, n, e => if n % 10 = 0 then dropZeros bound (n / 10) (e + 1) else (n, e)

/-- The fewest digits of a positive number, as `n · 10ᵉ` with no zero at the end of `n`. -/
def shortest (units : Nat) : Nat × Int :=
  let (n, e) := shortestFrom units (leadingExponent units) 17 1
  dropZeros 20 n e

/-- The least exponent of the leading digit that is written positionally. -/
def positionalFrom : Int := -4

/-- The least larger exponent that is no longer written positionally. -/
def positionalBelow : Int := 16

def digitText (n : Nat) : List Char :=
  Nat.toDigits 10 n

/-- An exponent: a sign and at least two digits. -/
def exponentText (e : Int) : List Char :=
  let digits := digitText e.natAbs
  let padded := if digits.length < 2 then '0' :: digits else digits
  'e' :: (if e < 0 then '-' else '+') :: padded

/-- Text of the positive number `n · 10ᵉ`. -/
def magnitudeText (n : Nat) (e : Int) : List Char :=
  let digits := digitText n
  let leading := e + digits.length - 1
  if positionalFrom ≤ leading ∧ leading < positionalBelow then
    if 0 ≤ e then digits ++ List.replicate e.toNat '0' ++ ['.', '0']
    else if 0 ≤ leading then
      digits.take (leading.toNat + 1) ++ '.' :: digits.drop (leading.toNat + 1)
    else '0' :: '.' :: (List.replicate ((-leading).toNat - 1) '0' ++ digits)
  else
    match digits with
    | [d] => d :: exponentText leading
    | d :: rest => d :: '.' :: (rest ++ exponentText leading)
    | [] => []

/-- The shortest decimal that reads back as the same double. -/
def text : Binary64 → String
  | nan => "nan"
  | infinite negative => if negative then "-inf" else "inf"
  | finite negative units =>
      let magnitude :=
        if units = 0 then ['0', '.', '0']
        else
          let (n, e) := shortest units
          magnitudeText n e
      String.ofList (if negative then '-' :: magnitude else magnitude)

/-- The decimal with two places nearest to a double, a half to the even neighbour. -/
def twoPlaces : Binary64 → String
  | nan => "nan"
  | infinite negative => if negative then "-inf" else "inf"
  | finite negative units =>
      let hundredths := roundDiv (units * 100) unitsPerOne
      let cents := hundredths % 100
      let fraction := (if cents < 10 then ['0'] else []) ++ digitText cents
      let magnitude := digitText (hundredths / 100) ++ '.' :: fraction
      String.ofList (if negative then '-' :: magnitude else magnitude)

end BlobInscription.Binary64
