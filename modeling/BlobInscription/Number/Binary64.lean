import BlobInscription.Number.Rounding

/-!
Double-precision numbers. A finite one is a whole number of units of 2⁻¹⁰⁷⁴, so that comparison is
that of integers and every operation is one exact result rounded once.
-/

namespace BlobInscription

inductive Binary64
  | nan
  | infinite (negative : Bool)
  /-- A multiple of 2⁻¹⁰⁷⁴ whose count of units has at most 53 significant bits. -/
  | finite (negative : Bool) (units : Nat)
  deriving DecidableEq, Repr, Inhabited

namespace Binary64

open Number (roundDiv)

/-- The number of units in one. -/
def unitsPerOne : Nat := Nat.pow 2 1074

/-- The units of the least power of two that is no finite double. -/
def unitsLimit : Nat := Nat.pow 2 2098

/-- The ratio `num / den` in units, rounded to 53 significant bits. -/
def roundUnits (num den : Nat) : Nat :=
  let scaled := num * unitsPerOne
  let whole := scaled / den
  let spare := whole.log2 - 52
  roundDiv scaled (den * Nat.pow 2 spare) * Nat.pow 2 spare

/-- The double nearest to `±num / den`. -/
def ofRatio (negative : Bool) (num den : Nat) : Binary64 :=
  let units := roundUnits num den
  if unitsLimit ≤ units then infinite negative else finite negative units

/-- The double nearest to `±digits · 10ᵉ`. -/
def ofDecimal (negative : Bool) (digits : Nat) (e : Int) : Binary64 :=
  if digits = 0 then finite negative 0
  else if 400 < e then infinite negative
  else if (Number.digitCount digits : Int) + e < -400 then finite negative 0
  else if 0 ≤ e then ofRatio negative (digits * Nat.pow 10 e.toNat) 1
  else ofRatio negative digits (Nat.pow 10 (-e).toNat)

/-- The double nearest to an integer; nothing when it is too large. -/
def ofInt? (n : Int) : Option Binary64 :=
  match ofRatio (n < 0) n.natAbs 1 with
  | infinite _ => none
  | x => some x

def zero : Binary64 := finite false 0

/-- A finite number in units. -/
def signedUnits (negative : Bool) (units : Nat) : Int :=
  if negative then -(units : Int) else units

/-- Whether one number is below another; nothing is below or above what is no number. -/
def lt : Binary64 → Binary64 → Bool
  | nan, _ | _, nan => false
  | infinite a, infinite b => a && !b
  | infinite a, finite _ _ => a
  | finite _ _, infinite b => !b
  | finite a u, finite b v => signedUnits a u < signedUnits b v

/-- Whether two numbers are equal; the two zeros are, and what is no number is not. -/
def eq : Binary64 → Binary64 → Bool
  | nan, _ | _, nan => false
  | infinite a, infinite b => a == b
  | finite a u, finite b v => signedUnits a u == signedUnits b v
  | _, _ => false

def mul : Binary64 → Binary64 → Binary64
  | nan, _ | _, nan => nan
  | infinite a, infinite b => infinite (a != b)
  | infinite a, finite b v => if v = 0 then nan else infinite (a != b)
  | finite a u, infinite b => if u = 0 then nan else infinite (a != b)
  | finite a u, finite b v => ofRatio (a != b) (u * v) (unitsPerOne * unitsPerOne)

/-- A number in units, rounded. A sum of zero is negative when both parts are. -/
def ofUnits (negativeZero : Bool) (units : Int) : Binary64 :=
  if units = 0 then finite negativeZero 0 else ofRatio (units < 0) units.natAbs unitsPerOne

def add : Binary64 → Binary64 → Binary64
  | nan, _ | _, nan => nan
  | infinite a, infinite b => if a == b then infinite a else nan
  | infinite a, finite _ _ => infinite a
  | finite _ _, infinite b => infinite b
  | finite a u, finite b v => ofUnits (a && b) (signedUnits a u + signedUnits b v)

def neg : Binary64 → Binary64
  | nan => nan
  | infinite negative => infinite !negative
  | finite negative units => finite (!negative) units

/-- Division by a positive natural number. -/
def divNat : Binary64 → Nat → Binary64
  | nan, _ => nan
  | infinite a, _ => infinite a
  | finite a u, n => ofRatio a u (unitsPerOne * n)

/-- The integer part, cut toward zero; nothing for what is not finite. -/
def truncate? : Binary64 → Option Int
  | finite negative units => some (signedUnits negative (units / unitsPerOne))
  | _ => none

def isZero : Binary64 → Bool
  | finite _ 0 => true
  | _ => false

def isNaN : Binary64 → Bool
  | nan => true
  | _ => false

/-- The interchange format: sign, eleven bits of exponent, fifty-two of fraction. -/
def bits : Binary64 → Nat
  | nan => 0x7ff8 * Nat.pow 2 48
  | infinite negative => (if negative then Nat.pow 2 63 else 0) + 0x7ff * Nat.pow 2 52
  | finite negative units =>
      let spare := units.log2 - 52
      let magnitude :=
        if units < Nat.pow 2 52 then units else spare * Nat.pow 2 52 + units / Nat.pow 2 spare
      (if negative then Nat.pow 2 63 else 0) + magnitude

end Binary64

end BlobInscription
