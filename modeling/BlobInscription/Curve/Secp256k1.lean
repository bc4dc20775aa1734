import BlobInscription.Bytes
import BlobInscription.Curve.Modular

namespace BlobInscription.Secp256k1

/-- The prime of the field. -/
def fieldPrime : Nat := Nat.pow 2 256 - Nat.pow 2 32 - 977

/-- The prime number of points of the group. -/
def order : Nat := 0xfffffffffffffffffffffffffffffffebaaedce6af48a03bbfd25e8cd0364141

/-- A point other than the one at infinity. -/
structure Point where
  x : Nat
  y : Nat
  deriving DecidableEq, Repr

def generator : Point where
  x := 0x79be667ef9dcbbac55a06295ce870b07029bfcdb2dce28d959f2815b16f81798
  y := 0x483ada7726a3c4655da4fbfc0e1108a8fd17b448a68554199c47d08ffb10d4b8

/-- The right-hand side of the curve's equation y² = x³ + 7. -/
def cubic (x : Nat) : Nat :=
  (x * x % fieldPrime * x + 7) % fieldPrime

/-- A square root, when there is one. -/
def sqrt? (a : Nat) : Option Nat :=
  let root := Modular.pow fieldPrime a ((fieldPrime + 1) / 4)
  if root * root % fieldPrime = a % fieldPrime then some root else none

/-- The point with a first coordinate and the parity of the second. -/
def liftX? (x : Nat) (odd : Bool) : Option Point :=
  if fieldPrime ≤ x then none
  else
    (sqrt? (cubic x)).map fun root =>
      ⟨x, if (root % 2 == 1) = odd then root else fieldPrime - root⟩

/-- The compressed form: the parity of the second coordinate before the first. -/
def Point.compress (p : Point) : Bytes :=
  (if p.y % 2 = 1 then 3 else 2) :: Bytes.ofNatBE 32 p.x

/-- A point in Jacobian coordinates, x/z² and y/z³; z is zero at infinity. -/
structure Jacobian where
  x : Nat
  y : Nat
  z : Nat
  deriving DecidableEq, Repr

namespace Jacobian

def infinity : Jacobian := ⟨1, 1, 0⟩

def ofPoint (p : Point) : Jacobian := ⟨p.x, p.y, 1⟩

def double (p : Jacobian) : Jacobian :=
  if p.z = 0 ∨ p.y = 0 then infinity
  else
    let yy := p.y * p.y % fieldPrime
    let s := 4 * p.x * yy % fieldPrime
    let m := 3 * p.x * p.x % fieldPrime
    let x := Modular.sub fieldPrime (m * m) (2 * s)
    let y := Modular.sub fieldPrime (m * Modular.sub fieldPrime s x) (8 * yy * yy)
    ⟨x, y, 2 * p.y * p.z % fieldPrime⟩

def add (p q : Jacobian) : Jacobian :=
  if p.z = 0 then q
  else if q.z = 0 then p
  else
    let pz := p.z * p.z % fieldPrime
    let qz := q.z * q.z % fieldPrime
    let u := p.x * qz % fieldPrime
    let v := q.x * pz % fieldPrime
    let s := p.y * qz % fieldPrime * q.z % fieldPrime
    let t := q.y * pz % fieldPrime * p.z % fieldPrime
    if u = v then if s = t then double p else infinity
    else
      let h := Modular.sub fieldPrime v u
      let r := Modular.sub fieldPrime t s
      let hh := h * h % fieldPrime
      let hhh := h * hh % fieldPrime
      let uh := u * hh % fieldPrime
      let x := Modular.sub fieldPrime (r * r) (hhh + 2 * uh)
      let y := Modular.sub fieldPrime (r * Modular.sub fieldPrime uh x) (s * hhh)
      ⟨x, y, p.z * q.z % fieldPrime * h % fieldPrime⟩

def toPoint? (p : Jacobian) : Option Point :=
  if p.z = 0 then none
  else
    let inverse := Modular.inverse fieldPrime p.z
    let square := inverse * inverse % fieldPrime
    some ⟨p.x * square % fieldPrime, p.y * square % fieldPrime * inverse % fieldPrime⟩

/-- Adds the multiples `a · p + b · q` of the low `bits` bits, highest first, to the doubled sum so
far; `both` is `p + q`. -/
def combineBits (p q both : Jacobian) (a b : Nat) : (bits : Nat) → Jacobian → Jacobian
  | 0, sum => sum
  | bits + 1, sum =>
      let sum := sum.double
      let sum := match a.testBit bits, b.testBit bits with
        | true, true => sum.add both
        | true, false => sum.add p
        | false, true => sum.add q
        | false, false => sum
      combineBits p q both a b bits sum

/-- The sum `a · p + b · q` for numbers below 2²⁵⁶. -/
def combine (a : Nat) (p : Point) (b : Nat) (q : Point) : Jacobian :=
  let p := ofPoint p
  let q := ofPoint q
  combineBits p q (p.add q) a b 256 infinity

end Jacobian

/-- The sum `a · p + b · q`, unless it is at infinity. -/
def combine? (a : Nat) (p : Point) (b : Nat) (q : Point) : Option Point :=
  (Jacobian.combine a p b q).toPoint?

/-- The multiple of the generator. -/
def multiple? (a : Nat) : Option Point :=
  combine? a generator 0 generator

end BlobInscription.Secp256k1
