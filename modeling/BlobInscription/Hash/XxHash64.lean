import BlobInscription.Bytes

namespace BlobInscription.XxHash64

def prime1 : UInt64 := 0x9e3779b185ebca87
def prime2 : UInt64 := 0xc2b2ae3d27d4eb4f
def prime3 : UInt64 := 0x165667b19e3779f9
def prime4 : UInt64 := 0x85ebca77c2b2ae63
def prime5 : UInt64 := 0x27d4eb2f165667c5

def rotateLeft (x n : UInt64) : UInt64 :=
  (x <<< n) ||| (x >>> (64 - n))

/-- Mixes a lane into an accumulator. -/
def round (acc lane : UInt64) : UInt64 :=
  rotateLeft (acc + lane * prime2) 31 * prime1

def mergeRound (acc value : UInt64) : UInt64 :=
  (acc ^^^ round 0 value) * prime1 + prime4

def word (bytes : Bytes) : UInt64 :=
  UInt64.ofNat (Bytes.toNatLE bytes)

structure Lanes where
  v1 : UInt64
  v2 : UInt64
  v3 : UInt64
  v4 : UInt64
  deriving DecidableEq, Repr

def Lanes.start : Lanes :=
  ⟨prime1 + prime2, prime2, 0, 0 - prime1⟩

/-- Absorbs `stripes` stripes of 32 bytes. -/
def absorb : (stripes : Nat) → Bytes → Lanes → Lanes
  | 0, _, v => v
  | stripes + 1, bytes, v =>
      absorb stripes (bytes.drop 32)
        ⟨round v.v1 (word (bytes.take 8)), round v.v2 (word ((bytes.drop 8).take 8)),
          round v.v3 (word ((bytes.drop 16).take 8)), round v.v4 (word ((bytes.drop 24).take 8))⟩

def Lanes.merge (v : Lanes) : UInt64 :=
  let sum := rotateLeft v.v1 1 + rotateLeft v.v2 7 + rotateLeft v.v3 12 + rotateLeft v.v4 18
  mergeRound (mergeRound (mergeRound (mergeRound sum v.v1) v.v2) v.v3) v.v4

/-- Absorbs what is left after the stripes: words of eight bytes, one of four, single bytes. -/
def absorbTail : (bound : Nat) → Bytes → UInt64 → UInt64
  | 0, _, h => h
  | bound + 1, bytes, h =>
      if 8 ≤ bytes.length then
        absorbTail bound (bytes.drop 8)
          (rotateLeft (h ^^^ round 0 (word (bytes.take 8))) 27 * prime1 + prime4)
      else if 4 ≤ bytes.length then
        absorbTail bound (bytes.drop 4)
          (rotateLeft (h ^^^ word (bytes.take 4) * prime1) 23 * prime2 + prime3)
      else
        match bytes with
        | [] => h
        | b :: rest => absorbTail bound rest (rotateLeft (h ^^^ b.toUInt64 * prime5) 11 * prime1)

def avalanche (h : UInt64) : UInt64 :=
  let h := (h ^^^ (h >>> 33)) * prime2
  let h := (h ^^^ (h >>> 29)) * prime3
  h ^^^ (h >>> 32)

def hash (bytes : Bytes) : UInt64 :=
  let length := bytes.length
  let start := if 32 ≤ length then (absorb (length / 32) bytes .start).merge else prime5
  avalanche (absorbTail 32 (bytes.drop (length / 32 * 32)) (start + UInt64.ofNat length))

end BlobInscription.XxHash64
