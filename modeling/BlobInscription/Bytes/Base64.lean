import BlobInscription.Bytes

namespace BlobInscription.Base64

/-- The value of a character of the alphabet. -/
def digit? (c : Char) : Option Nat :=
  let n := c.toNat
  if 65 ≤ n && n ≤ 90 then some (n - 65)
  else if 97 ≤ n && n ≤ 122 then some (n - 71)
  else if 48 ≤ n && n ≤ 57 then some (n + 4)
  else if c == '+' then some 62
  else if c == '/' then some 63
  else none

/-- The bytes of a group of two to four digits. -/
def groupBytes (digits : List Nat) : Bytes :=
  let n := (digits ++ List.replicate (4 - digits.length) 0).foldl (fun n d => 64 * n + d) 0
  (Bytes.ofNatBE 3 n).take (digits.length - 1)

/-- Reads digits in groups of four; `group` is the group begun, in reverse, and `pads` the padding
after it. -/
def readFrom : List Char → (group : List Nat) → (pads : Nat) → (done : Bytes) → Option Bytes
  | [], group, _, done => if group.isEmpty then some done else none
  | c :: rest, group, pads, done =>
      if c == '=' then
        if 2 ≤ group.length then
          if 4 ≤ group.length + pads + 1 then some (done ++ groupBytes group.reverse)
          else readFrom rest group (pads + 1) done
        else readFrom rest group pads done
      else
        match digit? c with
        | none => readFrom rest group pads done
        | some d =>
            if group.length = 3 then readFrom rest [] 0 (done ++ groupBytes (d :: group).reverse)
            else readFrom rest (d :: group) 0 done

/-- The bytes that a text shows; nothing when it ends inside a group. -/
def decode? (text : List Char) : Option Bytes :=
  readFrom text [] 0 []

/-- The character of a value below 64. -/
def digitChar (n : Nat) : Char :=
  if n < 26 then Char.ofNat (n + 65)
  else if n < 52 then Char.ofNat (n + 71)
  else if n < 62 then Char.ofNat (n - 4)
  else if n = 62 then '+'
  else '/'

/-- The four characters of a group of one to three bytes. -/
def groupChars (group : Bytes) : List Char :=
  let n := Bytes.toNatBE (group ++ List.replicate (3 - group.length) 0)
  let digits := [n / 262144 % 64, n / 4096 % 64, n / 64 % 64, n % 64].map digitChar
  digits.take (group.length + 1) ++ List.replicate (3 - group.length) '='

/-- The text of bytes. -/
def encode : Bytes → List Char
  | a :: b :: c :: rest => groupChars [a, b, c] ++ encode rest
  | [] => []
  | group => groupChars group

end BlobInscription.Base64
