import BlobInscription.Text.Split

namespace BlobInscription.IpAddress

def isDecimal (c : Char) : Bool :=
  '0' ≤ c && c ≤ '9'

def isHexadecimal (c : Char) : Bool :=
  isDecimal c || ('a' ≤ c && c ≤ 'f') || ('A' ≤ c && c ≤ 'F')

/-- Whether a text is one of the four numbers: below 256, and without zeros in front. -/
def isOctet (part : List Char) : Bool :=
  !part.isEmpty && part.all isDecimal && part.length ≤ 3 &&
    (part == ['0'] || part.head? != some '0') &&
    part.foldl (fun n c => 10 * n + (c.toNat - 48)) 0 < 256

def isVersion4 (text : List Char) : Bool :=
  let parts := Text.splitAt '.' text
  parts.length == 4 && parts.all isOctet

/-- Whether a text is one of the eight groups. -/
def isGroup (part : List Char) : Bool :=
  !part.isEmpty && part.all isHexadecimal && part.length ≤ 4

/-- The parts of an address with a trailing version-4 address counted as two groups; nothing when
that is malformed. -/
def groups? (text : List Char) : Option (List (List Char)) :=
  let parts := Text.splitAt ':' text
  let last := parts.getLastD []
  if parts.length < 3 then none
  else if last.contains '.' then
    if isVersion4 last then some (parts.dropLast ++ [['0'], ['0']]) else none
  else some parts

/-- Whether groups on one side of a gap are well formed; next to the end of the text, the gap is
written with one empty part more. -/
def isSide (side : List (List Char)) : Bool :=
  side.all isGroup

/-- Splits parts at the one gap inside, if there is one; two gaps are malformed. -/
def sides? (parts : List (List Char)) : Option (List (List Char) × Option (List (List Char))) :=
  let inside := parts.tail.dropLast
  match inside.count [] with
  | 0 => some (parts, none)
  | 1 =>
      let before := inside.takeWhile fun part => !part.isEmpty
      let after := inside.drop (before.length + 1)
      let left := parts.take 1 ++ before
      let right := after ++ parts.drop (parts.length - 1)
      some (if left == [[]] then [] else left, some (if right == [[]] then [] else right))
  | _ => none

def isVersion6Body (text : List Char) : Bool :=
  match groups? text with
  | none => false
  | some parts =>
      parts.length ≤ 9 &&
      match sides? parts with
      | none => false
      | some (left, none) => left.length == 8 && isSide left
      | some (left, some right) => isSide left && isSide right && left.length + right.length ≤ 7

/-- An address may name its zone after a percent sign. -/
def isVersion6 (text : List Char) : Bool :=
  match Text.splitAt '%' text with
  | [body] => isVersion6Body body
  | [body, zone] => !zone.isEmpty && isVersion6Body body
  | _ => false

end BlobInscription.IpAddress
