import BlobInscription.Text.Printable.Table

namespace BlobInscription.Text

/-- Whether a character stands for itself inside quotes. -/
def isPrintable (c : Char) : Bool :=
  let n := c.toNat
  if n < 127 then 32 ≤ n
  else !unprintableRanges.any fun (first, last) => first ≤ n && n ≤ last

def escapeDigit (n : Nat) : Char :=
  Char.ofNat (if n < 10 then 48 + n else 87 + n)

/-- The `width` low-order hexadecimal digits of a number. -/
def escapeDigits : (width n : Nat) → List Char
  | 0, _ => []
  | width + 1, n => escapeDigits width (n / 16) ++ [escapeDigit (n % 16)]

/-- One character between quotes. -/
def quotedChar (quote c : Char) : List Char :=
  let n := c.toNat
  if c = quote || c = '\\' then ['\\', c]
  else if c = '\n' then ['\\', 'n']
  else if c = '\r' then ['\\', 'r']
  else if c = '\t' then ['\\', 't']
  else if isPrintable c then [c]
  else if n < 0x100 then '\\' :: 'x' :: escapeDigits 2 n
  else if n < 0x10000 then '\\' :: 'u' :: escapeDigits 4 n
  else '\\' :: 'U' :: escapeDigits 8 n

/-- The quote that surrounds a text. -/
def quoteFor (text : List Char) : Char :=
  if text.contains '\'' && !text.contains '"' then '"' else '\''

/-- The quoted form of a text. -/
def quoted (text : String) : String :=
  let chars := text.toList
  let quote := quoteFor chars
  String.ofList (quote :: chars.flatMap (quotedChar quote) ++ [quote])

end BlobInscription.Text
