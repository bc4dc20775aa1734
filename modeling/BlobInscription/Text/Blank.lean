namespace BlobInscription.Text

/-- Whether a character is a blank: an ASCII blank, an information separator, or a Unicode space or
line separator. -/
def isBlank (c : Char) : Bool :=
  let n := c.toNat
  (9 ≤ n && n ≤ 13) || (28 ≤ n && n ≤ 32) || n == 0x85 || n == 0xa0 || n == 0x1680 ||
    (0x2000 ≤ n && n ≤ 0x200a) || n == 0x2028 || n == 0x2029 || n == 0x202f || n == 0x205f ||
    n == 0x3000

/-- The blanks around a numeral: the information separators are none of them. -/
def isNumeralBlank (c : Char) : Bool :=
  isBlank c && !(28 ≤ c.toNat && c.toNat ≤ 31)

/-- The characters without those at both ends that pass a test. -/
def stripWhere (test : Char → Bool) (text : List Char) : List Char :=
  ((text.dropWhile test).reverse.dropWhile test).reverse

def stripChars (text : List Char) : List Char :=
  stripWhere isBlank text

/-- The text without the blanks at both ends. -/
def strip (text : String) : String :=
  String.ofList (stripChars text.toList)

end BlobInscription.Text
