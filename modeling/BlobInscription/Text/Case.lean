import BlobInscription.Text.Case.Table

namespace BlobInscription.Text

def inRanges (ranges : List (Nat × Nat)) (c : Char) : Bool :=
  ranges.any fun (first, last) => first ≤ c.toNat && c.toNat ≤ last

/-- The lower-case form of one character by itself. -/
def lowerChar (c : Char) : List Char :=
  let n := c.toNat
  if n < 128 then [if 65 ≤ n && n ≤ 90 then Char.ofNat (n + 32) else c]
  else if n = 0x130 then ['i', '\u0307']
  else
    match lowerCaseRuns.find? fun (first, last, step, _) =>
        first ≤ n && n ≤ last && (n - first) % step == 0 with
    | some (_, _, _, distance) => [Char.ofNat ((n : Int) + distance).toNat]
    | none => [c]

/-- Whether the first character that the final-sigma rule does not skip is cased. -/
def startsCased (text : List Char) : Bool :=
  match text.dropWhile (inRanges caseIgnorableRanges) with
  | [] => false
  | c :: _ => inRanges casedRanges c

/-- Lower-cases the characters after the reversed list `before`. A capital sigma that ends a word
takes its final form. -/
def lowerFrom : (before text : List Char) → (done : List Char) → List Char
  | _, [], done => done.reverse
  | before, c :: rest, done =>
      let low :=
        if c = 'Σ' then
          if startsCased before && !startsCased rest then ['ς'] else ['σ']
        else lowerChar c
      lowerFrom (c :: before) rest (low.reverse ++ done)

def lowerChars (text : List Char) : List Char :=
  lowerFrom [] text []

/-- The lower-case form of a text. -/
def lower (text : String) : String :=
  String.ofList (lowerChars text.toList)

/-- Whether upper-casing would change a character. -/
def changesUnderUpper (c : Char) : Bool :=
  let n := c.toNat
  if n < 128 then 97 ≤ n && n ≤ 122
  else upperChangedRuns.any fun (first, last, step) =>
    first ≤ n && n ≤ last && (n - first) % step == 0

/-- Whether a text is its own upper-case form. -/
def isUpperForm (text : List Char) : Bool :=
  !text.any changesUnderUpper

end BlobInscription.Text
