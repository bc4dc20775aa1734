import BlobInscription.Datum.Display

namespace BlobInscription.Json

/-- One code unit as an escape. -/
def escapedUnit (n : Nat) : List Char :=
  '\\' :: 'u' :: Text.escapeDigits 4 n

def escapedChar (c : Char) : List Char :=
  let n := c.toNat
  if c = '"' then ['\\', '"']
  else if c = '\\' then ['\\', '\\']
  else if c = '\n' then ['\\', 'n']
  else if c = '\r' then ['\\', 'r']
  else if c = '\t' then ['\\', 't']
  else if c = '\x08' then ['\\', 'b']
  else if c = '\x0c' then ['\\', 'f']
  else if 32 ≤ n && n < 127 then [c]
  else if n < 0x10000 then escapedUnit n
  else
    let m := n - 0x10000
    escapedUnit (0xd800 + m / 0x400) ++ escapedUnit (0xdc00 + m % 0x400)

def escaped (text : String) : String :=
  String.ofList ('"' :: text.toList.flatMap escapedChar ++ ['"'])

def floatText : Binary64 → String
  | .nan => "NaN"
  | .infinite negative => if negative then "-Infinity" else "Infinity"
  | x => x.text

/-- The text of a key, which must be a text. -/
def keyText : Datum → String
  | .text t => escaped t
  | d => escaped d.display

/-- How collections are laid out: the text after an opening bracket, between items and before the
closing bracket of a collection at some depth. -/
structure Layout where
  opening : (depth : Nat) → String
  between : (depth : Nat) → String
  closing : (depth : Nat) → String

/-- Everything on one line. -/
def compact : Layout where
  opening _ := ""
  between _ := ", "
  closing _ := ""

def newline (depth : Nat) : String :=
  String.ofList ('\n' :: List.replicate (2 * depth) ' ')

/-- Each item on a line of its own. -/
def indented : Layout where
  opening depth := newline (depth + 1)
  between depth := "," ++ newline (depth + 1)
  closing depth := newline depth

mutual

def render (layout : Layout) (depth : Nat) : Datum → String
  | .null => "null"
  | .bool b => if b then "true" else "false"
  | .int n => toString n
  | .float x => floatText x
  | .text t => escaped t
  | .list [] | .set [] => "[]"
  | .map [] => "\x7b\x7d"
  | .list items | .set items =>
      "[" ++ layout.opening depth ++
        (layout.between depth).intercalate (renderItems layout depth items) ++
        layout.closing depth ++ "]"
  | .map entries =>
      "\x7b" ++ layout.opening depth ++
        (layout.between depth).intercalate (renderEntries layout depth entries) ++
        layout.closing depth ++ "\x7d"
  | .pair a b =>
      "[" ++ layout.opening depth ++ render layout (depth + 1) a ++ layout.between depth ++
        render layout (depth + 1) b ++ layout.closing depth ++ "]"
  | .bytes b => escaped (Datum.quotedBytes b)
  | .date y m d => escaped (Datum.dateText y m d)
  | .timestamp t => escaped (Datum.timestampText t)

def renderItems (layout : Layout) (depth : Nat) : List Datum → List String
  | [] => []
  | d :: ds => render layout (depth + 1) d :: renderItems layout depth ds

def renderEntries (layout : Layout) (depth : Nat) : List (Datum × Datum) → List String
  | [] => []
  | (k, v) :: rest =>
      (keyText k ++ ": " ++ render layout (depth + 1) v) :: renderEntries layout depth rest

end

end BlobInscription.Json
