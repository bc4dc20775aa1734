import BlobInscription.Yaml.Scalar.Quoted
import BlobInscription.Yaml.Token

namespace BlobInscription.Yaml

def isNameChar (c : Char) : Bool :=
  c.isAlphanum || c == '-' || c == '_'

/-- Whether a character may follow the name of an anchor. -/
def endsAnchor (c : Char) : Bool :=
  endsWord c || "?:,]\x7d%@\x60".toList.contains c

/-- Reads the name after the indicator of an anchor or an alias. -/
def readAnchor (c : Cursor) : Except Error (String × Cursor) :=
  let (name, c) := c.next.takeRun isNameChar
  if name.isEmpty || !endsAnchor c.char then .error .malformed else .ok (String.ofList name, c)

def isUriChar (c : Char) : Bool :=
  isNameChar c || ";/?:@&=+$,.!~*'()[]".toList.contains c

/-- The bytes of escapes, each a percent sign with two hexadecimal digits. -/
def readEscapes : (fuel : Nat) → Cursor → (done : Bytes) → Except Error (Bytes × Cursor)
  | 0, c, done => .ok (done, c)
  | fuel + 1, c, done => do
      if c.char != '%' then return (done, c)
      if (c.next.rest.take 2).length < 2 then throw .malformed
      let byte ← Quoted.readHex (c.next.rest.take 2)
      readEscapes fuel (c.skip 3) (done ++ [UInt8.ofNat byte])

/-- The text whose UTF-8 form bytes are. -/
def textOf (bytes : Bytes) : Except Error (List Char) :=
  match String.fromUTF8? ⟨bytes.toArray⟩ with
  | some text => .ok text.toList
  | none => .error .malformed

/-- Reads the characters and escapes of a tag. -/
def readUriFrom : (fuel : Nat) → Cursor → (done : List Char) → Except Error (List Char × Cursor)
  | 0, c, done => .ok (done, c)
  | fuel + 1, c, done => do
      if c.char == '%' then
        let (bytes, c) ← readEscapes (c.rest.length + 1) c []
        readUriFrom fuel c (done ++ (← textOf bytes))
      else if isUriChar c.char then readUriFrom fuel c.next (done ++ [c.char])
      else return (done, c)

def readUri (c : Cursor) : Except Error (String × Cursor) := do
  let (text, c) ← readUriFrom (c.rest.length + 1) c []
  if text.isEmpty then throw .malformed
  return (String.ofList text, c)

/-- Reads a handle: a name between exclamation marks, or one mark alone. -/
def readHandle (c : Cursor) : Except Error (String × Cursor) := do
  if c.char != '!' then throw .malformed
  let (name, c) := c.next.takeRun isNameChar
  if c.char == '!' then return ("!" ++ String.ofList name ++ "!", c.next)
  if name.isEmpty && c.char == ' ' then return ("!", c) else throw .malformed

/-- Whether a second exclamation mark stands in the word ahead. -/
def hasHandle (c : Cursor) : Bool :=
  ((c.next.run fun ch => ch != ' ' && !endsLine ch).contains '!')

/-- Reads a tag. -/
def readTag (c : Cursor) : Except Error (Token × Cursor) := do
  let (token, c) ←
    if c.ahead 1 == '<' then do
      let (suffix, c) ← readUri (c.skip 2)
      if c.char != '>' then throw .malformed
      pure (Token.tag none suffix, c.next)
    else if endsWord (c.ahead 1) then pure (Token.tag none "!", c.next)
    else do
      let (handle, c) ← if hasHandle c then readHandle c else pure ("!", c.next)
      let (suffix, c) ← readUri c
      pure (Token.tag (some handle) suffix, c)
  if c.char == ' ' || endsLine c.char then return (token, c) else throw .malformed

/-- Skips blanks, a comment and the line end. -/
def skipDirectiveLine (c : Cursor) : Except Error Cursor :=
  let c := c.skipRun (· == ' ')
  let c := if c.char == '#' then c.skipRun fun ch => !endsLine ch else c
  if endsLine c.char then .ok c.lineBreak.2 else .error .malformed

def readDigits (c : Cursor) : Except Error (Nat × Cursor) :=
  let (digits, c) := c.takeRun Char.isDigit
  if digits.isEmpty then .error .malformed
  else .ok (digits.foldl (fun n d => 10 * n + (d.toNat - 48)) 0, c)

def readVersion (c : Cursor) : Except Error (Directive × Cursor) := do
  let (major, c) ← readDigits (c.skipRun (· == ' '))
  if c.char != '.' then throw .malformed
  let (_, c) ← readDigits c.next
  if c.char == ' ' || endsLine c.char then return (.version major, c) else throw .malformed

def readTagDirective (c : Cursor) : Except Error (Directive × Cursor) := do
  let (handle, c) ← readHandle (c.skipRun (· == ' '))
  if c.char != ' ' then throw .malformed
  let (tagStart, c) ← readUri (c.skipRun (· == ' '))
  if c.char == ' ' || endsLine c.char then return (.tagHandle handle tagStart, c)
  else throw .malformed

/-- Reads a directive line. -/
def readDirective (c : Cursor) : Except Error (Directive × Cursor) := do
  let (name, c) := c.next.takeRun isNameChar
  if name.isEmpty || !(c.char == ' ' || endsLine c.char) then throw .malformed
  let (directive, c) ←
    if name == "YAML".toList then readVersion c
    else if name == "TAG".toList then readTagDirective c
    else pure (Directive.other, c.skipRun fun ch => !endsLine ch)
  return (directive, ← skipDirectiveLine c)

end BlobInscription.Yaml
