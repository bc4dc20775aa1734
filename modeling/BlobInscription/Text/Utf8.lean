import BlobInscription.Bytes.Hex

namespace BlobInscription.Text

/-- What is wrong with a piece of bytes. -/
inductive Utf8Fault
  | badStart
  | badContinuation
  | tooShort
  deriving DecidableEq, Repr

/-- A piece of bytes that is no character: where it starts, and its bytes. -/
structure Utf8Error where
  fault : Utf8Fault
  offset : Nat
  piece : Bytes
  deriving DecidableEq, Repr

def Utf8Fault.message : Utf8Fault → String
  | badStart => "invalid start byte"
  | badContinuation => "invalid continuation byte"
  | tooShort => "unexpected end of data"

def Utf8Error.message (e : Utf8Error) : String :=
  let place := match e.piece with
    | [b] => s!"byte 0x{Bytes.hex [b]} in position {e.offset}"
    | piece => s!"bytes in position {e.offset}-{e.offset + piece.length - 1}"
  s!"'utf-8' codec can't decode {place}: {e.fault.message}"

/-- The length of the character that a byte starts. -/
def utf8Length? (first : UInt8) : Option Nat :=
  if first < 0x80 then some 1
  else if first < 0xc2 then none
  else if first < 0xe0 then some 2
  else if first < 0xf0 then some 3
  else if first < 0xf5 then some 4
  else none

/-- Whether a byte may follow the first one of a character. The range is narrower where the
character would be too small for its length, a surrogate, or beyond the last one. -/
def mayBeSecond (first second : UInt8) : Bool :=
  let least : UInt8 := if first == 0xe0 then 0xa0 else if first == 0xf0 then 0x90 else 0x80
  let most : UInt8 := if first == 0xed then 0x9f else if first == 0xf4 then 0x8f else 0xbf
  least ≤ second && second ≤ most

def isContinuation (b : UInt8) : Bool :=
  0x80 ≤ b && b ≤ 0xbf

/-- How many of the bytes after the first one belong to its character, of at most `wanted`. -/
def followers (first : UInt8) (rest : Bytes) (wanted : Nat) : Nat :=
  match rest.take wanted with
  | [] => 0
  | second :: more =>
      if mayBeSecond first second then 1 + (more.takeWhile isContinuation).length else 0

/-- The first piece of bytes that is no character. -/
def utf8Error? (offset : Nat) : Bytes → Option Utf8Error
  | [] => none
  | first :: rest =>
      match utf8Length? first with
      | none => some ⟨.badStart, offset, [first]⟩
      | some length =>
          let count := followers first rest (length - 1)
          if count = length - 1 then utf8Error? (offset + length) (rest.drop count)
          else
            let fault := if count = rest.length then Utf8Fault.tooShort else .badContinuation
            some ⟨fault, offset, first :: rest.take count⟩
  termination_by bytes => bytes.length
  decreasing_by
    exact Nat.lt_succ_of_le (List.length_drop ▸ Nat.sub_le rest.length count)

/-- The text whose UTF-8 form bytes are. -/
def ofUtf8 (bytes : Bytes) : Except Utf8Error String :=
  match utf8Error? 0 bytes, String.fromUTF8? ⟨bytes.toArray⟩ with
  | some error, _ => .error error
  | none, some text => .ok text
  | none, none => .error ⟨.badStart, 0, bytes⟩

end BlobInscription.Text
