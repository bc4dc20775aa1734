import BlobInscription.Datum.Display
import BlobInscription.Number.Decimal
import BlobInscription.Number.Numeral

namespace BlobInscription

/-- Why a value does not have the form that is wanted of it. The fields are what the text shows. -/
inductive FormError
  | missingKey (key : String)
  | notMap (kind : String)
  | notText (kind : String)
  | notIterable (kind : String)
  | noMembership (kind : String)
  | notHashable (kind : String)
  | notInteger (kind : String)
  | notFloat (kind : String)
  | notHexText (kind : String)
  /-- A value of another length, where a key and a value are wanted. -/
  | notPair (length : Nat)
  | unreadableInteger (shown : String)
  | integerTooLong (digits : Nat)
  | unreadableFloat (shown : String)
  | integerOfNaN
  | integerOfInfinity
  | floatOverflow
  | decimal (error : Number.DecimalError)
  /-- A value that is wanted as a text. -/
  | noText (error : Datum.DisplayError)
  deriving DecidableEq, Repr

namespace FormError

def decimalMessage : Number.DecimalError → String
  | .unreadable => "[<class 'decimal.ConversionSyntax'>]"
  | .signaling => "[<class 'decimal.InvalidOperation'>]"
  | .overflow => "[<class 'decimal.Overflow'>]"
  | .nanToInteger => "cannot convert NaN to integer"
  | .infinityToInteger => "cannot convert Infinity to integer"

def message : FormError → String
  | missingKey key => Text.quoted key
  | notMap kind => s!"'{kind}' object has no attribute 'get'"
  | notText kind => s!"'{kind}' object has no attribute 'lower'"
  | notIterable kind => s!"'{kind}' object is not iterable"
  | noMembership kind => s!"argument of type '{kind}' is not iterable"
  | notHashable kind => s!"unhashable type: '{kind}'"
  | notInteger kind =>
      s!"int() argument must be a string, a bytes-like object or a real number, not '{kind}'"
  | notFloat kind => s!"float() argument must be a string or a real number, not '{kind}'"
  | notHexText kind => s!"fromhex() argument must be str, not {kind}"
  | notPair length => s!"dictionary update sequence element has length {length}; 2 is required"
  | unreadableInteger shown => s!"invalid literal for int() with base 10: {shown}"
  | integerTooLong digits =>
      s!"Exceeds the limit ({Number.maxIntegerDigits} digits) for integer string conversion: " ++
        s!"value has {digits} digits; use sys.set_int_max_str_digits() to increase the limit"
  | unreadableFloat shown => s!"could not convert string to float: {shown}"
  | integerOfNaN => "cannot convert float NaN to integer"
  | integerOfInfinity => "cannot convert float infinity to integer"
  | floatOverflow => "int too large to convert to float"
  | decimal error => decimalMessage error
  | noText error => error.message

/-- Whether the value shows a number beyond the wanted range. -/
def isOverflow : FormError → Bool
  | integerOfInfinity | floatOverflow | decimal .infinityToInteger | decimal .overflow => true
  | _ => false

/-- Whether a value is of a fitting kind, and only what it holds is wrong. -/
def isOfContent : FormError → Bool
  | notPair _ | unreadableInteger _ | integerTooLong _ | unreadableFloat _ | integerOfNaN => true
  | decimal .nanToInteger | noText _ => true
  | _ => false

end FormError

namespace Datum

/-- ASCII bytes as a text; the others stand in no numeral. -/
def byteText (bytes : Bytes) : String :=
  String.ofList (bytes.map fun b => if b < 128 then Char.ofNat b.toNat else '\ufffd')

/-- The longest part of an unreadable numeral that is shown. -/
def shownLength : Nat := 200

def integerOfText (text shown : String) : Except FormError Int :=
  match Number.readInteger text with
  | .ok n => .ok n
  | .error .notAnInteger =>
      .error (.unreadableInteger (String.ofList (shown.toList.take shownLength)))
  | .error (.tooManyDigits count) => .error (.integerTooLong count)

/-- The integer that a value shows: a number cut toward zero, a truth value, or a numeral. -/
def toInteger : Datum → Except FormError Int
  | int n => .ok n
  | bool b => .ok (if b then 1 else 0)
  | float x =>
      match x.truncate? with
      | some n => .ok n
      | none => .error (if x.isNaN then .integerOfNaN else .integerOfInfinity)
  | text t => integerOfText t (inner (text t))
  | bytes b => integerOfText (byteText b) (inner (bytes b))
  | d => .error (.notInteger d.kindName)

def floatOfText (text shown : String) : Except FormError Binary64 :=
  match Number.readBinary64? text with
  | some x => .ok x
  | none => .error (.unreadableFloat shown)

/-- The double that a value shows. -/
def toFloat : Datum → Except FormError Binary64
  | float x => .ok x
  | bool b => .ok (.ofRatio false (if b then 1 else 0) 1)
  | int n =>
      match Binary64.ofInt? n with
      | some x => .ok x
      | none => .error .floatOverflow
  | text t => floatOfText t (inner (text t))
  | bytes b => floatOfText (byteText b) (inner (bytes b))
  | d => .error (.notFloat d.kindName)

/-- The entries of a value that must be a map. -/
def entries : Datum → Except FormError (List (Datum × Datum))
  | map entries => .ok entries
  | d => .error (.notMap d.kindName)

/-- The value of a key that must be there. -/
def require (entries : List (Datum × Datum)) (key : String) : Except FormError Datum :=
  match lookup? entries key with
  | some value => .ok value
  | none => .error (.missingKey key)

/-- What going through a value meets: the items of a list, the keys of a map, the characters of a
text. -/
def items : Datum → Except FormError (List Datum)
  | list items => .ok items
  | set members => .ok members
  | pair a b => .ok [a, b]
  | map entries => .ok (entries.map Prod.fst)
  | text t => .ok (t.toList.map fun c => text c.toString)
  | bytes b => .ok (b.map fun b => int b.toNat)
  | d => .error (.notIterable d.kindName)

/-- Whether a value can stand in a set. -/
def isHashable : Datum → Bool
  | list _ | set _ | map _ => false
  | pair a b => a.isHashable && b.isHashable
  | _ => true

/-- The key and the value that a value of two items shows. -/
def toEntry (d : Datum) : Except FormError (Datum × Datum) := do
  match ← d.items with
  | [key, value] =>
      if key.isHashable then return (key, value) else throw (.notHashable key.kindName)
  | items => throw (.notPair items.length)

/-- The entries that a value shows: those of a map, or pairs, of which later ones come first. -/
def toEntries : Datum → Except FormError (List (Datum × Datum))
  | map entries => .ok entries
  | d => do return (← (← d.items).mapM toEntry).reverse

end Datum

end BlobInscription
