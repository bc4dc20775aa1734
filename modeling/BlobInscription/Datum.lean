import BlobInscription.Bytes
import BlobInscription.Number.Binary64

namespace BlobInscription

/-- A moment of a calendar: a day with a time, in microseconds, and perhaps an offset from UTC in
seconds. -/
structure Timestamp where
  year : Nat
  month : Nat
  day : Nat
  hour : Nat
  minute : Nat
  second : Nat
  microsecond : Nat
  offset? : Option Int
  deriving DecidableEq, Repr

inductive Datum
  | null
  | bool (value : Bool)
  | int (value : Int)
  | float (value : Binary64)
  | text (value : String)
  | bytes (value : Bytes)
  | date (year month day : Nat)
  | timestamp (value : Timestamp)
  | list (items : List Datum)
  | pair (first second : Datum)
  | set (members : List Datum)
  /-- Entries in the order in which their keys first appeared. -/
  | map (entries : List (Datum × Datum))
  deriving Repr, Inhabited

namespace Datum

/-- The nesting that is left to readers and writers of values: of a thousand calls in one another,
callers take some. -/
def usualNesting : Nat := 960

mutual

/-- Whether two values are equal. Numbers, truth values among them, are equal when they count the
same. -/
def same : Datum → Datum → Bool
  | null, null => true
  | bool a, bool b => a == b
  | bool a, int b => (if a then 1 else 0) == b
  | int a, bool b => a == (if b then 1 else 0)
  | bool a, float b => Binary64.eq (.ofRatio false (if a then 1 else 0) 1) b
  | float a, bool b => Binary64.eq a (.ofRatio false (if b then 1 else 0) 1)
  | int a, int b => a == b
  | int a, float b => sameIntFloat a b
  | float a, int b => sameIntFloat b a
  | float a, float b => Binary64.eq a b
  | text a, text b => a == b
  | bytes a, bytes b => a == b
  | date y m d, date y' m' d' => y == y' && m == m' && d == d'
  | timestamp a, timestamp b => a == b
  | list a, list b => sameList a b
  | set a, set b => sameList a b
  | pair a b, pair c d => same a c && same b d
  | map a, map b => sameEntries a b
  | _, _ => false

def sameList : List Datum → List Datum → Bool
  | [], [] => true
  | a :: as, b :: bs => same a b && sameList as bs
  | _, _ => false

def sameEntries : List (Datum × Datum) → List (Datum × Datum) → Bool
  | [], [] => true
  | (a, b) :: as, (c, d) :: bs => same a c && same b d && sameEntries as bs
  | _, _ => false

/-- Whether an integer and a double have the same value. -/
def sameIntFloat (n : Int) : Binary64 → Bool
  | .finite negative units => n * Binary64.unitsPerOne == Binary64.signedUnits negative units
  | _ => false

end

/-- Whether a value counts as given: null, false, zero and everything empty do not. -/
def truthy : Datum → Bool
  | null => false
  | bool b => b
  | int n => n != 0
  | float x => !x.isZero
  | text t => !t.isEmpty
  | bytes b => !b.isEmpty
  | list items => !items.isEmpty
  | set members => !members.isEmpty
  | map entries => !entries.isEmpty
  | date .. | timestamp _ | pair .. => true

def isNull : Datum → Bool
  | null => true
  | _ => false

/-- Sets the value of a key, at the place where the key first appeared. -/
def insertEntry (entries : List (Datum × Datum)) (key value : Datum) : List (Datum × Datum) :=
  if entries.any fun (k, _) => k.same key then
    entries.map fun (k, v) => if k.same key then (k, value) else (k, v)
  else entries ++ [(key, value)]

/-- The value of a key among entries. -/
def lookup? (entries : List (Datum × Datum)) (key : String) : Option Datum :=
  (entries.find? fun (k, _) => k.same (text key)).map Prod.snd

/-- The value of a key; null when the key is absent. -/
def lookup (entries : List (Datum × Datum)) (key : String) : Datum :=
  (lookup? entries key).getD null

end Datum

end BlobInscription
