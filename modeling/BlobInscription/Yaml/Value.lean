import BlobInscription.Yaml.Node
import BlobInscription.Yaml.Scalar.Value

namespace BlobInscription.Yaml

/-- Values are made level by level, so that an error comes up with its level in the tree. -/
abbrev Leveled (α : Type) := Except (Nat × Error) α

namespace Leveled

variable {α β γ : Type}

def here (x : Except Error α) : Leveled α :=
  x.mapError fun error => (0, error)

def fail (error : Error) : Leveled α :=
  .error (0, error)

/-- What stands one level deeper. -/
def below (x : Leveled α) : Leveled α :=
  x.mapError fun (level, error) => (level + 1, error)

/-- Of two errors the one of the upper level comes up, and of one level the first. -/
def both (f : α → β → γ) : Leveled α → Leveled β → Leveled γ
  | .ok a, .ok b => .ok (f a b)
  | .ok _, .error e | .error e, .ok _ => .error e
  | .error e, .error e' => .error (if e'.1 < e.1 then e' else e)

end Leveled

open Leveled

namespace Node

/-- The name of a standard tag. -/
def standardName? (tag : String) : Option String :=
  if tag.startsWith standardStart then
    some (String.ofList (tag.toList.drop standardStart.length))
  else none

/-- What a tag asks for. -/
inductive Kind
  | scalar (form : Form)
  | binary
  | list
  | pairs
  | map
  | set
  | unknown

def kindOfName : (name : String) → Kind
  | "binary" => .binary
  | "seq" => .list
  | "omap" | "pairs" => .pairs
  | "map" => .map
  | "set" => .set
  | name => (Scalar.formOfTag? name).elim .unknown .scalar

def kindOf (tag : String) : Kind :=
  (standardName? tag).elim .unknown kindOfName

/-- The form that a node has as a key. -/
def keyForm? : Node → Option Form
  | scalar none text => some (Form.of text)
  | scalar (some tag) _ | sequence (some tag) _ | mapping (some tag) _ =>
      if standardName? tag == some "merge" then some .merge
      else if standardName? tag == some "value" then some .value
      else none
  | _ => none

/-- The value of a text whose tag asks for a scalar. -/
def scalarValue (kind : Kind) (text : String) : Except Error Datum :=
  match kind with
  | .scalar form => Scalar.valueIn form text
  | .binary => (Scalar.binary text).map .bytes
  | _ => .error .malformed

/-- The value of a scalar with a tag. One that asks for a collection is found malformed only when
that is filled. -/
def taggedScalar (tag text : String) : Leveled Datum :=
  match kindOf tag with
  | .list | .pairs | .map | .set => below (fail .malformed)
  | kind => here (scalarValue kind text)

/-- The map of entries, of which later ones count. -/
def mapOf (entries : List (Datum × Datum)) : List (Datum × Datum) :=
  entries.foldl (fun entries (key, value) => Datum.insertEntry entries key value) []

/-- A key. Lists, sets and maps are none, whatever they hold. -/
def asKey (key : Leveled Datum) : Leveled Datum :=
  match key with
  | .ok d => if d.isHashable then .ok d else fail .malformed
  | .error (0, error) => .error (0, error)
  | .error (_ + 1, _) => fail .malformed

mutual

/-- The text of a node whose tag asks for a scalar: of a mapping it is that of its value key. -/
def scalarText : Node → (nesting : Nat) → Except Error String
  | scalar _ text, _ => .ok text
  | mapping .., 0 => .error .tooDeep
  | mapping _ entries, nesting + 1 => valueText entries nesting
  | sequence .., _ => .error .malformed
  | enclosing, _ => .error .endless

def valueText : List (Node × Node) → (nesting : Nat) → Except Error String
  | [], _ => .error .malformed
  | (key, node) :: rest, nesting =>
      if key.keyForm? == some .value then scalarText node nesting else valueText rest nesting

end

mutual

/-- Checks that mappings take entries over from mappings only. -/
def checkMerges : List (Node × Node) → (nesting : Nat) → Except Error Unit
  | [], _ => .ok ()
  | (key, node) :: rest, nesting => do
      if key.keyForm? == some .merge then checkMerged node nesting
      checkMerges rest nesting

/-- Checks what stands beside a merging key: a mapping, or a sequence of them. -/
def checkMerged : Node → (nesting : Nat) → Except Error Unit
  | mapping .., 0 => .error .tooDeep
  | mapping _ entries, nesting + 1 => checkMerges entries nesting
  | sequence _ items, nesting => checkAllMerged items nesting
  | enclosing, _ => .error .endless
  | scalar .., _ => .error .malformed

def checkAllMerged : List Node → (nesting : Nat) → Except Error Unit
  | [], _ => .ok ()
  | mapping .. :: _, 0 => .error .tooDeep
  | mapping _ entries :: rest, nesting + 1 => do
      checkMerges entries nesting
      checkAllMerged rest (nesting + 1)
  | enclosing :: _, _ => .error .endless
  | _ :: _, _ => .error .malformed

end

mutual

/-- The value of a node. -/
def value : Node → (nesting : Nat) → Leveled Datum
  | enclosing, _ => fail .endless
  | scalar none text, _ => here (Scalar.valueIn (Form.of text) text)
  | scalar (some tag) text, _ => taggedScalar tag text
  | sequence tag? items, nesting =>
      match tag?.elim .list kindOf with
      | .list => below ((values items nesting).map .list)
      | .pairs => below ((singles items nesting).map .list)
      | .map | .set => below (fail .malformed)
      | _ => fail .malformed
  | mapping tag? entries, nesting =>
      let filled := match checkMerges entries nesting with
        | .error error => fail error
        | .ok () =>
            let (taken, own) := entriesOf entries nesting
            both (fun taken own => mapOf (taken ++ own)) taken own
      match tag?.elim .map kindOf with
      | .map => below (filled.map .map)
      | .set => below (filled.map fun entries => .set (entries.map Prod.fst))
      | .list | .pairs => below (fail .malformed)
      | kind => here (do scalarValue kind (← valueText entries nesting))

def values : List Node → (nesting : Nat) → Leveled (List Datum)
  | [], _ => .ok []
  | node :: rest, nesting => both List.cons (value node nesting) (values rest nesting)

/-- Mappings of one entry each, as pairs. -/
def singles : List Node → (nesting : Nat) → Leveled (List Datum)
  | [], _ => .ok []
  | mapping _ [(key, item)] :: rest, nesting =>
      both List.cons (both .pair (value key nesting) (value item nesting)) (singles rest nesting)
  | enclosing :: _, _ => fail .endless
  | _ :: _, _ => fail .malformed

/-- The entries that are taken over, and those of the mapping itself. -/
def entriesOf : List (Node × Node) → (nesting : Nat) →
    Leveled (List (Datum × Datum)) × Leveled (List (Datum × Datum))
  | [], _ => (.ok [], .ok [])
  | (key, node) :: rest, nesting =>
      let (taken, own) := entriesOf rest nesting
      match key.keyForm? with
      | some .merge => (both List.append (mergedFrom node nesting) taken, own)
      | form? =>
          let name := match form?, key with
            | some .value, scalar _ text => .ok (.text text)
            | some .value, _ => fail .malformed
            | _, key => asKey (value key nesting)
          (taken, both List.cons (both Prod.mk name (value node nesting)) own)

/-- The entries that are taken over from a mapping, or from several, of which the first counts. -/
def mergedFrom : Node → (nesting : Nat) → Leveled (List (Datum × Datum))
  | mapping _ entries, nesting =>
      let (taken, own) := entriesOf entries nesting
      both List.append taken own
  | sequence _ items, nesting => mergedFromAll items nesting
  | _, _ => fail .malformed

def mergedFromAll : List Node → (nesting : Nat) → Leveled (List (Datum × Datum))
  | [], _ => .ok []
  | mapping _ entries :: rest, nesting =>
      let (taken, own) := entriesOf entries nesting
      both List.append (mergedFromAll rest nesting) (both List.append taken own)
  | _ :: _, _ => fail .malformed

end

end Node

/-- The value of a text; an empty one is null. -/
def read (text : String) (nesting : Nat) : Except Error Datum := do
  match ← document text nesting with
  | some node => (node.value nesting).mapError Prod.snd
  | none => return .null

end BlobInscription.Yaml
