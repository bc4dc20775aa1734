import BlobInscription.Text.Digit

namespace BlobInscription.CommandLine

/-- A switch, what it stands for, and whether it wants a value. -/
structure Switch (K : Type) where
  key : K
  names : List String
  wantsValue : Bool := false
  deriving Repr

/-- Why arguments are not accepted. -/
inductive UsageError
  | ambiguous (name : String)
  | missingValue (name : String)
  | idleValue (value : String)
  | badNumber (text : String)
  | unknownCommand (name : String)
  | missing (what : String)
  | unrecognized (texts : List String)
  deriving DecidableEq, Repr

def UsageError.message : UsageError → String
  | ambiguous name => s!"ambiguous option: {name}"
  | missingValue name => s!"argument {name}: expected one argument"
  | idleValue value => s!"ignored explicit argument: {value}"
  | badNumber text => s!"invalid integer: {text}"
  | unknownCommand name => s!"unknown command: {name}"
  | missing what => s!"the following argument is required: {what}"
  | unrecognized texts => "unrecognized arguments: " ++ " ".intercalate texts

/-- A value written in one argument with the name of its switch, after an equals sign or right after
a short name. -/
structure Attached where
  afterEquals : Bool
  value : List Char
  deriving DecidableEq, Repr

/-- What an argument is by itself. -/
inductive Mark (K : Type)
  | plain
  /-- The argument after which all are plain. -/
  | terminator
  | switch (switch : Switch K) (name : String) (attached? : Option Attached)
  | unknown
  deriving Repr

/-- What arguments say, one after another. The arguments from the first plain one on may be those of
a command. A mistake ends the reading. -/
inductive Event (K : Type)
  | set (key : K) (value : String)
  | plain (text : String)
  | command (words : List String)
  | unrecognized (text : String)
  | mistake (error : UsageError)
  deriving Repr

/-- Which plain arguments are wanted. -/
inductive Want
  | nothing
  | one
  | command
  deriving DecidableEq, Repr

namespace Switch

variable {K : Type}

/-- All names, each with its switch. -/
def named (switches : List (Switch K)) : List (String × Switch K) :=
  switches.flatMap fun s => s.names.map fun name => (name, s)

/-- The switch of a name. -/
def find? (switches : List (Switch K)) (name : String) : Option (Switch K) :=
  (named switches).lookup name

end Switch

/-- Whether an argument looks like a negative number. -/
def looksNegative (text : List Char) : Bool :=
  let isDigit (c : Char) : Bool := (Text.digitValue? c).isSome
  let text := if text.getLast? = some '\n' then text.dropLast else text
  match text with
  | '-' :: digits =>
      match digits.dropWhile isDigit with
      | [] => !digits.isEmpty
      | '.' :: places => !places.isEmpty && places.all isDigit
      | _ => false
  | _ => false

/-- The text before an equals sign, and after it when it is there. -/
def cutAtEquals (text : List Char) : List Char × Option Attached :=
  match text.dropWhile (· != '=') with
  | [] => (text, none)
  | _ :: value => (text.takeWhile (· != '='), some ⟨true, value⟩)

namespace Mark

variable {K : Type}

/-- How a shortened long name may be meant. -/
def longCandidates (switches : List (Switch K)) (text : List Char) : List (Mark K) :=
  let (start, attached?) := cutAtEquals text
  ((Switch.named switches).filter fun (name, _) => start.isPrefixOf name.toList).map
    fun (name, s) => switch s name attached?

/-- How an argument of one dash may be meant: as a short name with an attached value, or as the
start of a name. -/
def shortCandidates (switches : List (Switch K)) (text : List Char) : List (Mark K) :=
  (Switch.named switches).filterMap fun (name, s) =>
    if name.toList = text.take 2 then some (switch s name (some ⟨false, text.drop 2⟩))
    else if text.isPrefixOf name.toList then some (switch s name none)
    else none

/-- What an argument that is no name of a switch is. -/
def ofOther (switches : List (Switch K)) (text : List Char) : Except UsageError (Mark K) :=
  let candidates :=
    if text.take 2 = ['-', '-'] then longCandidates switches text else shortCandidates switches text
  match candidates with
  | [mark] => .ok mark
  | _ :: _ => .error (.ambiguous (String.ofList text))
  | [] => .ok (if looksNegative text || text.contains ' ' then plain else unknown)

/-- What an argument is. -/
def ofText (switches : List (Switch K)) (text : String) : Except UsageError (Mark K) :=
  match text.toList with
  | [] | ['-'] => .ok plain
  | '-' :: rest =>
      let (start, attached?) := cutAtEquals ('-' :: rest)
      match Switch.find? switches text, attached?, Switch.find? switches (String.ofList start) with
      | some s, _, _ => .ok (switch s text none)
      | none, some attached, some s => .ok (switch s (String.ofList start) (some attached))
      | _, _, _ => ofOther switches ('-' :: rest)
  | _ => .ok plain

/-- What all arguments are. -/
def ofTexts (switches : List (Switch K)) : List String → Except UsageError (List (String × Mark K))
  | [] => .ok []
  | "--" :: rest => .ok (("--", terminator) :: rest.map fun text => (text, plain))
  | text :: rest => do return (text, ← ofText switches text) :: (← ofTexts switches rest)

end Mark

namespace Event

variable {K : Type}

/-- A switch without attached value, and the arguments after it. -/
def alone (s : Switch K) (name : String) (rest : List (String × Mark K)) :
    Event K × List (String × Mark K) :=
  match s.wantsValue, rest with
  | false, rest => (set s.key "", rest)
  | true, (value, .plain) :: rest => (set s.key value, rest)
  | true, rest => (mistake (.missingValue name), rest)

/-- A switch with an attached value. Short names without a value can be bundled; the switch that is
left over has no attached value. -/
def bundled (switches : List (Switch K)) (s : Switch K) (isShort afterEquals : Bool) :
    List Char → Except UsageError (List (Event K) × Option (Switch K))
  | [] => if s.wantsValue then .ok ([set s.key ""], none) else .error (.idleValue "")
  | c :: rest =>
      let value := String.ofList (c :: rest)
      if s.wantsValue then .ok ([set s.key value], none)
      else if !isShort || afterEquals || c = '-' then .error (.idleValue value)
      else
        match Switch.find? switches (String.ofList ['-', c]) with
        | none => .ok ([set s.key "", unrecognized ("-" ++ value)], none)
        | some next =>
            let joined := rest.head? == some '='
            if rest.isEmpty then .ok ([set s.key ""], some next)
            else do
              let (events, last?) ←
                bundled switches next true joined (if joined then rest.tail else rest)
              return (set s.key "" :: events, last?)
  termination_by text => text.length
  decreasing_by
    split
    · exact Nat.lt_of_le_of_lt (by simp) (Nat.lt_succ_self rest.length)
    · exact Nat.lt_succ_self rest.length

/-- A switch as it stands, and the arguments after it. -/
def ofSwitch (switches : List (Switch K)) (s : Switch K) (name : String)
    (attached? : Option Attached) (rest : List (String × Mark K)) :
    List (Event K) × List (String × Mark K) :=
  match attached? with
  | none =>
      let (event, rest) := alone s name rest
      ([event], rest)
  | some attached =>
      let isShort := !("--".toList.isPrefixOf name.toList)
      match bundled switches s isShort attached.afterEquals attached.value with
      | .error error => ([mistake error], rest)
      | .ok (events, none) => (events, rest)
      | .ok (events, some last) =>
          let (event, rest) := alone last name rest
          (events ++ [event], rest)

/-- What marked arguments say. A terminator next to a wanted argument does not count. There are at
most as many steps as arguments. -/
def ofMarks (switches : List (Switch K)) :
    (steps : Nat) → Want → List (String × Mark K) → List (Event K)
  | 0, _, _ => []
  | _ + 1, _, [] => []
  | steps + 1, want, (text, mark) :: rest =>
      match mark, want, rest with
      | .switch s name attached?, _, _ =>
          let (events, rest) := ofSwitch switches s name attached? rest
          events ++ ofMarks switches steps want rest
      | .plain, .command, _ | .terminator, .command, _ :: _ => [command (text :: rest.map Prod.fst)]
      | .plain, .one, (_, .terminator) :: rest | .plain, .one, rest =>
          plain text :: ofMarks switches steps .nothing rest
      | .terminator, .one, (text, _) :: rest => plain text :: ofMarks switches steps .nothing rest
      | _, _, _ => unrecognized text :: ofMarks switches steps want rest

/-- What arguments say. -/
def ofTexts (switches : List (Switch K)) (want : Want) (texts : List String) : List (Event K) :=
  match Mark.ofTexts switches texts with
  | .error error => [mistake error]
  | .ok marks => ofMarks switches marks.length want marks

end Event

end BlobInscription.CommandLine
