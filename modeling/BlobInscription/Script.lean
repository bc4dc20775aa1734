import BlobInscription.Bytes

/-!
Bitcoin scripts as far as inscription envelopes need them: the instruction stream of a script, the
shortest push of a byte string, and the leaf script of a Taproot witness. No script is executed.
-/

namespace BlobInscription

abbrev Opcode := UInt8

namespace Opcode

def pushData1 : Opcode := 0x4c
def pushData2 : Opcode := 0x4d
def pushData4 : Opcode := 0x4e
def one : Opcode := 0x51
def ifOp : Opcode := 0x63
def endIf : Opcode := 0x68
def checkSig : Opcode := 0xac

end Opcode

namespace Script

/-- The largest byte string that one push may carry. -/
def maxElementSize : Nat := 520

/-- The first byte of a witness annex. -/
def annexTag : UInt8 := 0x50

inductive Instruction
  /-- A push of `data`; the empty push has opcode zero or a length of zero. -/
  | push (opcode : Opcode) (data : Bytes)
  /-- An opcode that pushes no bytes of the script. -/
  | op (opcode : Opcode)
  /-- A push whose length field or data runs past the end of the script. -/
  | truncated (opcode : Opcode)
  deriving DecidableEq, Repr

namespace Instruction

def opcode : Instruction → Opcode
  | push c _ => c
  | op c => c
  | truncated c => c

def pushed? : Instruction → Option Bytes
  | push _ data => some data
  | _ => none

def isOp (i : Instruction) (c : Opcode) : Bool :=
  match i with
  | op d => d == c
  | _ => false

end Instruction

/-- How many bytes after the opcode hold the length of its push; nothing for an opcode that is no
push. Direct pushes are their own length. -/
def lengthWidth? (c : Opcode) : Option Nat :=
  if c < Opcode.pushData1 then some 0
  else if c = Opcode.pushData1 then some 1
  else if c = Opcode.pushData2 then some 2
  else if c = Opcode.pushData4 then some 4
  else none

/-- Takes `size` bytes of data. Nothing is left after a truncated push. -/
def takePush (c : Opcode) (size : Nat) (rest : Bytes) : Instruction × Bytes :=
  let data := rest.take size
  if data.length < size then (.truncated c, []) else (.push c data, rest.drop size)

/-- The instruction that starts with opcode `c`, and the script after it. -/
def next (c : Opcode) (rest : Bytes) : Instruction × Bytes :=
  match lengthWidth? c with
  | none => (.op c, rest)
  | some 0 => takePush c c.toNat rest
  | some width =>
      let field := rest.take width
      if field.length < width then (.truncated c, [])
      else takePush c (Bytes.toNatLE field) (rest.drop width)

theorem length_takePush_le (c : Opcode) (size : Nat) (rest : Bytes) :
    (takePush c size rest).2.length ≤ rest.length := by
  simp only [takePush]
  split <;> simp

theorem length_next_le (c : Opcode) (rest : Bytes) : (next c rest).2.length ≤ rest.length := by
  simp only [next]
  split
  · simp
  · exact length_takePush_le c c.toNat rest
  · split
    · simp
    · exact Nat.le_trans (length_takePush_le _ _ _) (by simp)

/-- The instructions of a script from left to right. -/
def instructions : Bytes → List Instruction
  | [] => []
  | c :: rest => (next c rest).1 :: instructions (next c rest).2
termination_by script => script.length
decreasing_by
  have := length_next_le c rest
  simp only [List.length_cons]
  omega

inductive AssemblyError
  /-- A push payload of more than `maxElementSize` bytes. -/
  | oversizedElement (length : Nat)
  /-- An opcode that is no byte. -/
  | opcodeOutOfRange (opcode : Int)
  deriving DecidableEq, Repr

def AssemblyError.message : AssemblyError → String
  | oversizedElement length =>
      s!"Script element of {length} bytes exceeds the {maxElementSize}-byte limit"
  | opcodeOutOfRange _ => "bytes must be in range(0, 256)"

/-- The shortest push of a byte string. -/
def push (data : Bytes) : Except AssemblyError Bytes :=
  let length := data.length
  if maxElementSize < length then .error (.oversizedElement length)
  else if length = 0 then .ok [0]
  else if length < 0x4c then .ok (UInt8.ofNat length :: data)
  else if length ≤ 0xff then .ok (Opcode.pushData1 :: UInt8.ofNat length :: data)
  else .ok (Opcode.pushData2 :: Bytes.ofNatLE 2 length ++ data)

/-- One item of a script to assemble. -/
inductive Item
  | opcode (code : Int)
  | data (bytes : Bytes)
  deriving DecidableEq, Repr

def Item.assemble : Item → Except AssemblyError Bytes
  | opcode code =>
      if 0 ≤ code ∧ code < 256 then .ok [UInt8.ofNat code.toNat]
      else .error (.opcodeOutOfRange code)
  | data bytes => push bytes

/-- The script made of the items in order. -/
def assemble (items : List Item) : Except AssemblyError Bytes :=
  (items.mapM Item.assemble).map List.flatten

/-- The witness without its annex: a last element, of two or more, that starts with the annex
tag. -/
def withoutAnnex (witness : List Bytes) : List Bytes :=
  match witness.reverse with
  | (tag :: _) :: below :: rest =>
      if tag = annexTag then (below :: rest).reverse else witness
  | _ => witness

/-- The leaf script of a Taproot script-path witness, which lies just below the control block. -/
def ofWitness? (witness : List Bytes) : Option Bytes :=
  match (withoutAnnex witness).reverse with
  | _ :: leaf :: _ => some leaf
  | _ => none

end Script

end BlobInscription
