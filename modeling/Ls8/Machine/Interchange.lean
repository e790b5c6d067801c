import Ls8.Json.Reader
import Ls8.Machine.Instruction

/-! # Instructions as JSON

The interchange form of an instruction: its name alone, or an object with its name and an object of
its operands. Registers are written as bytes, and reading takes any byte for one, so the readers
give instructions over bytes and not over registers. -/

namespace Ls8.Instruction

open Json (Value Reader Mismatch)

variable {ρ : Type} [RegisterName ρ]

/-- An operand as a member of the operand object. -/
def Operand.toJson (operand : Operand ρ) : String × Value :=
  match operand with
  | .register field _ => (field, .ofNat operand.byte.toNat)
  | .immediate field _ => (field, .ofNat operand.byte.toNat)

/-- The interchange form of an instruction. -/
def toJson (i : Instruction ρ) : Value :=
  match i.operandList with
  | [] => .string i.opcode.name
  | operands => .object [(i.opcode.name, .object (operands.map Operand.toJson))]

/-- Reads the one operand of an operation from the members of an object. -/
def singleOf (field : String) (members : List (String × Value)) : Except Mismatch UInt8 := do
  let found ← members.foldlM (fun slot (name, value) =>
    if name = field then Json.fill name slot Json.byte value else return slot) none
  Json.require field found

/-- Reads the two operands of an operation, which may stand in any order, from the members of an
object. -/
def pairOf (first second : String) (members : List (String × Value)) :
    Except Mismatch (UInt8 × UInt8) := do
  let (a, b) ← members.foldlM (fun (a, b) (name, value) => do
    if name = first then return (← Json.fill name a Json.byte value, b)
    else if name = second then return (a, ← Json.fill name b Json.byte value)
    else return (a, b)) (none, none)
  return (← Json.require first a, ← Json.require second b)

/-- The ways to read the operands of operations that have one and of operations that have two. -/
structure OperandReaders where
  single : Opcode → String → Reader UInt8
  pair : Opcode → String → String → Reader (UInt8 × UInt8)

/-- The operands in a value are an object. -/
def OperandReaders.ofValue : OperandReaders where
  single _ field
    | .object members => singleOf field members
    | value => throw (.invalidType value.kind "struct variant")
  pair _ first second
    | .object members => pairOf first second members
    | value => throw (.invalidType value.kind "struct variant")

/-- The operands in a text are an object or the array of their values in order. -/
def OperandReaders.ofText : OperandReaders where
  single op field
    | .object members => singleOf field members
    | .array items => do
      let reg ← Json.itemAt items 0 Json.byte (shape op ++ " with 1 element")
      Json.noMoreThan 1 items
      return reg
    | value => throw (.invalidType value.kind (shape op))
  pair op first second
    | .object members => pairOf first second members
    | .array items => do
      let a ← Json.itemAt items 0 Json.byte (shape op ++ " with 2 elements")
      let b ← Json.itemAt items 1 Json.byte (shape op ++ " with 2 elements")
      Json.noMoreThan 2 items
      return (a, b)
    | value => throw (.invalidType value.kind (shape op))
where
  shape (op : Opcode) : String := "struct variant Instruction::" ++ op.name

/-- Reads the instruction with an operation from its operands. -/
def ofOperands (readers : OperandReaders) (op : Opcode) (value : Value) :
    Except Mismatch (Instruction UInt8) :=
  let single (build : UInt8 → Instruction UInt8) := build <$> readers.single op "reg" value
  let pair (build : UInt8 → UInt8 → Instruction UInt8) :=
    (fun (a, b) => build a b) <$> readers.pair op "a" "b" value
  match op with
  | .ldi => (fun (reg, byte) => .ldi reg byte) <$> readers.pair op "reg" "imm" value
  | .prn => single .prn
  | .pra => single .pra
  | .mul => pair .mul
  | .add => pair .add
  | .push => single .push
  | .pop => single .pop
  | .cmp => pair .cmp
  | .jmp => single .jmp
  | .jeq => single .jeq
  | .jne => single .jne
  | .hlt =>
    match value with
    | .null => .ok .hlt
    | value => .error (.invalidType value.kind "unit")

/-- The operation with a name. -/
def operation (name : String) : Except Mismatch Opcode :=
  match Opcode.all.find? (·.name == name) with
  | some op => .ok op
  | none => .error (.unknownVariant name (Opcode.all.map Opcode.name))

/-- Reads an instruction from a name alone. -/
def ofName (name : String) : Except Mismatch (Instruction UInt8) := do
  match ← operation name with
  | .hlt => return .hlt
  | _ => throw (.invalidType .nameAlone "struct variant")

/-- Reads an instruction in the interchange form from a value that has been taken from a text
before. -/
def valueReader : Reader (Instruction UInt8)
  | .string name => ofName name
  | .object [(name, value)] => do ofOperands .ofValue (← operation name) value
  | .object _ => throw (.invalidValue .object "map with a single key")
  | value => throw (.invalidType value.kind "string or map")

/-- Reads an instruction in the interchange form from a text. -/
def reader : Reader (Instruction UInt8)
  | .string name => ofName name
  | .object ((name, value) :: others) => do
    let i ← ofOperands .ofText (← operation name) value
    if others.isEmpty then return i else throw .expectedValue
  | _ => throw .expectedValue

end Ls8.Instruction
