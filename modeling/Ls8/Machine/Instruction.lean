import Ls8.Machine.Registers

/-! # Instructions

The twelve operations of the machine, the table of their properties, and instructions with their
operands. An instruction is a tree over the type of its registers: the machine only ever executes
instructions over `Register`, while the interchange form names registers by any byte. -/

namespace Ls8

/-- How an operand byte is read. -/
inductive OperandKind
  | register
  | immediate
  deriving DecidableEq, Repr

/-- The operations of the machine. -/
inductive Opcode
  | ldi
  | prn
  | pra
  | mul
  | add
  | push
  | pop
  | cmp
  | jmp
  | jeq
  | jne
  | hlt
  deriving DecidableEq, Repr

namespace Opcode

/-- All operations. -/
def all : List Opcode := [ldi, prn, pra, mul, add, push, pop, cmp, jmp, jeq, jne, hlt]

/-- The byte that encodes an operation. -/
def byte : Opcode → UInt8
  | ldi => 0x82
  | prn => 0x47
  | pra => 0x48
  | mul => 0xa2
  | add => 0xa0
  | push => 0x45
  | pop => 0x46
  | cmp => 0xa7
  | jmp => 0x54
  | jeq => 0x55
  | jne => 0x56
  | hlt => 0x01

/-- The word for an operation in assembly. -/
def mnemonic : Opcode → String
  | ldi => "LDI"
  | prn => "PRN"
  | pra => "PRA"
  | mul => "MUL"
  | add => "ADD"
  | push => "PUSH"
  | pop => "POP"
  | cmp => "CMP"
  | jmp => "JMP"
  | jeq => "JEQ"
  | jne => "JNE"
  | hlt => "HLT"

/-- The name of an operation in the interchange form. -/
def name : Opcode → String
  | ldi => "Ldi"
  | prn => "Prn"
  | pra => "Pra"
  | mul => "Mul"
  | add => "Add"
  | push => "Push"
  | pop => "Pop"
  | cmp => "Cmp"
  | jmp => "Jmp"
  | jeq => "Jeq"
  | jne => "Jne"
  | hlt => "Hlt"

/-- The operands of an operation in the order of their bytes. -/
def operands : Opcode → List OperandKind
  | ldi => [.register, .immediate]
  | mul | add | cmp => [.register, .register]
  | prn | pra | push | pop | jmp | jeq | jne => [.register]
  | hlt => []

/-- Whether the operation sets the program counter itself. -/
def setsCounter : Opcode → Bool
  | jmp | jeq | jne => true
  | _ => false

/-- The number of bytes of an instruction with this operation. -/
def size (op : Opcode) : Nat := op.operands.length + 1

/-- The operation that a byte encodes. -/
def ofByte? (b : UInt8) : Option Opcode := all.find? (·.byte == b)

/-- The operation with a mnemonic, in any case of ASCII letters. -/
def ofMnemonic? (word : String) : Option Opcode :=
  all.find? fun op => op.mnemonic.toList == word.toList.map Char.toUpper

@[simp] theorem ofByte?_byte (op : Opcode) : ofByte? op.byte = some op := by
  cases op <;> rfl

theorem byte_of_ofByte? {b : UInt8} {op : Opcode} (h : ofByte? b = some op) : op.byte = b := by
  simpa using List.find?_some h

/-- A byte encodes an operation exactly when it is that operation's byte. -/
theorem ofByte?_eq_some_iff {b : UInt8} {op : Opcode} : ofByte? b = some op ↔ op.byte = b :=
  ⟨byte_of_ofByte?, fun h => h ▸ ofByte?_byte op⟩

end Opcode

/-- An instruction over a type of registers. -/
inductive Instruction (ρ : Type)
  /-- Puts a byte into a register. -/
  | ldi (reg : ρ) (value : UInt8)
  /-- Prints a register as a decimal number on a line. -/
  | prn (reg : ρ)
  /-- Prints a register as one byte on a line. -/
  | pra (reg : ρ)
  /-- Multiplies the first register by the second. -/
  | mul (a b : ρ)
  /-- Adds the second register to the first. -/
  | add (a b : ρ)
  /-- Pushes a register on the stack. -/
  | push (reg : ρ)
  /-- Pops the stack into a register. -/
  | pop (reg : ρ)
  /-- Sets the flag to whether two registers are equal. -/
  | cmp (a b : ρ)
  /-- Continues at the address in a register. -/
  | jmp (reg : ρ)
  /-- Continues at the address in a register if the flag is set. -/
  | jeq (reg : ρ)
  /-- Continues at the address in a register if the flag is not set. -/
  | jne (reg : ρ)
  /-- Halts. -/
  | hlt
  deriving DecidableEq, Repr

/-- A type whose members are named by a byte, as registers are. -/
class RegisterName (ρ : Type) where
  toByte : ρ → UInt8

instance : RegisterName Register := ⟨Register.toByte⟩

instance : RegisterName UInt8 := ⟨id⟩

/-- The name of a register in assembly. -/
def registerText {ρ : Type} [RegisterName ρ] (r : ρ) : String :=
  "R" ++ Text.decimalByte (RegisterName.toByte r)

namespace Instruction

variable {ρ : Type}

/-- The operation of an instruction. -/
def opcode : Instruction ρ → Opcode
  | ldi .. => .ldi
  | prn .. => .prn
  | pra .. => .pra
  | mul .. => .mul
  | add .. => .add
  | push .. => .push
  | pop .. => .pop
  | cmp .. => .cmp
  | jmp .. => .jmp
  | jeq .. => .jeq
  | jne .. => .jne
  | hlt => .hlt

/-- The number of bytes of an instruction. -/
def size (i : Instruction ρ) : Nat := i.opcode.size

/-- An operand with the name that it has in the interchange form. -/
inductive Operand (ρ : Type)
  | register (field : String) (reg : ρ)
  | immediate (field : String) (value : UInt8)

/-- The operands of an instruction in the order of their bytes. -/
def operandList : Instruction ρ → List (Operand ρ)
  | ldi reg value => [.register "reg" reg, .immediate "imm" value]
  | mul a b | add a b | cmp a b => [.register "a" a, .register "b" b]
  | prn reg | pra reg | push reg | pop reg | jmp reg | jeq reg | jne reg => [.register "reg" reg]
  | hlt => []

variable [RegisterName ρ]

/-- The byte of an operand. -/
def Operand.byte : Operand ρ → UInt8
  | .register _ reg => RegisterName.toByte reg
  | .immediate _ value => value

/-- An operand in assembly. -/
def Operand.text : Operand ρ → String
  | .register _ reg => registerText reg
  | .immediate _ value => Text.decimalByte value

/-- An operand with its name. -/
def Operand.labelled : Operand ρ → String
  | .register field reg => field ++ ": " ++ registerText reg
  | .immediate field value => field ++ ": " ++ Text.decimalByte value

/-- An instruction in assembly. -/
def text (i : Instruction ρ) : String :=
  match i.operandList with
  | [] => i.opcode.mnemonic
  | operands => i.opcode.mnemonic ++ " " ++ ",".intercalate (operands.map Operand.text)

/-- An instruction with its operands named. -/
def labelled (i : Instruction ρ) : String :=
  match i.operandList with
  | [] => i.opcode.name
  | operands =>
    i.opcode.name ++ " \x7b " ++ ", ".intercalate (operands.map Operand.labelled) ++ " \x7d"

/-- The bytes of an instruction. -/
def encode (i : Instruction ρ) : List UInt8 := i.opcode.byte :: i.operandList.map Operand.byte

omit [RegisterName ρ] in
theorem length_operandList (i : Instruction ρ) :
    i.operandList.length = i.opcode.operands.length := by
  cases i <;> rfl

@[simp] theorem length_encode (i : Instruction ρ) : i.encode.length = i.size := by
  simp [encode, size, Opcode.size, length_operandList]

end Instruction

/-- Why three bytes are not an instruction. -/
inductive DecodeError
  | unknownOpcode (byte : UInt8)
  | invalidRegister (byte : UInt8)
  deriving DecidableEq, Repr

/-- A decoding error in words. -/
def DecodeError.message : DecodeError → String
  | .unknownOpcode byte => "unknown opcode: 0x" ++ Text.hexByte byte
  | .invalidRegister byte => "invalid register: " ++ Text.decimalByte byte

/-- The register that an operand byte names. -/
def decodeRegister (b : UInt8) : Except DecodeError Register :=
  match Register.ofByte? b with
  | some r => .ok r
  | none => .error (.invalidRegister b)

/-- The instruction in an operation byte and the two bytes after it. Bytes that the operation does
not use are not looked at. -/
def decode (ir a b : UInt8) : Except DecodeError (Instruction Register) :=
  match Opcode.ofByte? ir with
  | none => .error (.unknownOpcode ir)
  | some op => do
    match op with
    | .ldi => return .ldi (← decodeRegister a) b
    | .prn => return .prn (← decodeRegister a)
    | .pra => return .pra (← decodeRegister a)
    | .mul => return .mul (← decodeRegister a) (← decodeRegister b)
    | .add => return .add (← decodeRegister a) (← decodeRegister b)
    | .push => return .push (← decodeRegister a)
    | .pop => return .pop (← decodeRegister a)
    | .cmp => return .cmp (← decodeRegister a) (← decodeRegister b)
    | .jmp => return .jmp (← decodeRegister a)
    | .jeq => return .jeq (← decodeRegister a)
    | .jne => return .jne (← decodeRegister a)
    | .hlt => return .hlt

@[simp] theorem decodeRegister_toByte (r : Register) : decodeRegister r.toByte = .ok r := by
  simp [decodeRegister]

/-- Decoding inverts encoding, whatever follows the instruction. -/
theorem decode_encode (i : Instruction Register) (rest : List UInt8) :
    decode i.opcode.byte ((i.encode ++ rest)[1]?.getD 0) ((i.encode ++ rest)[2]?.getD 0) =
      .ok i := by
  cases i <;>
    simp [decode, Instruction.opcode, Instruction.encode, Instruction.operandList,
      Instruction.Operand.byte, RegisterName.toByte, bind, Except.bind, pure, Except.pure]

end Ls8
