import Ls8.Machine.Interchange
import Ls8.Proofs.Machine.Decoding
import Ls8.Proofs.Machine.Snapshot

/-! # Registers in the interchange form

What is written in the interchange form is read back, whatever bytes it has for registers. Decoding is
stricter: an instruction is read back from its encoding exactly when all its registers exist, and
otherwise the first one that does not is reported. So an instruction that comes from JSON need not be
one that the machine can execute. -/

namespace Ls8

open Json (Value)

theorem Register.toByte_le (r : Register) : r.toByte ≤ 7 := by
  rw [UInt8.le_iff_toNat_le, toNat_toByte]
  exact Nat.le_of_lt_succ r.isLt

theorem Register.exists_toByte {b : UInt8} (within : ¬7 < b) : ∃ r : Register, r.toByte = b := by
  obtain ⟨r, decoded⟩ := exists_decodeRegister within
  exact ⟨r, (decodeRegister_eq_ok_iff.mp decoded).symm⟩

/-- A register file has a place for every register, and for no byte beyond them. -/
theorem Registers.general_toByte (rs : Registers) (r : Register) :
    rs.general[r.toByte.toNat]? = some (rs.get r) := by
  rw [Register.toNat_toByte]
  exact Vector.getElem?_eq_getElem r.isLt

theorem Registers.general_of_lt (rs : Registers) {b : UInt8} (beyond : 7 < b) :
    rs.general[b.toNat]? = none :=
  Vector.getElem?_eq_none (UInt8.lt_iff_toNat_lt.mp beyond)

namespace Instruction

variable {ρ κ : Type}

/-- The registers of an instruction in the order of their bytes. -/
def registers (i : Instruction ρ) : List ρ :=
  i.operandList.filterMap fun
    | .register _ reg => some reg
    | .immediate .. => none

/-- The instruction with other names for its registers. -/
def rename (f : ρ → κ) : Instruction ρ → Instruction κ
  | ldi reg value => ldi (f reg) value
  | prn reg => prn (f reg)
  | pra reg => pra (f reg)
  | mul a b => mul (f a) (f b)
  | add a b => add (f a) (f b)
  | push reg => push (f reg)
  | pop reg => pop (f reg)
  | cmp a b => cmp (f a) (f b)
  | jmp reg => jmp (f reg)
  | jeq reg => jeq (f reg)
  | jne reg => jne (f reg)
  | hlt => hlt

theorem rename_rename {μ : Type} (f : ρ → κ) (g : κ → μ) (i : Instruction ρ) :
    (i.rename f).rename g = i.rename (g ∘ f) := by
  cases i <;> rfl

theorem rename_eq_self {f : ρ → ρ} {i : Instruction ρ} (same : ∀ r ∈ i.registers, f r = r) :
    i.rename f = i := by
  cases i <;> simp_all [rename, registers, operandList]

/-- A register and the byte that names it are encoded alike. -/
theorem encode_rename_toByte (i : Instruction Register) :
    (i.rename Register.toByte).encode = i.encode := by
  cases i <;> rfl

/-- An instruction whose registers all exist is one over registers. -/
theorem exists_rename {i : Instruction UInt8} (valid : ∀ b ∈ i.registers, ¬7 < b) :
    ∃ j : Instruction Register, j.rename Register.toByte = i := by
  refine ⟨i.rename fun b => Fin.ofNat 8 b.toNat, ?_⟩
  rw [rename_rename]
  refine rename_eq_self fun b member => ?_
  obtain ⟨r, rfl⟩ := Register.exists_toByte (valid b member)
  have number : Fin.ofNat 8 r.toByte.toNat = r := by
    rw [Register.toNat_toByte]
    exact Fin.ofNat_val_eq_self r
  exact congrArg Register.toByte number

/-! ## Reading what has been written -/

theorem operation_name (op : Opcode) : operation op.name = .ok op := by
  cases op <;> rfl

theorem valueReader_toJson (i : Instruction UInt8) : valueReader i.toJson = .ok i := by
  cases i <;>
    simp [toJson, operandList, opcode, valueReader, ofName, operation_name, ofOperands,
      OperandReaders.ofValue, singleOf, pairOf, Operand.toJson, Operand.byte, RegisterName.toByte,
      Json.fill, Json.require, byte_ofNat]

/-- Operands that are read in a value are read alike in a text. -/
theorem ofOperands_ofText {op : Opcode} {value : Value} {i : Instruction UInt8}
    (read : ofOperands .ofValue op value = .ok i) : ofOperands .ofText op value = .ok i := by
  cases value with
  | object members => exact read
  | _ => cases op <;> first | exact read | contradiction

/-- In a text an instruction is read wherever it is read in a value. -/
theorem reader_of_valueReader {value : Value} {i : Instruction UInt8}
    (read : valueReader value = .ok i) : reader value = .ok i := by
  match value with
  | .string name => exact read
  | .object [(name, operands)] =>
    obtain ⟨op, named, built⟩ := bind_eq_ok_iff.mp read
    rw [reader, named, ok_bind, ofOperands_ofText built]
    rfl
  | .object [] | .object (_ :: _ :: _) | .null | .bool _ | .number _ | .array _ |
    .unrepresentable => contradiction

theorem reader_toJson (i : Instruction UInt8) : reader i.toJson = .ok i :=
  reader_of_valueReader i.valueReader_toJson

theorem isExact_toJson (i : Instruction UInt8) : i.toJson.IsExact := by
  cases i with
  | hlt => trivial
  | ldi | mul | add | cmp => exact ⟨⟨isExact_byte _, isExact_byte _, trivial⟩, trivial⟩
  | _ => exact ⟨⟨isExact_byte _, trivial⟩, trivial⟩

/-- Every instruction over bytes is read from a text. -/
theorem read_compact (i : Instruction UInt8) : Json.read reader i.toJson.compact = .ok i := by
  simp [Json.read, Json.parse?_compact i.isExact_toJson, reader_toJson]

/-! ## Decoding what has been encoded -/

/-- The instruction that a list of bytes begins with; bytes that are missing count as zero. -/
def first (bytes : List UInt8) : Except DecodeError (Instruction Register) :=
  decode (bytes[0]?.getD 0) (bytes[1]?.getD 0) (bytes[2]?.getD 0)

theorem first_encode_append (i : Instruction Register) (rest : List UInt8) :
    first (i.encode ++ rest) = .ok i := decode_encode i rest

/-- The first register that does not exist is reported. -/
theorem first_encode_of_find? {i : Instruction UInt8} {bad : UInt8}
    (found : i.registers.find? (7 < ·) = some bad) (rest : List UInt8) :
    first (i.encode ++ rest) = .error (.invalidRegister bad) := by
  have bytes : registerBytes i.opcode.operands
      [(i.encode ++ rest)[1]?.getD 0, (i.encode ++ rest)[2]?.getD 0] = i.registers := by
    cases i <;> rfl
  have decoded := decode_byte i.opcode ((i.encode ++ rest)[1]?.getD 0) ((i.encode ++ rest)[2]?.getD 0)
  simp only [bytes, found] at decoded
  exact decoded

/-- Every register exists, and an instruction over registers is read back from its encoding whatever
follows it. But JSON gives instructions over all bytes: any byte is read for a register, and so is any
instruction over bytes. Such an instruction is read back from its encoding if all its registers exist;
otherwise the first that does not, which is no place in a register file either, is reported. -/
theorem registers_unchecked_in_json (i : Instruction UInt8) (rest : List UInt8) :
    (∀ r : Register, r.toByte ≤ 7 ∧ ∀ rs : Registers, rs.general[r.toByte.toNat]? = some (rs.get r)) ∧
      (∀ j : Instruction Register, first (j.encode ++ rest) = .ok j) ∧
      (∀ b : UInt8, Json.read Json.byte (Value.ofNat b.toNat).compact = .ok b) ∧
      Json.read reader i.toJson.compact = .ok i ∧
      match i.registers.find? (7 < ·) with
      | none => ∃ j : Instruction Register,
          j.rename Register.toByte = i ∧ first (i.encode ++ rest) = .ok j
      | some bad => first (i.encode ++ rest) = .error (.invalidRegister bad) ∧
          ∀ rs : Registers, rs.general[bad.toNat]? = none := by
  refine ⟨fun r => ⟨r.toByte_le, fun rs => rs.general_toByte r⟩,
    fun j => first_encode_append j rest, fun b => ?_, i.read_compact, ?_⟩
  · simp [Json.read, Json.parse?_compact (isExact_byte b), byte_ofNat]
  · cases found : i.registers.find? (7 < ·) with
    | none =>
      have valid : ∀ b ∈ i.registers, ¬7 < b := by simpa using List.find?_eq_none.mp found
      obtain ⟨j, rfl⟩ := exists_rename valid
      refine ⟨j, rfl, ?_⟩
      rw [encode_rename_toByte]
      exact first_encode_append j rest
    | some bad =>
      have beyond : 7 < bad := by simpa using List.find?_some found
      exact ⟨first_encode_of_find? found rest, fun rs => rs.general_of_lt beyond⟩

/-- There is no register 200, but JSON names it. -/
theorem register_200_from_json :
    let i : Instruction UInt8 := .prn 200
    Json.read reader "\x7b\"Prn\":\x7b\"reg\":200\x7d\x7d" = .ok i ∧ 200 ∈ i.registers ∧
      ¬(200 : UInt8) ≤ 7 ∧ Registers.powerOn.general[(200 : UInt8).toNat]? = none ∧
      i.encode = [0x47, 200] ∧ first (i.encode ++ []) = .error (.invalidRegister 200) := by
  intro i
  have text : i.toJson.compact = "\x7b\"Prn\":\x7b\"reg\":200\x7d\x7d" := by decide
  rw [← text]
  exact ⟨i.read_compact, by decide, by decide, Registers.general_of_lt _ (by decide), rfl, rfl⟩

end Instruction

end Ls8
