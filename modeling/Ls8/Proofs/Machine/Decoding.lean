import Ls8.Machine.Instruction
import Ls8.Proofs.Basic

/-! # Decoding against encoding

Three bytes decode to the instruction whose encoding they begin with, and to nothing else. They fail
to decode in two ways: the first byte is no operation, or a byte that the operation reads as a
register is above 7, and then the first such byte is reported. Bytes behind the operands of the
operation make no difference. -/

namespace Ls8

theorem decodeRegister_eq_ok_iff {b : UInt8} {r : Register} :
    decodeRegister b = .ok r ↔ b = r.toByte := by
  rw [← Register.ofByte?_eq_some_iff, decodeRegister]
  cases Register.ofByte? b <;> simp

theorem decodeRegister_of_lt {b : UInt8} (beyond : 7 < b) :
    decodeRegister b = .error (.invalidRegister b) := by
  have unnamed : ¬b.toNat < 8 := by
    have bound := UInt8.lt_iff_toNat_lt.mp beyond
    exact Nat.not_lt.mpr bound
  simp [decodeRegister, Register.ofByte?, unnamed]

theorem exists_decodeRegister {b : UInt8} (within : ¬7 < b) : ∃ r, decodeRegister b = .ok r := by
  have named : b.toNat < 8 := by
    have bound := UInt8.le_iff_toNat_le.mp (UInt8.not_lt.mp within)
    exact Nat.lt_succ_of_le bound
  exact ⟨⟨b.toNat, named⟩, by simp [decodeRegister, Register.ofByte?, named]⟩

/-- Three bytes decode to an instruction exactly when they begin with its encoding. -/
theorem decode_eq_ok_iff {ir a b : UInt8} {i : Instruction Register} :
    decode ir a b = .ok i ↔ i.encode <+: [ir, a, b] := by
  constructor
  · intro decoded
    rw [decode] at decoded
    split at decoded
    · contradiction
    · next op found =>
      obtain rfl := Opcode.byte_of_ofByte? found
      cases op <;>
        simp only [bind_eq_ok_iff, decodeRegister_eq_ok_iff, pure_eq_ok,
          Except.ok.injEq] at decoded
      case hlt =>
        subst decoded
        exact ⟨_, rfl⟩
      case mul | add | cmp =>
        obtain ⟨r, rfl, q, rfl, rfl⟩ := decoded
        exact ⟨_, rfl⟩
      all_goals
        obtain ⟨r, rfl, rfl⟩ := decoded
        exact ⟨_, rfl⟩
  · intro begins
    obtain ⟨rest, bytes⟩ := begins
    have decoded := decode_encode i rest
    have first : i.opcode.byte = ir := (List.cons.inj bytes).1
    rw [bytes, first] at decoded
    exact decoded

/-- The operand bytes that are read as registers, in order. -/
def registerBytes (kinds : List OperandKind) (bytes : List UInt8) : List UInt8 :=
  ((kinds.zip bytes).filter (·.1 = .register)).map (·.2)

theorem decode_of_ofByte?_eq_none {ir : UInt8} (unknown : Opcode.ofByte? ir = none)
    (a b : UInt8) : decode ir a b = .error (.unknownOpcode ir) := by
  simp [decode, unknown]

/-- An operation decodes unless a register operand is above 7; the first such operand is the one
that is reported. -/
theorem decode_byte (op : Opcode) (a b : UInt8) :
    match (registerBytes op.operands [a, b]).find? (7 < ·) with
    | some bad => decode op.byte a b = .error (.invalidRegister bad)
    | none => ∃ i : Instruction Register, i.opcode = op ∧ decode op.byte a b = .ok i := by
  by_cases beyondA : 7 < a
  · have failed := decodeRegister_of_lt beyondA
    cases op
    case hlt => exact ⟨.hlt, rfl, rfl⟩
    all_goals simp [registerBytes, Opcode.operands, decode, beyondA, failed]
  · obtain ⟨r, first⟩ := exists_decodeRegister beyondA
    by_cases beyondB : 7 < b
    · have failed := decodeRegister_of_lt beyondB
      cases op <;>
        simp [registerBytes, Opcode.operands, Instruction.opcode, decode, beyondA, beyondB,
          first, failed]
    · obtain ⟨q, second⟩ := exists_decodeRegister beyondB
      cases op <;>
        simp [registerBytes, Opcode.operands, Instruction.opcode, decode, beyondA, beyondB,
          first, second]

/-! ## Bytes that matter -/

/-- The number of bytes that decoding looks at, which the first of them decides. -/
def usedBytes (ir : UInt8) : Nat := ((Opcode.ofByte? ir).map Opcode.size).getD 1

theorem usedBytes_byte (op : Opcode) : usedBytes op.byte = op.size := by
  rw [usedBytes, Opcode.ofByte?_byte]
  rfl

theorem usedBytes_pos (ir : UInt8) : 0 < usedBytes ir := by
  rw [usedBytes]
  cases Opcode.ofByte? ir with
  | none => exact Nat.one_pos
  | some op => exact Nat.succ_pos _

/-- Bytes that are not used make no difference. -/
theorem decode_congr {ir a b c d : UInt8} (first : 1 < usedBytes ir → a = c)
    (second : 2 < usedBytes ir → b = d) : decode ir a b = decode ir c d := by
  cases found : Opcode.ofByte? ir with
  | none => rw [decode_of_ofByte?_eq_none found, decode_of_ofByte?_eq_none found]
  | some op =>
    obtain rfl := Opcode.byte_of_ofByte? found
    rw [usedBytes_byte] at first second
    cases op with
    | hlt => rfl
    | ldi | mul | add | cmp => rw [first (by decide), second (by decide)]
    | _ =>
      rw [first (by decide)]
      rfl

end Ls8
