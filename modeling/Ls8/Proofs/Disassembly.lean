import Ls8.Proofs.Assembly.Written
import Ls8.Proofs.Machine.Effect

/-! # The next instruction in words

The text at the program counter is that of the instruction which the machine executes next, and the
machine goes on behind it unless it halts or jumps. The text is data exactly when the machine cannot
decode what it has fetched: an instruction that overflows, or whose output is refused, is shown as an
instruction. Machine and text fetch alike, so all of this holds across the end of memory as well. -/

namespace Ls8

variable {σ : Type}

/-! ## Texts -/

/-- A text in assembly that gives data. -/
def IsData (text : String) : Prop := "DB ".toList <+: text.toList

/-- The hexadecimal digits of a byte, the upper one first. -/
def hexDigits (b : UInt8) : List Char := [(b.toNat / 16).digitChar, (b.toNat % 16).digitChar]

theorem Text.toList_hexByte (b : UInt8) : (Text.hexByte b).toList = hexDigits b := by
  have bound := b.toNat_lt
  have digits : Nat.toDigits 16 b.toNat =
      if b.toNat < 16 then [b.toNat.digitChar] else hexDigits b := by
    rw [Nat.toDigits_eq_if (by decide)]
    split
    · rfl
    · rw [Nat.toDigits_of_lt_base (by omega)]
      rfl
  rw [Text.hexByte, Text.padded, String.toList_ofList, digits]
  split
  · next small =>
    rw [hexDigits, Nat.div_eq_of_lt small, Nat.mod_eq_of_lt small]
    rfl
  · rfl

theorem toList_dataText_hexDigits (b : UInt8) : (dataText b).toList = "DB 0x".toList ++ hexDigits b := by
  rw [dataText, String.toList_append, Text.toList_hexByte]

/-- No instruction is shown as data. -/
theorem not_isData_text (i : Instruction Register) : ¬IsData i.text := by
  intro data
  obtain ⟨rest, whole⟩ := data
  have first : i.text.toList.head? = i.opcode.mnemonic.toList.head? := by
    rw [Assembly.toList_text, Assembly.head?_spell (Assembly.isWord_mnemonic i.opcode)]
  have other : ∀ op : Opcode, op.mnemonic.toList.head? ≠ some 'D' := by
    intro op
    cases op <;> decide
  rw [← whole] at first
  exact other i.opcode first.symm

namespace Cpu

/-! ## Places -/

/-- Whether an instruction makes the machine go on at the address in its register. -/
def jumps (c : Cpu) : Instruction Register → Bool
  | .jmp _ => true
  | .jeq _ => c.registers.flag
  | .jne _ => !c.registers.flag
  | _ => false

/-- The text at the program counter shows what the machine fetches. -/
theorem disassemble_counter (c : Cpu) :
    c.memory.disassemble c.counter =
      match c.fetch with
      | .ok i => (i.text, i.size)
      | .error _ => (dataText (c.memory.read c.counter), 1) := rfl

/-- An instruction that neither halts nor jumps is stepped over. -/
theorem counter_after {c : Cpu} {i : Instruction Register} (goes : i ≠ .hlt)
    (straight : c.jumps i = false) : (c.after i).counter = c.counter + UInt8.ofNat i.size := by
  cases i with
  | hlt => contradiction
  | jmp r => contradiction
  | jeq r =>
    have unset : ¬c.registers.flag = true := Bool.eq_false_iff.mp straight
    rw [after, if_neg unset]
    rfl
  | jne r =>
    have set : c.registers.flag = true := (Bool.not_eq_false' _).mp straight
    rw [after, if_pos set]
    rfl
  | _ => rfl

/-- The text at the program counter of a running machine shows what its next step does. An instruction
that the step executes has this text, and unless it halts or jumps the machine goes on behind it. If
the step cannot decode what it has fetched, the text is the byte at the program counter as data; if
it overflows, or its output is refused, or it panics, the text is no data. So the text is data only if
the step cannot decode. -/
theorem disassemble_shows_step (host : Host σ) {c : Cpu} (running : c.state = .running) (s : σ) :
    let text := (c.memory.disassemble c.counter).1
    let size := (c.memory.disassemble c.counter).2
    let ended := c.step host s
    (match ended.result with
      | .ok i =>
        i.text = text ∧
          (i ≠ .hlt → c.jumps i = false → ended.cpu.counter = c.counter + UInt8.ofNat size)
      | .error (.unknownOpcode ..) | .error (.invalidRegister ..) =>
        text.toList = "DB 0x".toList ++ hexDigits (c.memory.read c.counter) ∧ size = 1
      | .error (.overflow ..) | .error (.output _) | .panicked => ¬IsData text
      | .error (.notRunning _) => False) ∧
    (IsData text → ∃ byte, ended.result = .error (.unknownOpcode c.counter byte) ∨
      ended.result = .error (.invalidRegister c.counter byte)) := by
  intro text size ended
  have shown : (text, size) = _ := c.disassemble_counter
  have passage : c.Passage host s ended := c.step_passage host running s
  generalize ended = ended at passage ⊢
  cases passage with
  | undecoded e fetched =>
    rw [fetched] at shown
    obtain ⟨data, one⟩ := Prod.mk.inj shown
    rw [data, one]
    have digits := toList_dataText_hexDigits (c.memory.read c.counter)
    cases e with
    | unknownOpcode byte => exact ⟨⟨digits, rfl⟩, fun _ => ⟨byte, .inl rfl⟩⟩
    | invalidRegister byte => exact ⟨⟨digits, rfl⟩, fun _ => ⟨byte, .inr rfl⟩⟩
  | overflowing i reason fetched stopped =>
    rw [fetched] at shown
    obtain ⟨words, -⟩ := Prod.mk.inj shown
    rw [words]
    exact ⟨not_isData_text i, fun data => absurd data (not_isData_text i)⟩
  | refused i t reason fetched fits printed =>
    rw [fetched] at shown
    obtain ⟨words, -⟩ := Prod.mk.inj shown
    rw [words]
    exact ⟨not_isData_text i, fun data => absurd data (not_isData_text i)⟩
  | uncounted i t fetched fits printed =>
    rw [fetched] at shown
    obtain ⟨words, -⟩ := Prod.mk.inj shown
    rw [words]
    exact ⟨not_isData_text i, fun data => absurd data (not_isData_text i)⟩
  | finished i t fetched fits printed =>
    rw [fetched] at shown
    obtain ⟨words, bytes⟩ := Prod.mk.inj shown
    rw [words, bytes]
    exact ⟨⟨rfl, counter_after⟩, fun data => absurd data (not_isData_text i)⟩

/-- A jump at the end of memory, with its operand at the beginning, that is not taken; and an
operation whose register there is not. -/
theorem disassemble_shows_wrapped_jump :
    let jump : Cpu :=
      { powerOn .wrap with
        memory := (Memory.zero.write 255 0x55).write 0 3
        registers := Registers.powerOn.jump 255 }
    let print : Cpu := { powerOn .trap with memory := (Memory.zero.write 0 0x47).write 1 9 }
    (jump.state = .running ∧ (jump.step Host.collector #[]).result = .ok (.jeq 3) ∧
        (jump.memory.disassemble 255).1 = "JEQ R3" ∧
        (jump.step Host.collector #[]).cpu.counter = 1) ∧
      print.state = .running ∧
        (print.step Host.collector #[]).result = .error (.invalidRegister 0 9) ∧
        (print.memory.disassemble 0).1 = "DB 0x47" := by
  intro jump print
  have result : (jump.step Host.collector #[]).result = .ok (.jeq 3) := by decide
  have error : (print.step Host.collector #[]).result = .error (.invalidRegister 0 9) := by decide
  obtain ⟨executed, -⟩ := disassemble_shows_step Host.collector (c := jump) rfl #[]
  obtain ⟨undecoded, -⟩ := disassemble_shows_step Host.collector (c := print) rfl #[]
  simp only [result] at executed
  simp only [error] at undecoded
  have two : (jump.memory.disassemble jump.counter).2 = 2 := by decide
  have next : (jump.step Host.collector #[]).cpu.counter = jump.counter + UInt8.ofNat 2 := by
    rw [← two]
    exact executed.2 (by decide) rfl
  have digits : "DB 0x".toList ++ hexDigits (print.memory.read print.counter) =
      "DB 0x47".toList := by decide
  refine ⟨⟨rfl, result, executed.1.symm, next.trans (by decide)⟩, rfl, error, ?_⟩
  exact String.toList_inj.mp (undecoded.1.trans digits)

end Cpu

end Ls8
