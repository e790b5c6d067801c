import Mathlib.Logic.Function.Basic
import Ls8.Proofs.Machine.Decoding
import Ls8.Proofs.Machine.Effect
import Ls8.Proofs.Text.Utf8

/-! # The instruction table

The table gives, for each of the twelve operation bytes, how its operand bytes are read and what the
instruction does, in terms of what every register and every cell holds and of exact integers. It
knows nothing of decoding, of instructions as trees, or of how the state is stored.
`step_follows_table` is the refinement: a step of a running machine does what the table says. -/

namespace Ls8

variable {σ : Type}

/-- A machine as the table sees it: the contents of registers by number and of cells by address. -/
@[ext]
structure View where
  register : UInt8 → UInt8
  cell : UInt8 → UInt8
  counter : UInt8
  flag : Bool
  state : RunState

namespace View

/-- The view after a register has been set. -/
def put (v : View) (number value : UInt8) : View :=
  { v with register := Function.update v.register number value }

/-- The view with a byte in a cell. -/
def store (v : View) (address value : UInt8) : View :=
  { v with cell := Function.update v.cell address value }

/-- The view with its program counter at an address. -/
def goto (v : View) (address : UInt8) : View := { v with counter := address }

/-- The view with another flag. -/
def mark (v : View) (flag : Bool) : View := { v with flag }

/-- The view when the machine has halted. -/
def halt (v : View) : View := { v with state := .halted }

/-- The view with its program counter behind an instruction of a size. -/
def advance (v : View) (size : UInt8) : View := v.goto (v.counter + size)

theorem register_put (v : View) (number value other : UInt8) :
    (v.put number value).register other = if other = number then value else v.register other :=
  Function.update_apply ..

theorem cell_store (v : View) (address value other : UInt8) :
    (v.store address value).cell other = if other = address then value else v.cell other :=
  Function.update_apply ..

end View

/-- What an instruction does: the machine after it, the bytes it prints, and its exact result where
the result is subject to the overflow mode. -/
structure Effect where
  view : View
  prints : List UInt8 := []
  exact : Int := 0

/-- A row of the table. The effect is given the two bytes after the operation. -/
structure Row where
  byte : UInt8
  operands : List OperandKind
  effect : View → UInt8 → UInt8 → Effect

/-- The rows for LDI, PRN, PRA, MUL, ADD, PUSH, POP, CMP, JMP, JEQ, JNE and HLT. -/
def instructionTable : List Row :=
  [ { byte := 0x82
      operands := [.register, .immediate]
      effect := fun v a b => { view := (v.put a b).advance 3 } },
    { byte := 0x47
      operands := [.register]
      effect := fun v a _ =>
        { view := v.advance 2
          prints := Text.Utf8.encode (Nat.repr (v.register a).toNat ++ "\n") } },
    { byte := 0x48
      operands := [.register]
      effect := fun v a _ => { view := v.advance 2, prints := [v.register a, 0x0a] } },
    { byte := 0xa2
      operands := [.register, .register]
      effect := fun v a b =>
        let exact : Int := (v.register a).toNat * (v.register b).toNat
        { view := (v.put a (.ofInt exact)).advance 3, exact } },
    { byte := 0xa0
      operands := [.register, .register]
      effect := fun v a b =>
        let exact : Int := (v.register a).toNat + (v.register b).toNat
        { view := (v.put a (.ofInt exact)).advance 3, exact } },
    { byte := 0x45
      operands := [.register]
      effect := fun v a _ =>
        let exact : Int := (v.register 7).toNat - 1
        { view := ((v.put 7 (.ofInt exact)).store (.ofInt exact) (v.register a)).advance 2
          exact } },
    { byte := 0x46
      operands := [.register]
      effect := fun v a _ =>
        let exact : Int := (v.register 7).toNat + 1
        { view := ((v.put 7 (.ofInt exact)).put a (v.cell (v.register 7))).advance 2, exact } },
    { byte := 0xa7
      operands := [.register, .register]
      effect := fun v a b =>
        { view := (v.mark (v.register a = v.register b)).advance 3 } },
    { byte := 0x54
      operands := [.register]
      effect := fun v a _ => { view := v.goto (v.register a) } },
    { byte := 0x55
      operands := [.register]
      effect := fun v a _ =>
        { view := if v.flag then v.goto (v.register a) else v.advance 2 } },
    { byte := 0x56
      operands := [.register]
      effect := fun v a _ =>
        { view := if v.flag then v.advance 2 else v.goto (v.register a) } },
    { byte := 0x01
      operands := []
      effect := fun v _ _ => { view := v.halt } } ]

private theorem ofInt_toNat_sub_one (x : UInt8) : UInt8.ofInt (x.toNat - 1) = x - 1 := by
  rw [Int.sub_eq_add_neg, UInt8.ofInt_add, ofInt_toNat, UInt8.ofInt_neg_one,
    UInt8.sub_eq_add_neg]

/-- A decimal numeral is ASCII, so its bytes are its characters. -/
theorem encode_repr (b : UInt8) :
    Text.Utf8.encode (Nat.repr b.toNat ++ "\n") = Text.decimalDigits b ++ [10] := by
  have ascii : ∀ c ∈ Nat.toDigits 10 b.toNat,
      String.utf8EncodeChar c = [UInt8.ofNat c.toNat] := by
    intro c member
    have digit : c.isDigit = true := Nat.isDigit_of_mem_toDigits (by decide) (by decide) member
    have last : c.toNat ≤ 57 := (Char.isDigit_iff_toNat.mp digit).2
    exact Text.Utf8.utf8EncodeChar_of_ascii (by omega)
  have digits : (Nat.toDigits 10 b.toNat).flatMap String.utf8EncodeChar =
      (Nat.toDigits 10 b.toNat).map (fun c => UInt8.ofNat c.toNat) := by
    rw [List.map_eq_flatMap, List.flatMap_def, List.flatMap_def, List.map_congr_left ascii]
  rw [Text.Utf8.encode, Text.decimalDigits, String.toList_append, Nat.toList_repr,
    List.flatMap_append, digits]
  rfl

namespace Cpu

/-- What the table sees of a machine; a number that names no register holds zero. -/
def view (c : Cpu) : View :=
  { register := fun number => ((Register.ofByte? number).map c.get).getD 0
    cell := c.memory.read
    counter := c.counter
    flag := c.registers.flag
    state := c.state }

@[simp] theorem register_view (c : Cpu) (r : Register) : c.view.register r.toByte = c.get r := by
  simp [view]

@[simp] theorem register_view_seven (c : Cpu) :
    c.view.register 7 = c.registers.stackPointer :=
  c.register_view 7

@[simp] theorem view_jump (c : Cpu) (address : UInt8) :
    (c.jump address).view = c.view.goto address := rfl

@[simp] theorem view_skip (c : Cpu) (i : Instruction Register) :
    (c.skip i).view = c.view.advance (UInt8.ofNat i.size) := rfl

@[simp] theorem view_mark (c : Cpu) (flag : Bool) : (c.mark flag).view = c.view.mark flag := rfl

@[simp] theorem view_halt (c : Cpu) : c.halt.view = c.view.halt := rfl

@[simp] theorem flag_view (c : Cpu) : c.view.flag = c.registers.flag := rfl

@[simp] theorem cell_view (c : Cpu) (address : UInt8) :
    c.view.cell address = c.memory.read address := rfl

@[simp] theorem view_set (c : Cpu) (r : Register) (value : UInt8) :
    (c.set r value).view = c.view.put r.toByte value := by
  apply View.ext
  case register =>
    funext number
    rw [View.register_put]
    split
    · next same => simp [same, set, get]
    · next different =>
      cases named : Register.ofByte? number with
      | none => simp [view, named]
      | some q =>
        have other : q ≠ r := by
          rintro rfl
          exact different (Register.ofByte?_eq_some_iff.mp named)
        simp [view, named, set, get, Registers.get_set, other]
  all_goals rfl

@[simp] theorem view_point (c : Cpu) (address : UInt8) :
    (c.point address).view = c.view.put 7 address :=
  c.view_set Register.stackPointer address

@[simp] theorem view_store (c : Cpu) (address value : UInt8) :
    (c.store address value).view = c.view.store address value := by
  apply View.ext
  case cell =>
    funext other
    rw [View.cell_store]
    exact Memory.read_write ..
  all_goals rfl

/-- The exact result of the operation that an instruction asks of the overflow mode. -/
def exact (c : Cpu) (i : Instruction Register) : Int :=
  (c.demand? i).elim 0 fun d => d.operation.exact d.left d.right

/-- The rows are those of the operations: one for each, and none for any other byte. -/
theorem find?_instructionTable (ir : UInt8) :
    (instructionTable.find? (·.byte = ir)).map (·.operands) =
      (Opcode.ofByte? ir).map Opcode.operands := by
  cases found : Opcode.ofByte? ir with
  | some op =>
    obtain rfl := Opcode.byte_of_ofByte? found
    cases op <;> rfl
  | none =>
    have named : ∀ row ∈ instructionTable, (Opcode.ofByte? row.byte).isSome := by decide
    have absent : instructionTable.find? (·.byte = ir) = none := by
      refine List.find?_eq_none.mpr fun row member same => ?_
      have some := named row member
      rw [of_decide_eq_true same, found] at some
      contradiction
    rw [absent]
    rfl

/-- Each row is right about the instructions that begin with its byte. -/
theorem effect_of_begins {c : Cpu} {i : Instruction Register} {a b : UInt8} {row : Row}
    (found : instructionTable.find? (·.byte = i.opcode.byte) = some row)
    (begins : i.encode <+: [i.opcode.byte, a, b]) :
    row.effect c.view a b = ⟨(c.after i).view, (c.printed i).flatten, c.exact i⟩ := by
  obtain ⟨rest, bytes⟩ := begins
  cases i
  all_goals
    cases found
    cases bytes
    simp [after, printed, exact, demand?, Operation.exact, RegisterName.toByte,
      Instruction.Operand.byte, Instruction.size, Instruction.opcode, Opcode.size,
      Opcode.operands, ofInt_toNat, ofInt_toNat_sub_one, encode_repr, Bool.beq_eq_decide_eq,
      apply_ite Cpu.view]

/-- What the table says of the next step: the error that stops it, or its effect. -/
def verdict (c : Cpu) : Except CpuError Effect :=
  let ir := c.memory.read c.counter
  let a := c.memory.read (c.counter + 1)
  let b := c.memory.read (c.counter + 2)
  match instructionTable.find? (·.byte = ir) with
  | none => .error (.unknownOpcode c.counter ir)
  | some row =>
    match (registerBytes row.operands [a, b]).find? (7 < ·) with
    | some bad => .error (.invalidRegister c.counter bad)
    | none => .ok (row.effect c.view a b)

/-- The table agrees with fetching, and with the effect of what has been fetched. -/
theorem verdict_eq (c : Cpu) :
    c.verdict =
      match c.fetch with
      | .error e => .error (e.at c.counter)
      | .ok i => .ok ⟨(c.after i).view, (c.printed i).flatten, c.exact i⟩ := by
  have rows := find?_instructionTable (c.memory.read c.counter)
  unfold verdict fetch Memory.readOffset
  generalize c.memory.read (c.counter + 1) = a
  generalize c.memory.read (c.counter + 2) = b
  cases found : Opcode.ofByte? (c.memory.read c.counter) with
  | none =>
    rw [found, Option.map_none, Option.map_eq_none_iff] at rows
    simp only [rows, decode_of_ofByte?_eq_none found, DecodeError.at]
  | some op =>
    rw [found, Option.map_some, Option.map_eq_some_iff] at rows
    obtain ⟨row, present, kinds⟩ := rows
    have decoded := decode_byte op a b
    rw [Opcode.byte_of_ofByte? found] at decoded
    simp only [present, kinds]
    cases bad : (registerBytes op.operands [a, b]).find? (7 < ·) with
    | some byte =>
      rw [bad] at decoded
      simp only [decoded, DecodeError.at]
    | none =>
      rw [bad] at decoded
      obtain ⟨i, same, decoded⟩ := decoded
      have begins := decode_eq_ok_iff.mp decoded
      rw [← Opcode.byte_of_ofByte? found, ← same] at begins present
      simp only [decoded, effect_of_begins present begins]

theorem overflow?_eq_none_iff {c : Cpu} {i : Instruction Register} :
    c.overflow? i = none ↔ ¬(c.mode = .trap ∧ ¬(0 ≤ c.exact i ∧ c.exact i ≤ 255)) := by
  unfold overflow? exact
  cases c.demand? i with
  | none => simp
  | some d => simp [OverflowMode.overflow?, Operation.Fits]

/-- A step of a running machine does what the table says: it fails with the error of the table and
leaves the machine as it was, or it overflows in a mode that does not let it wrap, or it has the
effect of the table as a whole. The effect is counted, unless the counter has no room for it: then
the step panics. -/
theorem step_follows_table {host : Host σ} {out : σ → List UInt8} (accepting : host.Accepting out)
    {c : Cpu} (running : c.state = .running) (s : σ) :
    let ended := c.step host s
    match c.verdict with
    | .error e =>
      ended.result = .error e ∧ ended.cpu = { c with state := .error } ∧ out ended.host = out s
    | .ok effect =>
      if c.mode = .trap ∧ ¬(0 ≤ effect.exact ∧ effect.exact ≤ 255) then
        (∃ reason, ended.result = .error (.overflow c.counter reason)) ∧
          ended.cpu = { c with state := .error } ∧ out ended.host = out s
      else
        ∃ i : Instruction Register,
          i.encode <+: [c.memory.read c.counter, c.memory.read (c.counter + 1),
            c.memory.read (c.counter + 2)] ∧
          ended.cpu.view = effect.view ∧
          ended.cpu.mode = c.mode ∧
          out ended.host = out s ++ effect.prints ∧
          if c.CountedOut then
            ended.result = .panicked ∧ ended.cpu.cycles = c.cycles ∧ ended.cpu.last = c.last
          else
            ended.result = .ok i ∧ ended.cpu.cycles = c.cycles + 1 ∧
              ended.cpu.last = some i := by
  rw [verdict_eq]
  cases fetched : c.fetch with
  | error e =>
    simp only [step_of_running host running, fetched]
    exact ⟨rfl, rfl, accepting.quiet ..⟩
  | ok i =>
    simp only [step_of_fetch accepting running fetched]
    have begins : i.encode <+: _ := decode_eq_ok_iff.mp fetched
    by_cases overflows : c.mode = .trap ∧ ¬(0 ≤ c.exact i ∧ c.exact i ≤ 255)
    · rw [if_pos overflows]
      cases stopped : c.overflow? i with
      | none => exact absurd overflows (overflow?_eq_none_iff.mp stopped)
      | some reason =>
        refine ⟨⟨reason, rfl⟩, rfl, ?_⟩
        simp only [fail, announce, accepting.quiet]
    · rw [if_neg overflows, overflow?_eq_none_iff.mpr overflows]
      have printed : out (host.print (c.announce host s i) (c.printed i)).1 =
          out s ++ (c.printed i).flatten := by
        rw [accepting.out_print, announce, accepting.quiet]
      by_cases full : c.CountedOut
      · rw [if_pos full]
        refine ⟨i, begins, rfl, c.mode_after i, printed, ?_⟩
        rw [if_pos full]
        exact ⟨rfl, c.cycles_after i, c.last_after i⟩
      · rw [if_neg full]
        refine ⟨i, begins, rfl, c.mode_after i, ?_, ?_⟩
        · rw [accepting.out_finish, printed]
        · rw [if_neg full]
          exact ⟨rfl, rfl, rfl⟩

/-- The stack pointer is pushed as it was before it moved. -/
theorem step_pushing_pointer :
    let c : Cpu := { powerOn .trap with memory := Memory.zero.place 0 [0x45, 7] }
    let ended := c.step Host.collector #[]
    c.state = .running ∧ ended.result = .ok (.push 7) ∧
      ended.cpu.view = ((c.view.put 7 0xf3).store 0xf3 0xf4).advance 2 := by
  intro c ended
  have verdict : c.verdict = .ok
      { view := ((c.view.put 7 0xf3).store 0xf3 0xf4).advance 2, exact := 0xf3 } := rfl
  have followed := step_follows_table collector_accepting (c := c) rfl #[]
  rw [verdict] at followed
  obtain ⟨i, begins, view, -, -, result, -, -⟩ := followed
  have push : i = .push 7 := Except.ok.inj ((decode_eq_ok_iff.mpr begins).symm.trans rfl)
  exact ⟨rfl, push ▸ result, view⟩

end Cpu

end Ls8
