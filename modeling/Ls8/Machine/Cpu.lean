import Ls8.Machine.Arithmetic
import Ls8.Machine.Instruction
import Ls8.Machine.Memory

/-! # The machine

The state of a machine, the images that are loaded into it, and its stack. What can fail is a
computation on the state, `EStateM`, whose errors come with the state as it is by then: that a call
which fails has changed nothing is not built in, but follows from the order in which it checks and
writes. -/

namespace Ls8

/-- Whether a machine goes on. -/
inductive RunState
  | running
  | halted
  /-- Stopped by an error. -/
  | error
  deriving DecidableEq, Repr

/-- The name of a run state. -/
def RunState.name : RunState → String
  | .running => "Running"
  | .halted => "Halted"
  | .error => "Error"

/-- A machine: registers, memory, whether it goes on, the number of instructions executed, the
overflow mode, and the last instruction executed. -/
structure Cpu where
  registers : Registers
  memory : Memory
  state : RunState
  cycles : UInt64
  mode : OverflowMode
  last : Option (Instruction Register)
  deriving DecidableEq

/-- Why a machine could not execute an instruction. -/
inductive CpuError
  | notRunning (state : RunState)
  | unknownOpcode (counter byte : UInt8)
  | invalidRegister (counter byte : UInt8)
  | overflow (counter : UInt8) (reason : Overflow)
  | output (reason : String)
  deriving DecidableEq, Repr

/-- An error in words. -/
def CpuError.message : CpuError → String
  | .notRunning state => "CPU not running: " ++ state.name
  | .unknownOpcode counter byte =>
    "PC " ++ Text.hexByte counter ++ ": unknown instruction " ++ Text.hexByte byte
  | .invalidRegister counter byte =>
    "PC " ++ Text.hexByte counter ++ ": invalid register " ++ Text.decimalByte byte
  | .overflow counter reason => "PC " ++ Text.hexByte counter ++ ": " ++ reason.message
  | .output reason => "output error: " ++ reason

/-- A decoding error of the instruction at an address. -/
def DecodeError.at (counter : UInt8) : DecodeError → CpuError
  | .unknownOpcode byte => .unknownOpcode counter byte
  | .invalidRegister byte => .invalidRegister counter byte

open EStateM (run_bind run_get)

/-- What is done to a part of a state, as something done to the whole. -/
def focus {σ τ ε α : Type} (part : σ → τ) (put : σ → τ → σ) (x : EStateM ε τ α) :
    EStateM ε σ α := fun s =>
  match x.run (part s) with
  | .ok a next => .ok a (put s next)
  | .error e next => .error e (put s next)

theorem run_focus {σ τ ε α : Type} (part : σ → τ) (put : σ → τ → σ) (x : EStateM ε τ α) (s : σ) :
    (focus part put x).run s =
      match x.run (part s) with
      | .ok a next => .ok a (put s next)
      | .error e next => .error e (put s next) := rfl

namespace Registers

/-- Register arithmetic: `dest := dest op src`. -/
def combine (mode : OverflowMode) (op : Operation) (dest src : Register) :
    EStateM Overflow Registers Unit := do
  let rs ← MonadState.get
  let value ← ofExcept (mode.apply op (rs.get dest) (rs.get src))
  modify (·.set dest value)

theorem run_combine (rs : Registers) (mode : OverflowMode) (op : Operation) (dest src : Register) :
    (combine mode op dest src).run rs =
      match mode.apply op (rs.get dest) (rs.get src) with
      | .ok value => .ok () (rs.set dest value)
      | .error reason => .error reason rs := by
  simp only [combine, run_bind, run_get]
  cases mode.apply op (rs.get dest) (rs.get src) <;> rfl

end Registers

namespace Cpu

/-- A machine that has been switched on, with an overflow mode. -/
def powerOn (mode : OverflowMode) : Cpu :=
  { registers := .powerOn, memory := .zero, state := .running, cycles := 0, mode, last := none }

instance : Inhabited Cpu := ⟨powerOn .wrap⟩

/-- The machine switched off and on again; the overflow mode stays. -/
def reset (c : Cpu) : Cpu :=
  { c with registers := .powerOn, memory := .zero, state := .running, cycles := 0, last := none }

/-- Loads an image at an address, if it fits. -/
def loadAt (base : UInt8) (image : List UInt8) : EStateM LoadError Cpu Unit :=
  focus memory (fun c memory => { c with memory }) (Memory.load base image)

/-- Loads an image at address 0, if it fits. -/
def load (image : List UInt8) : EStateM LoadError Cpu Unit := loadAt 0 image

theorem run_loadAt (c : Cpu) (base : UInt8) (image : List UInt8) :
    (loadAt base image).run c =
      if base.toNat + image.length ≤ memorySize then
        .ok () { c with memory := c.memory.place base image }
      else .error ⟨image.length, memorySize - base.toNat⟩ c := by
  rw [loadAt, run_focus, Memory.run_load]
  by_cases fits : base.toNat + image.length ≤ memorySize
  · simp only [if_pos fits]
  · simp only [if_neg fits]

/-- The program counter. -/
def counter (c : Cpu) : UInt8 := c.registers.counter

/-- The content of a register. -/
def get (c : Cpu) (r : Register) : UInt8 := c.registers.get r

/-- The machine after a register has been set. -/
def set (c : Cpu) (r : Register) (value : UInt8) : Cpu :=
  { c with registers := c.registers.set r value }

/-- The machine with its stack pointer at an address. -/
def point (c : Cpu) (address : UInt8) : Cpu :=
  { c with registers := c.registers.setStackPointer address }

/-- The machine with a byte in a cell. -/
def store (c : Cpu) (address value : UInt8) : Cpu :=
  { c with memory := c.memory.write address value }

/-- The machine with another flag. -/
def mark (c : Cpu) (flag : Bool) : Cpu := { c with registers := c.registers.setFlag flag }

/-- The machine with its program counter at an address. -/
def jump (c : Cpu) (address : UInt8) : Cpu := { c with registers := c.registers.jump address }

/-- The machine when it has halted. -/
def halt (c : Cpu) : Cpu := { c with state := .halted }

/-- Arithmetic on the registers of the machine, in its overflow mode. -/
def combine (op : Operation) (dest src : Register) : EStateM Overflow Cpu Unit := do
  let c ← MonadState.get
  focus registers (fun c registers => { c with registers })
    (Registers.combine c.mode op dest src)

/-- Pushes a byte on the stack: the stack pointer goes down, then the byte is stored where it
points. -/
def push (value : UInt8) : EStateM Overflow Cpu Unit := do
  let c ← MonadState.get
  let top ← ofExcept (c.mode.apply .subtract c.registers.stackPointer 1)
  modify (·.point top)
  modify (·.store top value)

/-- Pops a byte from the stack: it is read where the stack pointer points, then the pointer goes
up. -/
def pop : EStateM Overflow Cpu UInt8 := do
  let c ← MonadState.get
  let top := c.registers.stackPointer
  let value := c.memory.read top
  let next ← ofExcept (c.mode.apply .add top 1)
  modify (·.point next)
  return value

/-! What overflows has changed nothing: the overflow is found before anything is written. -/

theorem run_combine (c : Cpu) (op : Operation) (dest src : Register) :
    (combine op dest src).run c =
      match c.mode.apply op (c.get dest) (c.get src) with
      | .ok value => .ok () (c.set dest value)
      | .error reason => .error reason c := by
  simp only [combine, run_bind, run_get, run_focus, Registers.run_combine, get]
  cases c.mode.apply op (c.registers.get dest) (c.registers.get src) <;> rfl

theorem run_push (c : Cpu) (value : UInt8) :
    (push value).run c =
      match c.mode.apply .subtract c.registers.stackPointer 1 with
      | .ok top => .ok () ((c.point top).store top value)
      | .error reason => .error reason c := by
  simp only [push, run_bind, run_get]
  cases c.mode.apply .subtract c.registers.stackPointer 1 <;> rfl

theorem run_pop (c : Cpu) :
    pop.run c =
      match c.mode.apply .add c.registers.stackPointer 1 with
      | .ok next => .ok (c.memory.read c.registers.stackPointer) (c.point next)
      | .error reason => .error reason c := by
  simp only [pop, run_bind, run_get]
  cases c.mode.apply .add c.registers.stackPointer 1 <;> rfl

/-- The instruction at the program counter. Both bytes after the operation are fetched, used or
not, and fetching wraps at the end of memory. -/
def fetch (c : Cpu) : Except DecodeError (Instruction Register) :=
  decode (c.memory.read c.counter) (c.memory.readOffset c.counter 1)
    (c.memory.readOffset c.counter 2)

/-- State, cycles and registers of a machine on one line. -/
def summary (c : Cpu) : String :=
  "Cpu \x7b state: " ++ c.state.name ++ ", cycles: " ++ Nat.repr c.cycles.toNat ++ ", regs: " ++
    c.registers.summary ++ " \x7d"

end Cpu

end Ls8
