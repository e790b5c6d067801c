import Ls8.Machine.Host

/-! # Single steps

One step fetches, decodes and executes the instruction at the program counter. It does so to the
machine and its surroundings together, one thing after the other, and an error comes with both as
they are by then. A step that succeeds is counted. The counter has a greatest value: a step that
would count beyond it panics. -/

namespace Ls8

variable {σ : Type}

open EStateM (run_adaptExcept)

/-- How a call ends: with a value, with an error, or in a panic, which gives nothing back. Addition
is checked for overflow; a build without these checks would go on counting from zero. -/
inductive Result (ε α : Type)
  | ok (value : α)
  | error (reason : ε)
  | panicked
  deriving DecidableEq, Repr

namespace Result

variable {ε α : Type}

/-- The end of a call with another value. -/
def map {β : Type} (f : α → β) : Result ε α → Result ε β
  | ok value => ok (f value)
  | error reason => error reason
  | panicked => panicked

/-- The end of a call with another error. -/
def mapError {ε' : Type} (f : ε → ε') : Result ε α → Result ε' α
  | ok value => ok value
  | error reason => error (f reason)
  | panicked => panicked

end Result

/-- A machine and its surroundings. -/
structure World (σ : Type) where
  cpu : Cpu
  host : σ

/-- The end of a step: the instruction executed or the error, the machine, and its surroundings. -/
structure Outcome (σ : Type) where
  result : Result CpuError (Instruction Register)
  cpu : Cpu
  host : σ

/-- Something that a machine does in its surroundings. -/
abbrev Activity (σ : Type) := EStateM CpuError (World σ)

namespace Activity

/-- A change of the machine. -/
def change (f : Cpu → Cpu) : Activity σ Unit := modify fun w => { w with cpu := f w.cpu }

/-- Something done to the machine alone, with its errors as errors of the machine. -/
def onCpu {ε α : Type} (reason : ε → CpuError) (x : EStateM ε Cpu α) : Activity σ α :=
  focus World.cpu (fun w cpu => { w with cpu }) (EStateM.adaptExcept reason x)

theorem run_onCpu {ε α : Type} (reason : ε → CpuError) (x : EStateM ε Cpu α) (w : World σ) :
    (onCpu reason x).run w =
      match x.run w.cpu with
      | .ok a cpu => .ok a { w with cpu }
      | .error e cpu => .error (reason e) { w with cpu } := by
  simp only [onCpu, run_focus, run_adaptExcept]
  cases x.run w.cpu <;> rfl

/-- Writes bytes to the surroundings. -/
def write (host : Host σ) (bytes : List UInt8) : Activity σ Unit := fun w =>
  match host.write w.host bytes with
  | (s, none) => .ok () { w with host := s }
  | (s, some reason) => .error (.output reason) { w with host := s }

theorem run_write (host : Host σ) (bytes : List UInt8) (w : World σ) :
    (write host bytes).run w =
      match host.write w.host bytes with
      | (s, none) => .ok () { w with host := s }
      | (s, some reason) => .error (.output reason) { w with host := s } := rfl

/-- Reports an event to the surroundings. -/
def report (host : Host σ) (event : Event) : Activity σ Unit :=
  modify fun w => { w with host := host.log w.host event }

/-- Jumps to the address in a register, or goes on behind the instruction. -/
def branch (counter : UInt8) (i : Instruction Register) (target : Register) (taken : Bool) :
    Activity σ Unit :=
  change fun c => c.jump (if taken then c.get target else counter + UInt8.ofNat i.size)

/-- Executes the instruction from an address. A number is printed in two pieces, its digits and the
line feed. -/
def execute (host : Host σ) (counter : UInt8) (i : Instruction Register) : Activity σ Unit := do
  let c := (← get).cpu
  match i with
  | .ldi r value => change (·.set r value)
  | .prn r =>
    write host (Text.decimalDigits (c.get r))
    write host [10]
  | .pra r => write host [c.get r, 10]
  | .mul a b => onCpu (.overflow counter) (Cpu.combine .multiply a b)
  | .add a b => onCpu (.overflow counter) (Cpu.combine .add a b)
  | .push r => onCpu (.overflow counter) (Cpu.push (c.get r))
  | .pop r =>
    let value ← onCpu (.overflow counter) Cpu.pop
    change (·.set r value)
  | .cmp a b => change (·.mark (c.get a == c.get b))
  | .jmp r => change (·.jump (c.get r))
  | .jeq r => branch counter i r c.registers.flag
  | .jne r => branch counter i r !c.registers.flag
  | .hlt => change (·.halt)
/-- Fetches, decodes and executes the instruction at the program counter. -/
def cycle (host : Host σ) : Activity σ (Instruction Register) := do
  let c := (← get).cpu
  let counter := c.counter
  let i ← ofExcept (c.fetch.mapError (·.at counter))
  report host (.execute counter (c.memory.read counter) i)
  execute host counter i
  if i.opcode.setsCounter = false ∧ (← get).cpu.state = .running then
    change (·.jump (counter + UInt8.ofNat i.size))
  return i

end Activity

namespace Cpu

/-- The cycle counter stands at its greatest value. -/
def CountedOut (c : Cpu) : Prop := c.cycles.toNat + 1 = UInt64.size

instance (c : Cpu) : Decidable c.CountedOut := inferInstanceAs (Decidable (_ = _))

/-- Executes the instruction at the program counter. -/
def step (host : Host σ) (c : Cpu) (s : σ) : Outcome σ :=
  if c.state = .running then
    match (Activity.cycle host).run ⟨c, s⟩ with
    | .ok i ⟨next, s⟩ =>
      if next.CountedOut then ⟨.panicked, next, s⟩
      else
        let cycles := next.cycles + 1
        ⟨.ok i, { next with cycles, last := some i },
          if next.state = .halted then host.log s (.halted c.counter cycles) else s⟩
    | .error e ⟨next, s⟩ =>
      ⟨.error e, { next with state := .error }, host.log s (.stopped c.counter e)⟩
  else ⟨.error (.notRunning c.state), c, s⟩

/-- A machine that does not run is left alone. -/
theorem step_of_not_running (host : Host σ) {c : Cpu} (s : σ) (h : c.state ≠ .running) :
    c.step host s = ⟨.error (.notRunning c.state), c, s⟩ := by
  simp [step, h]

end Cpu

end Ls8
