import Ls8.Machine.Step

/-! # What one step can do

An instruction asks at most one operation of the overflow mode. If that operation overflows, the
instruction is stopped before it has changed anything; otherwise it prints the pieces `printed`, and
if none of them is refused it changes the machine as `after` says. `step_of_running` puts this
together with fetching and counting, as an equation. All later arguments about steps, and the loops
made of them, start from it. -/

namespace Ls8

variable {σ : Type}

open EStateM (run_bind run_get run_modify run_pure)

/-- Writes pieces one after the other, up to the first that is refused. -/
def Host.print (host : Host σ) (s : σ) : List (List UInt8) → σ × Option String
  | [] => (s, none)
  | piece :: rest =>
    match host.write s piece with
    | (s, none) => host.print s rest
    | (s, some reason) => (s, some reason)

/-- The overflow of an operation, in a mode that does not let it wrap. -/
def OverflowMode.overflow? (mode : OverflowMode) (d : Overflow) : Option Overflow :=
  if mode = .trap ∧ ¬d.operation.Fits d.left d.right then some d else none

theorem OverflowMode.apply_eq (mode : OverflowMode) (op : Operation) (left right : UInt8) :
    mode.apply op left right =
      match mode.overflow? ⟨op, left, right⟩ with
      | some reason => .error reason
      | none => .ok (op.wrapped left right) := by
  rw [apply, overflow?]
  split <;> rfl

namespace Cpu

/-- The machine with its program counter behind an instruction. -/
def skip (c : Cpu) (i : Instruction Register) : Cpu := c.jump (c.counter + UInt8.ofNat i.size)

/-- The operation that an instruction asks of the overflow mode, with its operands. -/
def demand? (c : Cpu) : Instruction Register → Option Overflow
  | .mul a b => some ⟨.multiply, c.get a, c.get b⟩
  | .add a b => some ⟨.add, c.get a, c.get b⟩
  | .push _ => some ⟨.subtract, c.registers.stackPointer, 1⟩
  | .pop _ => some ⟨.add, c.registers.stackPointer, 1⟩
  | _ => none

/-- The overflow that stops an instruction. -/
def overflow? (c : Cpu) (i : Instruction Register) : Option Overflow :=
  (c.demand? i).bind c.mode.overflow?

/-- The pieces that an instruction prints. -/
def printed (c : Cpu) : Instruction Register → List (List UInt8)
  | .prn r => [Text.decimalDigits (c.get r), [10]]
  | .pra r => [[c.get r, 10]]
  | _ => []

/-- The machine after an instruction that is not stopped. -/
def after (c : Cpu) (i : Instruction Register) : Cpu :=
  let pointer := c.registers.stackPointer
  match i with
  | .ldi r value => (c.set r value).skip i
  | .prn _ | .pra _ => c.skip i
  | .mul a b => (c.set a (c.get a * c.get b)).skip i
  | .add a b => (c.set a (c.get a + c.get b)).skip i
  | .push r => ((c.point (pointer - 1)).store (pointer - 1) (c.get r)).skip i
  | .pop r => ((c.point (pointer + 1)).set r (c.memory.read pointer)).skip i
  | .cmp a b => (c.mark (c.get a == c.get b)).skip i
  | .jmp r => c.jump (c.get r)
  | .jeq r => if c.registers.flag then c.jump (c.get r) else c.skip i
  | .jne r => if c.registers.flag then c.skip i else c.jump (c.get r)
  | .hlt => c.halt

/-- The machine after an instruction, before the program counter moves on. -/
def effect (c : Cpu) (i : Instruction Register) : Cpu :=
  if i.opcode.setsCounter ∨ i = .hlt then c.after i else (c.after i).jump c.counter

/-- The surroundings when they have been told which instruction is about to be executed. -/
def announce (host : Host σ) (c : Cpu) (s : σ) (i : Instruction Register) : σ :=
  host.log s (.execute c.counter (c.memory.read c.counter) i)

/-- The end of a step that an error stopped. -/
def fail (host : Host σ) (c : Cpu) (s : σ) (e : CpuError) : Outcome σ :=
  ⟨.error e, { c with state := .error }, host.log s (.stopped c.counter e)⟩

/-- The end of a step that has executed an instruction and counted it. -/
def finish (host : Host σ) (c next : Cpu) (s : σ) (i : Instruction Register) : Outcome σ :=
  let cycles := c.cycles + 1
  ⟨.ok i, { next with cycles, last := some i },
    if next.state = .halted then host.log s (.halted c.counter cycles) else s⟩

end Cpu

namespace Activity

theorem run_execute (host : Host σ) (c : Cpu) (s : σ) (i : Instruction Register) :
    (execute host c.counter i).run ⟨c, s⟩ =
      match c.overflow? i with
      | some reason => .error (.overflow c.counter reason) ⟨c, s⟩
      | none =>
        match host.print s (c.printed i) with
        | (s, some reason) => .error (.output reason) ⟨c, s⟩
        | (s, none) => .ok () ⟨c.effect i, s⟩ := by
  cases i with
  | prn r =>
    simp only [execute, run_bind, run_get, run_write, Cpu.printed, Host.print]
    obtain ⟨t, _ | reason⟩ := host.write s (Text.decimalDigits (c.get r))
    · simp only
      obtain ⟨t, _ | reason⟩ := host.write t [10] <;> rfl
    · rfl
  | pra r =>
    simp only [execute, run_bind, run_get, run_write, Cpu.printed, Host.print]
    obtain ⟨t, _ | reason⟩ := host.write s [c.get r, 10] <;> rfl
  | mul a b | add a b =>
    simp only [execute, run_bind, run_get, run_onCpu, Cpu.run_combine, OverflowMode.apply_eq,
      Cpu.overflow?, Cpu.demand?, Option.bind_some]
    cases c.mode.overflow? _ <;> rfl
  | push r =>
    simp only [execute, run_bind, run_get, run_onCpu, Cpu.run_push, OverflowMode.apply_eq,
      Cpu.overflow?, Cpu.demand?, Option.bind_some]
    cases c.mode.overflow? _ <;> rfl
  | pop r =>
    simp only [execute, run_bind, run_get, run_onCpu, Cpu.run_pop, OverflowMode.apply_eq,
      Cpu.overflow?, Cpu.demand?, Option.bind_some]
    cases c.mode.overflow? _ <;> rfl
  | jeq r =>
    change EStateM.Result.ok () (World.mk _ s) = .ok () ⟨c.after (.jeq r), s⟩
    simp only [Cpu.after]
    cases c.registers.flag <;> rfl
  | jne r =>
    change EStateM.Result.ok () (World.mk _ s) = .ok () ⟨c.after (.jne r), s⟩
    simp only [Cpu.after]
    cases c.registers.flag <;> rfl
  | _ => rfl

/-- An instruction that does not set the program counter leaves it for the cycle to move on. -/
theorem jump_effect {c : Cpu} (running : c.state = .running) (i : Instruction Register) :
    (if i.opcode.setsCounter = false ∧ (c.effect i).state = .running then
      (c.effect i).jump (c.counter + UInt8.ofNat i.size) else c.effect i) = c.after i := by
  cases i with
  | jmp r | jeq r | jne r | hlt => rfl
  | _ => exact if_pos ⟨rfl, running⟩

theorem run_cycle (host : Host σ) {c : Cpu} (running : c.state = .running) (s : σ) :
    (cycle host).run ⟨c, s⟩ =
      match c.fetch with
      | .error e => .error (e.at c.counter) ⟨c, s⟩
      | .ok i =>
        match c.overflow? i with
        | some reason => .error (.overflow c.counter reason) ⟨c, c.announce host s i⟩
        | none =>
          match host.print (c.announce host s i) (c.printed i) with
          | (s, some reason) => .error (.output reason) ⟨c, s⟩
          | (s, none) => .ok i ⟨c.after i, s⟩ := by
  simp only [cycle, run_bind, run_get]
  cases c.fetch with
  | error e => rfl
  | ok i =>
    have reported : (report host (.execute c.counter (c.memory.read c.counter) i)).run ⟨c, s⟩ =
        .ok () ⟨c, c.announce host s i⟩ := rfl
    have decoded : (ofExcept ((Except.ok i).mapError (DecodeError.at c.counter)) :
        Activity σ (Instruction Register)).run ⟨c, s⟩ = .ok i ⟨c, s⟩ := rfl
    simp only [decoded, reported, run_execute]
    cases c.overflow? i with
    | some reason => rfl
    | none =>
      simp only
      obtain ⟨t, _ | reason⟩ := host.print (c.announce host s i) (c.printed i)
      · simp only [← jump_effect running i]
        split <;> rfl
      · rfl

end Activity

namespace Cpu

@[simp] theorem cycles_after (c : Cpu) (i : Instruction Register) :
    (c.after i).cycles = c.cycles := by
  cases i with
  | jeq r | jne r =>
    simp only [after]
    split <;> rfl
  | _ => rfl

/-- Every way in which a step of a running machine can end. -/
theorem step_of_running (host : Host σ) {c : Cpu} (running : c.state = .running) (s : σ) :
    c.step host s =
      match c.fetch with
      | .error e => c.fail host s (e.at c.counter)
      | .ok i =>
        match c.overflow? i with
        | some reason => c.fail host (c.announce host s i) (.overflow c.counter reason)
        | none =>
          match host.print (c.announce host s i) (c.printed i) with
          | (s, some reason) => c.fail host s (.output reason)
          | (s, none) =>
            if c.CountedOut then ⟨.panicked, c.after i, s⟩ else c.finish host (c.after i) s i := by
  rw [step, if_pos running, Activity.run_cycle host running]
  cases c.fetch with
  | error e => rfl
  | ok i =>
    simp only
    cases c.overflow? i with
    | some reason => rfl
    | none =>
      simp only
      obtain ⟨t, _ | reason⟩ := host.print (c.announce host s i) (c.printed i)
      · simp only [CountedOut, cycles_after]
        rfl
      · rfl

/-- How a step of a running machine goes: its bytes are no instruction, its instruction overflows,
what the instruction prints is refused, or the instruction is executed, and then counted if the
counter has room for it. -/
inductive Passage (host : Host σ) (c : Cpu) (s : σ) : Outcome σ → Prop
  | undecoded (e : DecodeError) (fetched : c.fetch = .error e) :
    Passage host c s (c.fail host s (e.at c.counter))
  | overflowing (i : Instruction Register) (reason : Overflow) (fetched : c.fetch = .ok i)
      (stopped : c.overflow? i = some reason) :
    Passage host c s (c.fail host (c.announce host s i) (.overflow c.counter reason))
  | refused (i : Instruction Register) (t : σ) (reason : String) (fetched : c.fetch = .ok i)
      (fits : c.overflow? i = none)
      (printed : host.print (c.announce host s i) (c.printed i) = (t, some reason)) :
    Passage host c s (c.fail host t (.output reason))
  | uncounted (i : Instruction Register) (t : σ) (fetched : c.fetch = .ok i)
      (fits : c.overflow? i = none)
      (printed : host.print (c.announce host s i) (c.printed i) = (t, none))
      (full : c.CountedOut) :
    Passage host c s ⟨.panicked, c.after i, t⟩
  | finished (i : Instruction Register) (t : σ) (fetched : c.fetch = .ok i)
      (fits : c.overflow? i = none)
      (printed : host.print (c.announce host s i) (c.printed i) = (t, none))
      (room : ¬c.CountedOut) :
    Passage host c s (c.finish host (c.after i) t i)

theorem step_passage (host : Host σ) {c : Cpu} (running : c.state = .running) (s : σ) :
    c.Passage host s (c.step host s) := by
  rw [step_of_running host running]
  cases fetched : c.fetch with
  | error e => exact .undecoded e fetched
  | ok i =>
    simp only
    cases stopped : c.overflow? i with
    | some reason => exact .overflowing i reason fetched stopped
    | none =>
      simp only
      split
      · next t reason printed => exact .refused i t reason fetched stopped printed
      · next t printed =>
        by_cases full : c.CountedOut
        · rw [if_pos full]
          exact .uncounted i t fetched stopped printed full
        · rw [if_neg full]
          exact .finished i t fetched stopped printed full

/-- Only a running machine has a step that succeeds. -/
theorem running_of_result_step {host : Host σ} {c : Cpu} {s : σ} {i : Instruction Register}
    (succeeded : (c.step host s).result = .ok i) : c.state = .running := by
  by_cases running : c.state = .running
  · exact running
  · rw [step_of_not_running host s running] at succeeded
    contradiction

/-- A step that succeeds has finished the instruction that was fetched, and there was room to count
it. -/
theorem step_of_result_eq_ok {host : Host σ} {c : Cpu} {s : σ} {i : Instruction Register}
    (succeeded : (c.step host s).result = .ok i) :
    c.fetch = .ok i ∧ ¬c.CountedOut ∧ ∃ t, c.step host s = c.finish host (c.after i) t i := by
  have passage := step_passage host (running_of_result_step succeeded) s
  generalize c.step host s = ended at passage succeeded
  cases passage with
  | undecoded | overflowing | refused | uncounted => contradiction
  | finished j t fetched fits printed room =>
    obtain rfl : j = i := Result.ok.inj succeeded
    exact ⟨fetched, room, t, rfl⟩

/-- A step that succeeds makes the cycle counter one greater. -/
theorem toNat_cycles_of_result_step {host : Host σ} {c : Cpu} {s : σ} {i : Instruction Register}
    (succeeded : (c.step host s).result = .ok i) :
    (c.step host s).cpu.cycles.toNat = c.cycles.toNat + 1 := by
  obtain ⟨-, room, t, ended⟩ := step_of_result_eq_ok succeeded
  have bound := c.cycles.toNat_lt
  have size : UInt64.size = 2 ^ 64 := rfl
  rw [CountedOut] at room
  rw [ended]
  change (c.cycles + 1).toNat = _
  rw [UInt64.toNat_add]
  exact Nat.mod_eq_of_lt (by change c.cycles.toNat + 1 < 2 ^ 64; omega)

end Cpu

end Ls8
