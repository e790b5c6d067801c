import Ls8.Debugger.View
import Ls8.Proofs.Machine.Budget
import Ls8.Proofs.Machine.Cells

/-! # What a session does to its machine

A session executes instructions one by one, on a step or on a tick of continuous execution, and does
nothing else to its machine until it is reset. So whatever has been done at a session, its machine is
the one that so many plain steps lead to, and its output is what these steps print. Continuous
execution goes on as long as the machine runs and has not come to a breakpoint, and no step panics. -/

namespace Ls8.Debugger

/-- What a person does at a session: something to it, or a look at the code or at the screen. -/
inductive Use
  | act (action : Session.Action)
  | code (count : Nat)
  | draw (width height : Nat)
  deriving DecidableEq

/-- What a session shows. -/
inductive Sight
  | nothing
  | code (lines : List CodeLine)
  | screen (rows : Screen)

namespace Session

variable {s : Session}

/-- The session after a use, and what it shows. -/
def use (s : Session) : Use → Session × Sight
  | .act action => (s.act action, .nothing)
  | .code count => (s, .code (s.code count))
  | .draw width height => (s, .screen (s.draw width height))

/-- The session after uses, one after the other. -/
def after (s : Session) (uses : List Use) : Session := uses.foldl (fun s use => (s.use use).1) s

/-- Whether a use executes an instruction: a step, or a tick of continuous execution, while the machine
runs. -/
def executes (s : Session) : Use → Bool
  | .act .step => s.cpu.state = .running
  | .act .tick => s.isRunning ∧ s.cpu.state = .running
  | _ => false

/-- The number of uses that execute an instruction. -/
def executions (s : Session) : List Use → Nat
  | [] => 0
  | use :: rest => (s.executes use).toNat + (s.use use).1.executions rest

/-- The machine and its output after a number of plain steps. -/
def ahead (s : Session) (n : Nat) : Cpu × Array UInt8 := s.cpu.reached Host.collector s.output n

theorem ahead_add {t : Session} {m : Nat} (here : (t.cpu, t.output) = s.ahead m) (n : Nat) :
    t.ahead n = s.ahead (m + n) := by
  rw [ahead, ahead, Cpu.reached_add]
  exact congrArg (fun pair : Cpu × Array UInt8 => pair.1.reached Host.collector pair.2 n) here

theorem after_append (s : Session) (uses more : List Use) :
    s.after (uses ++ more) = (s.after uses).after more :=
  List.foldl_append

theorem executions_append (s : Session) (uses more : List Use) :
    s.executions (uses ++ more) = s.executions uses + (s.after uses).executions more := by
  induction uses generalizing s with
  | nil => exact (Nat.zero_add _).symm
  | cons use rest ih => rw [List.cons_append, executions, executions, ih, Nat.add_assoc]; rfl

/-! ## One use -/

theorem step_of_ok {i : Instruction Register}
    (succeeded : (s.cpu.step Host.collector s.output).result = .ok i) :
    s.step = { s with
      cpu := (s.ahead 1).1, output := (s.ahead 1).2, status := .executed s.cpu.counter i } := by
  rw [step, if_pos (Cpu.running_of_result_step succeeded)]
  simp only [succeeded]
  rfl

theorem step_of_error {e : CpuError} (running : s.cpu.state = .running)
    (failed : (s.cpu.step Host.collector s.output).result = .error e) :
    s.step = { s with
      cpu := (s.ahead 1).1, output := (s.ahead 1).2, status := .failed e, isRunning := false } := by
  rw [step, if_pos running]
  simp only [failed]
  rfl

theorem step_of_panicked (panicked : (s.cpu.step Host.collector s.output).result = .panicked) :
    s.step = { s with
      cpu := (s.ahead 1).1, output := (s.ahead 1).2, status := .aborted, isRunning := false } := by
  rw [step, if_pos (Cpu.countedOut_of_panicked panicked).1]
  simp only [panicked]
  rfl

/-- A step of a session whose machine runs is a step of the machine. -/
theorem machine_step (running : s.cpu.state = .running) :
    (s.step.cpu, s.step.output) = s.ahead 1 := by
  cases ended : (s.cpu.step Host.collector s.output).result with
  | ok i => rw [step_of_ok ended]
  | error e => rw [step_of_error running ended]
  | panicked => rw [step_of_panicked ended]

theorem machine_step_of_not_running (stopped : s.cpu.state ≠ .running) :
    (s.step.cpu, s.step.output) = (s.cpu, s.output) := by
  rw [step, if_neg stopped]

theorem machine_stopAtBreakpoint (s : Session) :
    (s.stopAtBreakpoint.cpu, s.stopAtBreakpoint.output) = (s.cpu, s.output) := by
  unfold stopAtBreakpoint
  split <;> rfl

theorem machine_tick_of_executes (executes : s.executes (.act .tick) = true) :
    (s.tick.cpu, s.tick.output) = s.ahead 1 := by
  obtain ⟨going, running⟩ : s.isRunning = true ∧ s.cpu.state = .running := of_decide_eq_true executes
  rw [tick, if_neg (by simp [going]), if_pos running, machine_stopAtBreakpoint, machine_step running]

theorem machine_tick_of_not_executes (idle : s.executes (.act .tick) = false) :
    (s.tick.cpu, s.tick.output) = (s.cpu, s.output) := by
  rw [tick]
  split
  · rfl
  · next going =>
    have stopped : s.cpu.state ≠ .running := fun running => by simp [executes, going, running] at idle
    rw [if_neg stopped]

/-- A use executes one instruction of the machine or leaves the machine alone. -/
theorem machine_use (s : Session) {use : Use} (kept : use ≠ .act .reset) :
    ((s.use use).1.cpu, (s.use use).1.output) = s.ahead (s.executes use).toNat := by
  cases use with
  | code | draw => rfl
  | act action =>
    cases action with
    | step =>
      by_cases running : s.cpu.state = .running
      · simp only [executes, running, decide_true, Bool.toNat_true]
        exact machine_step running
      · simp only [executes, running, decide_false, Bool.toNat_false]
        exact machine_step_of_not_running running
    | tick =>
      cases executed : s.executes (.act .tick) with
      | true => exact machine_tick_of_executes executed
      | false => exact machine_tick_of_not_executes executed
    | toggleBreakpoint =>
      change (s.toggleBreakpoint.cpu, s.toggleBreakpoint.output) = _
      simp only [toggleBreakpoint]
      split <;> rfl
    | run | pause | setBreakpoint | scroll => rfl
    | reset => contradiction

/-- A session does not change a machine that has stopped. -/
theorem machine_use_of_not_running (stopped : s.cpu.state ≠ .running) {use : Use}
    (kept : use ≠ .act .reset) :
    (s.use use).1.cpu = s.cpu ∧ (s.use use).1.output = s.output := by
  have same := s.machine_use kept
  rw [ahead, Cpu.reached_of_not_running _ _ stopped] at same
  exact Prod.mk.inj same

/-- What is done at a session leads its machine as many steps ahead as it executes. -/
theorem machine_after (s : Session) {uses : List Use} (kept : ∀ use ∈ uses, use ≠ .act .reset) :
    ((s.after uses).cpu, (s.after uses).output) = s.ahead (s.executions uses) := by
  induction uses generalizing s with
  | nil => rfl
  | cons use rest ih =>
    obtain ⟨first, others⟩ := List.forall_mem_cons.mp kept
    rw [executions, ← ahead_add (s.machine_use first)]
    exact ih _ others

/-! ## Continuous execution -/

/-- The start of continuous execution and a number of ticks. -/
def runFor (n : Nat) : List Use := .act .run :: List.replicate n (.act .tick)

/-- Continuous execution does not go on after a number of steps: the machine does not run any more, or
it stands at a breakpoint, or the last of the steps has panicked. -/
def Pauses (s : Session) (n : Nat) : Prop :=
  (s.ahead n).1.state ≠ .running ∨ (s.ahead n).1.counter ∈ s.breakpoints ∨
    ∃ k, n = k + 1 ∧ (s.cpu.attempt Host.collector s.output k).result = .panicked

theorem kept_of_mem_runFor {n : Nat} : ∀ use ∈ runFor n, use ≠ .act .reset := by
  intro use member
  rcases List.mem_cons.mp member with rfl | among
  · nofun
  · rw [List.eq_of_mem_replicate among]
    nofun

theorem runFor_succ (n : Nat) : runFor (n + 1) = runFor n ++ [.act .tick] := by
  rw [runFor, List.replicate_succ', ← List.cons_append]
  rfl

theorem after_runFor_succ (s : Session) (n : Nat) :
    s.after (runFor (n + 1)) = (s.after (runFor n)).tick := by
  rw [runFor_succ, after_append]
  rfl

theorem executions_runFor_succ (s : Session) (n : Nat) :
    s.executions (runFor (n + 1)) =
      s.executions (runFor n) + ((s.after (runFor n)).executes (.act .tick)).toNat := by
  rw [runFor_succ, executions_append]
  rfl

theorem executes_tick_iff :
    s.executes (.act .tick) = true ↔ s.isRunning = true ∧ s.cpu.state = .running :=
  decide_eq_true_iff

section

variable (executed : s.executes (.act .tick) = true)
include executed

theorem tick_of_error {e : CpuError}
    (failed : (s.cpu.step Host.collector s.output).result = .error e) :
    s.tick = { s with
      cpu := (s.ahead 1).1, output := (s.ahead 1).2, status := .failed e, isRunning := false } := by
  obtain ⟨going, running⟩ := executes_tick_iff.mp executed
  rw [tick, if_neg (by simp [going]), if_pos running, step_of_error running failed]
  exact if_neg (by simp)

theorem tick_of_panicked (panicked : (s.cpu.step Host.collector s.output).result = .panicked) :
    s.tick = { s with
      cpu := (s.ahead 1).1, output := (s.ahead 1).2, status := .aborted, isRunning := false } := by
  obtain ⟨going, running⟩ := executes_tick_iff.mp executed
  rw [tick, if_neg (by simp [going]), if_pos running, step_of_panicked panicked]
  exact if_neg (by simp)

theorem tick_at_breakpoint {i : Instruction Register}
    (succeeded : (s.cpu.step Host.collector s.output).result = .ok i)
    (stop : (s.ahead 1).1.counter ∈ s.breakpoints) :
    s.tick = { s with
      cpu := (s.ahead 1).1, output := (s.ahead 1).2
      status := .atBreakpoint (s.ahead 1).1.counter, isRunning := false } := by
  obtain ⟨going, running⟩ := executes_tick_iff.mp executed
  rw [tick, if_neg (by simp [going]), if_pos running, step_of_ok succeeded]
  exact if_pos ⟨going, stop⟩

theorem tick_of_ok {i : Instruction Register}
    (succeeded : (s.cpu.step Host.collector s.output).result = .ok i)
    (pass : (s.ahead 1).1.counter ∉ s.breakpoints) :
    s.tick = { s with
      cpu := (s.ahead 1).1, output := (s.ahead 1).2, status := .executed s.cpu.counter i } := by
  obtain ⟨going, running⟩ := executes_tick_iff.mp executed
  rw [tick, if_neg (by simp [going]), if_pos running, step_of_ok succeeded]
  exact if_neg fun both => pass both.2

end

/-- A tick that executes nothing is followed by ticks that execute nothing. -/
theorem executes_tick_of_idle (idle : s.executes (.act .tick) = false) :
    s.tick.executes (.act .tick) = false := by
  rw [tick]
  split
  · exact idle
  · next going =>
    have stopped : s.cpu.state ≠ .running := fun running => by simp [executes, going, running] at idle
    rw [if_neg stopped]
    simp [executes]

theorem executions_runFor_of_idle {m n : Nat} (later : m ≤ n)
    (idle : (s.after (runFor m)).executes (.act .tick) = false) :
    s.executions (runFor n) = s.executions (runFor m) ∧
      (s.after (runFor n)).executes (.act .tick) = false := by
  induction n, later using Nat.le_induction with
  | base => exact ⟨rfl, idle⟩
  | succ n _ ih =>
    obtain ⟨count, still⟩ := ih
    rw [executions_runFor_succ, after_runFor_succ, still, count]
    exact ⟨rfl, executes_tick_of_idle still⟩

/-- Continuous execution that has ended is not taken up again by ticks. -/
theorem after_runFor_of_le {m n : Nat} (later : m ≤ n)
    (ended : (s.after (runFor m)).isRunning = false) : s.after (runFor n) = s.after (runFor m) := by
  induction n, later using Nat.le_induction with
  | base => rfl
  | succ n _ ih => rw [after_runFor_succ, ih, tick, if_pos ended]

/-- The session when continuous execution has come a number of steps and goes on. -/
def gone (s : Session) (n : Nat) (status : Status) : Session :=
  { s with cpu := (s.ahead n).1, output := (s.ahead n).2, isRunning := true, status }

theorem tick_of_gone {n : Nat} {status : Status} (running : (s.ahead n).1.state = .running)
    (count : s.executions (runFor n) = n) (here : s.after (runFor n) = s.gone n status) :
    s.executions (runFor (n + 1)) = n + 1 ∧ (s.gone n status).executes (.act .tick) = true ∧
      s.after (runFor (n + 1)) = (s.gone n status).tick := by
  have executed : (s.gone n status).executes (.act .tick) = true :=
    executes_tick_iff.mpr ⟨rfl, running⟩
  rw [executions_runFor_succ, after_runFor_succ, count, here, executed]
  exact ⟨rfl, rfl, rfl⟩

/-- A step that continuous execution goes on after has succeeded. -/
theorem exists_result_of_not_pauses {n : Nat} (further : ¬s.Pauses (n + 1)) :
    ∃ i, (s.cpu.attempt Host.collector s.output n).result = .ok i := by
  obtain ⟨running, others⟩ := not_or.mp further
  refine (Cpu.result_of_running_step (not_not.mp running) fun panicked => ?_).2
  exact others (.inr ⟨n, rfl, panicked⟩)

/-- Ticks that each execute an instruction. -/
structure Goes (s : Session) (n : Nat) : Prop where
  running : s.cpu.state = .running
  free : ∀ k, 0 < k → k ≤ n → ¬s.Pauses k

namespace Goes

variable {n : Nat}

theorem running_ahead (goes : s.Goes n) : (s.ahead n).1.state = .running := by
  cases n with
  | zero => exact goes.running
  | succ n =>
    by_contra stopped
    exact goes.free (n + 1) (Nat.zero_lt_succ n) (Nat.le_refl _) (.inl stopped)

theorem of_le {m : Nat} (goes : s.Goes n) (earlier : m ≤ n) : s.Goes m :=
  ⟨goes.running, fun k positive within => goes.free k positive (Nat.le_trans within earlier)⟩

/-- As long as it goes on, continuous execution changes the machine, its output and the status only. -/
theorem after_runFor (goes : s.Goes n) :
    s.executions (runFor n) = n ∧ ∃ status, s.after (runFor n) = s.gone n status := by
  induction n with
  | zero => exact ⟨rfl, .running, rfl⟩
  | succ n ih =>
    have before := goes.of_le (Nat.le_succ n)
    obtain ⟨count, status, here⟩ := ih before
    obtain ⟨counts, executed, next⟩ := tick_of_gone before.running_ahead count here
    have further := goes.free (n + 1) (Nat.zero_lt_succ n) (Nat.le_refl _)
    obtain ⟨i, succeeded⟩ := exists_result_of_not_pauses further
    have pass : (s.ahead (n + 1)).1.counter ∉ s.breakpoints := fun stop =>
      further (.inr (.inl stop))
    rw [next]
    exact ⟨counts, _, tick_of_ok executed succeeded pass⟩

/-- The next tick executes an instruction. -/
theorem next_tick (goes : s.Goes n) :
    s.executions (runFor (n + 1)) = n + 1 ∧ ∃ status,
      (s.gone n status).executes (.act .tick) = true ∧
        s.after (runFor (n + 1)) = (s.gone n status).tick := by
  obtain ⟨count, status, here⟩ := goes.after_runFor
  obtain ⟨counts, executed, next⟩ := tick_of_gone goes.running_ahead count here
  exact ⟨counts, status, executed, next⟩

/-- If the next tick ends continuous execution, whatever the status was, later ticks find the session
as that tick has left it. -/
theorem after_last_tick {m : Nat} {final : Session} (goes : s.Goes n)
    (last : ∀ status, (s.gone n status).executes (.act .tick) = true →
      (s.gone n status).tick = final)
    (ended : final.isRunning = false) (later : n < m) : s.after (runFor m) = final := by
  obtain ⟨-, status, executed, next⟩ := goes.next_tick
  rw [last status executed] at next
  rw [after_runFor_of_le later (by rw [next, ended]), next]

/-- Continuous execution ends with an instruction that fails. -/
theorem after_failure {m : Nat} {e : CpuError} (goes : s.Goes n)
    (failed : (s.cpu.attempt Host.collector s.output n).result = .error e) (later : n < m) :
    s.after (runFor m) = { s with
      cpu := (s.ahead (n + 1)).1, output := (s.ahead (n + 1)).2
      isRunning := false, status := .failed e } :=
  goes.after_last_tick (fun _ executed => tick_of_error executed failed) rfl later

/-- Continuous execution ends with an instruction that panics. -/
theorem after_panic {m : Nat} (goes : s.Goes n)
    (panicked : (s.cpu.attempt Host.collector s.output n).result = .panicked) (later : n < m) :
    s.after (runFor m) = { s with
      cpu := (s.ahead (n + 1)).1, output := (s.ahead (n + 1)).2
      isRunning := false, status := .aborted } :=
  goes.after_last_tick (fun _ executed => tick_of_panicked executed panicked) rfl later

/-- Continuous execution ends with an instruction that leads to a breakpoint. -/
theorem after_breakpoint {m : Nat} {i : Instruction Register} (goes : s.Goes n)
    (succeeded : (s.cpu.attempt Host.collector s.output n).result = .ok i)
    (stop : (s.ahead (n + 1)).1.counter ∈ s.breakpoints) (later : n < m) :
    s.after (runFor m) = { s with
      cpu := (s.ahead (n + 1)).1, output := (s.ahead (n + 1)).2
      isRunning := false, status := .atBreakpoint (s.ahead (n + 1)).1.counter } :=
  goes.after_last_tick (fun _ executed => tick_at_breakpoint executed succeeded stop) rfl later

/-- Continuous execution ends with the tick after an instruction that halts the machine. -/
theorem after_halt {m : Nat} {i : Instruction Register} (goes : s.Goes n)
    (succeeded : (s.cpu.attempt Host.collector s.output n).result = .ok i)
    (pass : (s.ahead (n + 1)).1.counter ∉ s.breakpoints)
    (stopped : (s.ahead (n + 1)).1.state ≠ .running) (later : n + 1 < m) :
    s.after (runFor m) = { s with
      cpu := (s.ahead (n + 1)).1, output := (s.ahead (n + 1)).2, isRunning := false
      status := .finished (s.ahead (n + 1)).1.cycles (s.ahead (n + 1)).1.state } := by
  have halted : s.after (runFor (n + 1)) = { s with
      cpu := (s.ahead (n + 1)).1, output := (s.ahead (n + 1)).2, isRunning := true
      status := .executed (s.ahead n).1.counter i } := by
    obtain ⟨-, status, executed, next⟩ := goes.next_tick
    rw [next]
    exact tick_of_ok executed succeeded pass
  have ended : s.after (runFor (n + 2)) = { s with
      cpu := (s.ahead (n + 1)).1, output := (s.ahead (n + 1)).2, isRunning := false
      status := .finished (s.ahead (n + 1)).1.cycles (s.ahead (n + 1)).1.state } := by
    rw [after_runFor_succ, halted, tick, if_neg (by simp), if_neg stopped]
  rw [after_runFor_of_le later (congrArg isRunning ended), ended]

/-- After its last instruction continuous execution is idle. -/
theorem idle_of_pauses (goes : s.Goes n) (pauses : s.Pauses (n + 1)) :
    (s.after (runFor (n + 1))).executes (.act .tick) = false := by
  rw [Bool.eq_false_iff]
  intro executed
  obtain ⟨going, running⟩ := executes_tick_iff.mp executed
  have here := s.machine_after (kept_of_mem_runFor (n := n + 1))
  rw [goes.next_tick.1] at here
  have machine : (s.after (runFor (n + 1))).cpu = (s.ahead (n + 1)).1 := congrArg Prod.fst here
  rw [machine] at running
  cases ended : (s.cpu.attempt Host.collector s.output n).result with
  | error e =>
    rw [goes.after_failure ended (Nat.lt_succ_self n)] at going
    contradiction
  | panicked =>
    rw [goes.after_panic ended (Nat.lt_succ_self n)] at going
    contradiction
  | ok i =>
    rcases pauses with stopped | stop | ⟨k, same, panicked⟩
    · exact stopped running
    · rw [goes.after_breakpoint ended stop (Nat.lt_succ_self n)] at going
      contradiction
    · obtain rfl := Nat.succ.inj same
      rw [ended] at panicked
      contradiction

end Goes

/-- Without breakpoints continuous execution ends as the machine does. -/
theorem Goes.ends_as_machine {n m : Nat} (goes : s.Goes n) (free : s.breakpoints = [])
    (stopped : (s.ahead (n + 1)).1.state ≠ .running) (later : n + 1 < m) :
    (s.after (runFor m)).isRunning = false ∧
      (∀ i, (s.cpu.attempt Host.collector s.output n).result = .ok i →
        i = .hlt ∧ ∃ cycles : UInt64, cycles.toNat = s.cpu.cycles.toNat + (n + 1) ∧
          (s.after (runFor m)).status = .finished cycles .halted) ∧
      ∀ e, (s.cpu.attempt Host.collector s.output n).result = .error e →
        (s.after (runFor m)).status = .failed e := by
  cases ended : (s.cpu.attempt Host.collector s.output n).result with
  | error e =>
    rw [goes.after_failure ended (Nat.lt_of_succ_lt later)]
    refine ⟨rfl, nofun, ?_⟩
    rintro _ ⟨rfl⟩
    rfl
  | panicked =>
    rw [goes.after_panic ended (Nat.lt_of_succ_lt later)]
    exact ⟨rfl, nofun, nofun⟩
  | ok i =>
    have pass : (s.ahead (n + 1)).1.counter ∉ s.breakpoints := by
      rw [free]
      exact List.not_mem_nil
    obtain ⟨halts, halted⟩ := Cpu.halted_of_result_step ended stopped
    have cycles : (s.ahead (n + 1)).1.cycles.toNat = s.cpu.cycles.toNat + (n + 1) :=
      Cpu.toNat_cycles_reached ((Cpu.succeeds_of_result ended).succ ended)
    have state : (s.ahead (n + 1)).1.state = .halted := halted
    rw [goes.after_halt ended pass stopped later, state]
    refine ⟨rfl, ?_, nofun⟩
    rintro _ ⟨rfl⟩
    exact ⟨halts, _, cycles, rfl⟩

theorem text_finished (cycles : UInt64) :
    (Status.finished cycles .halted).text =
      "Stopped after " ++ Nat.repr cycles.toNat ++ " cycles: Halted" := by
  have words : " cycles: " ++ RunState.halted.name = " cycles: Halted" := by decide
  unfold Status.text
  simp only [String.append_assoc, words]

/-! ## Sessions with a program -/

theorem exists_load {program : List UInt8} (fits : program.length ≤ memorySize) :
    ∃ c, (Cpu.load program).run (.powerOn .wrap) = .ok () c ∧ c.cycles = 0 := by
  refine ⟨{ Cpu.powerOn .wrap with memory := Memory.zero.place 0 program }, ?_, rfl⟩
  rw [Cpu.run_load_powerOn, if_pos fits]

theorem start_of_load {program : List UInt8} {c : Cpu}
    (fits : (Cpu.load program).run (.powerOn .wrap) = .ok () c) :
    (start program).cpu = c ∧ (start program).output = #[] ∧ (start program).breakpoints = [] := by
  rw [start, loaded, fits]
  exact ⟨rfl, rfl, rfl⟩

/-- A session does not disturb its machine. Whatever is done at it short of a reset, its machine is a
new machine with the program after as many plain steps as the session has executed, and its output is
what these steps print; once the machine has stopped nothing changes. Continuous execution in a new
session ends as the plain machine does: if `h` steps succeed and leave it running and the next one stops
it, then with the tick after that one at the latest, and the status says how. -/
theorem machine_undisturbed (program : List UInt8) (fits : program.length ≤ memorySize) :
    ∃ c, (Cpu.load program).run (.powerOn .wrap) = .ok () c ∧
      (∀ uses, (∀ use ∈ uses, use ≠ .act .reset) →
        let s := (start program).after uses
        (s.cpu, s.output) = c.reached Host.collector #[] ((start program).executions uses) ∧
          (s.cpu.state ≠ .running → ∀ use, use ≠ .act .reset →
            (s.use use).1.cpu = s.cpu ∧ (s.use use).1.output = s.output)) ∧
      ∀ h, c.Succeeds Host.collector #[] h → (c.reached Host.collector #[] h).1.state = .running →
        (c.reached Host.collector #[] (h + 1)).1.state ≠ .running →
        ∀ n, h + 1 < n →
          let s := (start program).after (runFor n)
          s.isRunning = false ∧
            (∀ i, (c.attempt Host.collector #[] h).result = .ok i →
              i = .hlt ∧ s.status = .finished (UInt64.ofNat (h + 1)) .halted ∧
                s.status.text = "Stopped after " ++ Nat.repr (h + 1) ++ " cycles: Halted") ∧
            ∀ e, (c.attempt Host.collector #[] h).result = .error e →
              s.status.text = "Error: " ++ e.message := by
  obtain ⟨c, load, unused⟩ := exists_load fits
  obtain ⟨machine, silent, free⟩ := start_of_load load
  have ahead_eq (k : Nat) : (start program).ahead k = c.reached Host.collector #[] k := by
    rw [ahead, machine, silent]
  refine ⟨c, load, ?_, ?_⟩
  · intro uses kept s
    refine ⟨?_, fun stopped use keeps => machine_use_of_not_running stopped keeps⟩
    exact ((start program).machine_after kept).trans (ahead_eq _)
  · intro h succeeds running stopped n later s
    have goes : (start program).Goes h := by
      refine ⟨?_, ?_⟩
      · rw [machine]
        exact Cpu.running_of_le (Nat.zero_le h) running
      · rintro k - within (ended | stop | ⟨j, rfl, panicked⟩)
        · rw [ahead_eq] at ended
          exact ended (Cpu.running_of_le within running)
        · rw [free] at stop
          contradiction
        · rw [machine, silent] at panicked
          exact succeeds.returns j within panicked
    rw [← ahead_eq] at stopped
    obtain ⟨quiet, halts, fails⟩ := goes.ends_as_machine free stopped later
    rw [machine, silent] at halts fails
    refine ⟨quiet, fun i succeeded => ?_, fun e failed => ?_⟩
    · obtain ⟨last, cycles, counted, finished⟩ := halts i succeeded
      rw [unused, UInt64.toNat_zero, Nat.zero_add] at counted
      refine ⟨last, ?_, ?_⟩
      · rw [finished, ← counted, UInt64.ofNat_toNat]
      · rw [finished, text_finished, counted]
    · rw [fails e failed]
      rfl

/-- A program that prints 8 and halts, looked at and interrupted while it runs, and left to run. -/
theorem printing_undisturbed :
    let program : List UInt8 := [0x82, 0, 8, 0x47, 0, 0x01]
    let c : Cpu := { Cpu.powerOn .wrap with memory := Memory.zero.place 0 program }
    let s := (start program).after
      [.act .step, .act .toggleBreakpoint, .code 5, .act .run, .draw 80 24, .act .tick, .act .pause]
    (s.cpu, s.output) = c.reached Host.collector #[] 2 ∧ s.output = #[56, 10] ∧
      ((start program).after (runFor 4)).isRunning = false ∧
      ((start program).after (runFor 4)).status.text = "Stopped after 3 cycles: Halted" := by
  intro program c s
  obtain ⟨d, load, undisturbed, ends⟩ := machine_undisturbed program (by decide)
  obtain ⟨-, rfl⟩ : () = () ∧ d = c := EStateM.Result.ok.inj (load.symm.trans rfl)
  obtain ⟨machine, -⟩ := undisturbed
    [.act .step, .act .toggleBreakpoint, .code 5, .act .run, .draw 80 24, .act .tick, .act .pause]
    (by simp)
  have count : (start program).executions
      [.act .step, .act .toggleBreakpoint, .code 5, .act .run, .draw 80 24, .act .tick,
        .act .pause] = 2 := by decide
  rw [count] at machine
  change (s.cpu, s.output) = _ at machine
  clear_value s
  have printed : (Cpu.reached Host.collector c #[] 2).2 = #[56, 10] := by decide
  obtain ⟨quiet, halts, -⟩ :=
    ends 2 (Cpu.succeeds_of_result (i := .hlt) (by decide)) (by decide) (by decide) 4 (by decide)
  obtain ⟨-, -, text⟩ := halts .hlt (by decide)
  have words : "Stopped after " ++ Nat.repr 3 ++ " cycles: Halted" =
      "Stopped after 3 cycles: Halted" := by decide
  have prints : s.output = (Cpu.reached Host.collector c #[] 2).2 := congrArg Prod.snd machine
  exact ⟨machine, prints.trans printed, quiet, text.trans words⟩

end Session

end Ls8.Debugger
