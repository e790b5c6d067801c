import Ls8.Proofs.Debugger.Execution
import Ls8.Proofs.Text.Numeral

/-! # What a status says

The status of a session is true of the session, whatever has been done to it. But it need not say all:
`HLT` leaves the program counter where it is, so when a machine halts at a breakpoint the session looks
for a breakpoint and finds the one in front of the `HLT`. It then says that it has come to a breakpoint,
and never that the machine has halted. -/

namespace Ls8

theorem Text.head?_append {text : String} {c : Char} (first : text.toList.head? = some c)
    (rest : String) : (text ++ rest).toList.head? = some c := by
  rw [String.toList_append, List.head?_append, first]
  rfl

namespace Debugger

/-! ## Statuses in words -/

/-- The first letter of a status. -/
def Status.initial : Status → Char
  | .aborted => 'A'
  | .atBreakpoint _ => 'B'
  | .notRunning _ => 'C'
  | .loadFailed _ | .failed _ => 'E'
  | .executed .. | .paused => 'P'
  | .ready | .reset | .running | .breakpointRemoved _ => 'R'
  | .finished .. | .breakpointSet _ => 'S'

theorem Status.head?_text (status : Status) : status.text.toList.head? = some status.initial := by
  cases status with
  | ready | reset | running | paused | aborted => decide
  | atBreakpoint => exact Text.head?_append (c := 'B') (by decide) _
  | notRunning => exact Text.head?_append (c := 'C') (by decide) _
  | loadFailed | failed => exact Text.head?_append (c := 'E') (by decide) _
  | breakpointRemoved => exact Text.head?_append (c := 'R') (by decide) _
  | breakpointSet => exact Text.head?_append (c := 'S') (by decide) _
  | executed =>
    exact Text.head?_append (Text.head?_append (Text.head?_append (c := 'P') (by decide) _) _) _
  | finished =>
    exact Text.head?_append (Text.head?_append (Text.head?_append (c := 'S') (by decide) _) _) _

/-- The words tell that a breakpoint has been reached, and which. -/
theorem Status.text_eq_breakpoint_iff {status : Status} {address : UInt8} :
    status.text = "Breakpoint at PC=" ++ Text.hexByte address ↔ status = .atBreakpoint address := by
  constructor
  · intro same
    have initial : status.initial = 'B' := by
      have first := status.head?_text
      rw [same, Text.head?_append (c := 'B') (by decide)] at first
      exact (Option.some.inj first).symm
    cases status with
    | atBreakpoint other =>
      have digits := (String.append_right_inj "Breakpoint at PC=").mp same
      rw [Text.hexByte_injective digits]
    | _ => exact absurd initial (by simp [Status.initial])
  · rintro rfl
    rfl

/-! ## Statuses are true -/

/-- A status is true of a session. -/
def Status.Holds (s : Session) : Status → Prop
  | .ready | .reset | .loadFailed _ | .paused | .aborted => s.isRunning = false
  | .notRunning state => s.isRunning = false ∧ s.cpu.state = state ∧ state ≠ .running
  | .executed _ i => s.cpu.last = some i ∧ s.cpu.state ≠ .error
  | .failed _ => s.isRunning = false ∧ s.cpu.state = .error
  | .running => s.isRunning = true
  | .finished cycles state =>
    s.isRunning = false ∧ s.cpu.cycles = cycles ∧ s.cpu.state = state ∧ state ≠ .running
  | .atBreakpoint address =>
    s.isRunning = false ∧ address ∈ s.breakpoints ∧ s.cpu.counter = address ∧
      (s.cpu.state = .running ∨ s.cpu.state = .halted ∧ s.cpu.fetch = .ok .hlt)
  | .breakpointSet address => address ∈ s.breakpoints ∧ s.cpu.counter = address
  | .breakpointRemoved address => s.cpu.counter = address

namespace Session

variable {s : Session}

/-- The status of a session is true of it. -/
def Truthful (s : Session) : Prop := s.status.Holds s

theorem truthful_start (program : List UInt8) : (start program).Truthful := by
  unfold start loaded
  cases (Cpu.load program).run (.powerOn .wrap) <;> rfl

/-- After an instruction that succeeds the machine runs, or it is at the `HLT` that has halted it. -/
theorem running_or_halted {i : Instruction Register}
    (succeeded : (s.cpu.step Host.collector s.output).result = .ok i) :
    (s.ahead 1).1.state = .running ∨ (s.ahead 1).1.state = .halted ∧ (s.ahead 1).1.fetch = .ok .hlt := by
  by_cases going : (s.ahead 1).1.state = .running
  · exact .inl going
  · obtain ⟨rfl, halted⟩ := Cpu.halted_of_result_step succeeded going
    exact .inr ⟨halted, (Cpu.fetch_of_halt succeeded).2⟩

theorem truthful_executed {i : Instruction Register}
    (succeeded : (s.cpu.step Host.collector s.output).result = .ok i) :
    { s with
      cpu := (s.ahead 1).1, output := (s.ahead 1).2,
      status := .executed s.cpu.counter i }.Truthful := by
  refine ⟨Cpu.last_of_result_step succeeded, fun error => ?_⟩
  obtain state | ⟨state, -⟩ := running_or_halted succeeded
  all_goals rw [state] at error; contradiction

theorem truthful_failed {e : CpuError} (running : s.cpu.state = .running)
    (failed : (s.cpu.step Host.collector s.output).result = .error e) :
    { s with
      cpu := (s.ahead 1).1, output := (s.ahead 1).2, status := .failed e,
      isRunning := false }.Truthful :=
  ⟨rfl, congrArg Cpu.state (Cpu.cpu_of_failed_step running failed)⟩

theorem truthful_step (s : Session) : s.step.Truthful := by
  by_cases running : s.cpu.state = .running
  · cases ended : (s.cpu.step Host.collector s.output).result with
    | ok i =>
      rw [step_of_ok ended]
      exact truthful_executed ended
    | error e =>
      rw [step_of_error running ended]
      exact truthful_failed running ended
    | panicked =>
      rw [step_of_panicked ended]
      rfl
  · rw [step, if_neg running]
    exact ⟨rfl, rfl, running⟩

theorem truthful_tick (truthful : s.Truthful) : s.tick.Truthful := by
  by_cases executed : s.executes (.act .tick) = true
  · obtain ⟨-, running⟩ := executes_tick_iff.mp executed
    cases ended : (s.cpu.step Host.collector s.output).result with
    | ok i =>
      by_cases stop : (s.ahead 1).1.counter ∈ s.breakpoints
      · rw [tick_at_breakpoint executed ended stop]
        exact ⟨rfl, stop, rfl, running_or_halted ended⟩
      · rw [tick_of_ok executed ended stop]
        exact truthful_executed ended
    | error e =>
      rw [tick_of_error executed ended]
      exact truthful_failed running ended
    | panicked =>
      rw [tick_of_panicked executed ended]
      rfl
  · rw [tick]
    split
    · exact truthful
    · next going =>
      have stopped : s.cpu.state ≠ .running := fun running =>
        executed (executes_tick_iff.mpr ⟨Bool.eq_true_of_not_eq_false going, running⟩)
      rw [if_neg stopped]
      exact ⟨rfl, rfl, rfl, stopped⟩

theorem truthful_setBreakpoint (truthful : s.Truthful) (address : UInt8) :
    (s.setBreakpoint address).Truthful := by
  have kept {other : UInt8} (member : other ∈ s.breakpoints) :
      other ∈ (s.setBreakpoint address).breakpoints := List.mem_insert_of_mem member
  unfold Truthful at truthful ⊢
  change s.status.Holds (s.setBreakpoint address)
  -- Two statuses say that a breakpoint is there; none says that there is none.
  cases told : s.status with
  | atBreakpoint =>
    rw [told] at truthful
    exact ⟨truthful.1, kept truthful.2.1, truthful.2.2⟩
  | breakpointSet =>
    rw [told] at truthful
    exact ⟨kept truthful.1, truthful.2⟩
  | _ =>
    rw [told] at truthful
    exact truthful

theorem truthful_toggleBreakpoint (s : Session) : s.toggleBreakpoint.Truthful := by
  simp only [toggleBreakpoint]
  split
  · rfl
  · exact ⟨List.mem_insert_self, rfl⟩

theorem truthful_reset (s : Session) : s.reset.Truthful := by
  unfold reset loaded
  cases (Cpu.load s.program).run s.cpu.reset <;> rfl

theorem truthful_scroll (truthful : s.Truthful) (down : Bool) :
    (s.scrollMemory down).Truthful := by
  unfold Truthful at truthful ⊢
  change s.status.Holds (s.scrollMemory down)
  cases told : s.status <;> rw [told] at truthful <;> exact truthful

theorem truthful_use (truthful : s.Truthful) (use : Use) : (s.use use).1.Truthful := by
  cases use with
  | code | draw => exact truthful
  | act action =>
    cases action with
    | step => exact s.truthful_step
    | run | pause => rfl
    | tick => exact truthful_tick truthful
    | toggleBreakpoint => exact s.truthful_toggleBreakpoint
    | setBreakpoint address => exact truthful_setBreakpoint truthful address
    | scroll down => exact truthful_scroll truthful down
    | reset => exact s.truthful_reset

theorem truthful_after (program : List UInt8) (uses : List Use) :
    ((start program).after uses).Truthful := by
  induction uses using List.reverseRecOn with
  | nil => exact truthful_start program
  | append_singleton uses use ih =>
    rw [after_append]
    exact truthful_use ih use

/-! ## Breakpoints and halts -/

/-- The tick after the machine has halted ends continuous execution, wherever the breakpoints are. -/
theorem tick_of_halted (going : s.isRunning = true) (halted : s.cpu.state = .halted) :
    s.tick = { s with isRunning := false, status := .finished s.cpu.cycles .halted } := by
  rw [tick, if_neg (by simp [going]), if_neg (by simp [halted]), halted]

theorem text_of_halted (going : s.isRunning = true) (halted : s.cpu.state = .halted) :
    s.tick.status.text = "Stopped after " ++ Nat.repr s.cpu.cycles.toNat ++ " cycles: Halted" := by
  rw [tick_of_halted going halted, text_finished]

theorem cpu_tick_of_executes (executed : s.executes (.act .tick) = true) :
    s.tick.cpu = (s.ahead 1).1 := congrArg Prod.fst (machine_tick_of_executes executed)

/-- A tick that ends at a breakpoint has executed an instruction, and only `HLT` stops the machine. -/
theorem running_of_tick_at_breakpoint {address : UInt8} (going : s.isRunning = true)
    (announced : s.tick.status = .atBreakpoint address) :
    s.tick.cpu.state = .running ↔ s.cpu.fetch ≠ .ok .hlt := by
  by_cases running : s.cpu.state = .running
  · have executed := executes_tick_iff.mpr ⟨going, running⟩
    cases ended : (s.cpu.step Host.collector s.output).result with
    | error e =>
      rw [tick_of_error executed ended] at announced
      contradiction
    | panicked =>
      rw [tick_of_panicked executed ended] at announced
      contradiction
    | ok i =>
      rw [cpu_tick_of_executes executed, (Cpu.step_of_result_eq_ok ended).1]
      change (s.cpu.step Host.collector s.output).cpu.state = .running ↔ _
      rw [Cpu.state_of_ok ended]
      split
      · next halts => simp [halts]
      · next runs => simp [runs]
  · rw [tick, if_neg (by simp [going]), if_neg running] at announced
    contradiction

/-- The tick that halts the machine leaves it where it was. -/
theorem tick_that_halts (going : s.isRunning = true) (running : s.cpu.state = .running)
    (returned : s.tick.status ≠ .aborted) (halted : s.tick.cpu.state = .halted) :
    s.tick.cpu.counter = s.cpu.counter ∧
      s.tick.isRunning = decide (s.cpu.counter ∉ s.breakpoints) ∧
      (s.cpu.counter ∈ s.breakpoints → s.tick.status = .atBreakpoint s.cpu.counter) := by
  have executed := executes_tick_iff.mpr ⟨going, running⟩
  have machine := cpu_tick_of_executes executed
  cases ended : (s.cpu.step Host.collector s.output).result with
  | error e =>
    have failed := congrArg Cpu.state (Cpu.cpu_of_failed_step running ended)
    rw [machine] at halted
    have both : RunState.halted = .error := halted.symm.trans failed
    contradiction
  | panicked =>
    rw [tick_of_panicked executed ended] at returned
    contradiction
  | ok i =>
    rw [machine] at halted
    have stopped : (s.ahead 1).1.state ≠ .running := by
      rw [halted]
      nofun
    obtain ⟨rfl, -⟩ := Cpu.halted_of_result_step ended stopped
    have place : (s.ahead 1).1.counter = s.cpu.counter := (Cpu.fetch_of_halt ended).1
    rw [machine]
    refine ⟨place, ?_⟩
    by_cases stop : s.cpu.counter ∈ s.breakpoints
    · rw [tick_at_breakpoint executed ended (by rwa [place]), place]
      exact ⟨by simp [stop], fun _ => rfl⟩
    · rw [tick_of_ok executed ended (by rwa [place])]
      exact ⟨by simp [stop, going], fun at_breakpoint => absurd at_breakpoint stop⟩

/-- When a session says that it has come to a breakpoint, it does not execute anything any more and its
machine stands at that breakpoint. The machine runs, unless it is the `HLT` at the breakpoint that
has just halted it. When the machine halts, and the tick that has executed the `HLT` has come back, the
next tick of continuous execution says so, unless the `HLT` is at a breakpoint: then the tick that
executes it ends continuous execution as at a breakpoint, and later ticks find nothing to do. -/
theorem breakpoint_stops_and_halts (program : List UInt8) (uses : List Use) :
    let s := (start program).after uses
    (∀ address, s.status.text = "Breakpoint at PC=" ++ Text.hexByte address →
        s.isRunning = false ∧ address ∈ s.breakpoints ∧ s.cpu.counter = address ∧
          (s.cpu.state = .running ∨ s.cpu.state = .halted ∧ s.cpu.fetch = .ok .hlt)) ∧
      (s.isRunning = true →
        (∀ address, s.tick.status.text = "Breakpoint at PC=" ++ Text.hexByte address →
          (s.tick.cpu.state = .running ↔ s.cpu.fetch ≠ .ok .hlt)) ∧
        (s.cpu.state = .halted → s.tick.isRunning = false ∧ s.tick.cpu = s.cpu ∧
          s.tick.status.text =
            "Stopped after " ++ Nat.repr s.cpu.cycles.toNat ++ " cycles: Halted") ∧
        (s.cpu.state = .running → s.tick.status ≠ .aborted → s.tick.cpu.state = .halted →
          (s.cpu.counter ∉ s.breakpoints → s.tick.isRunning = true ∧
            s.tick.tick.isRunning = false ∧ s.tick.tick.cpu = s.tick.cpu ∧
            s.tick.tick.status.text =
              "Stopped after " ++ Nat.repr s.tick.cpu.cycles.toNat ++ " cycles: Halted") ∧
          (s.cpu.counter ∈ s.breakpoints → s.tick.isRunning = false ∧ s.tick.tick = s.tick ∧
            s.tick.status.text = "Breakpoint at PC=" ++ Text.hexByte s.tick.cpu.counter))) := by
  intro s
  have truthful : s.Truthful := truthful_after program uses
  refine ⟨fun address announced => ?_, fun going => ⟨fun address announced => ?_, ?_, ?_⟩⟩
  · rw [Status.text_eq_breakpoint_iff] at announced
    rwa [Truthful, announced] at truthful
  · exact running_of_tick_at_breakpoint going (Status.text_eq_breakpoint_iff.mp announced)
  · intro halted
    refine ⟨?_, ?_, text_of_halted going halted⟩
    all_goals rw [tick_of_halted going halted]
  · intro running returned halted
    obtain ⟨place, kept, announced⟩ := tick_that_halts going running returned halted
    refine ⟨fun pass => ?_, fun stop => ?_⟩
    · have still : s.tick.isRunning = true := by rw [kept, decide_eq_true pass]
      refine ⟨still, ?_, ?_, text_of_halted still halted⟩
      all_goals rw [tick_of_halted still halted]
    · have ended : s.tick.isRunning = false := by rw [kept, decide_eq_false (not_not.mpr stop)]
      refine ⟨ended, if_pos ended, ?_⟩
      rw [announced stop, place]
      rfl

/-- A breakpoint in front of a `HLT`, to which continuous execution comes and from which it goes on. -/
theorem stop_and_halt_at_breakpoint :
    let s := (start [0x82, 0, 8, 0x01]).after [.act (.setBreakpoint 3), .act .run, .act .tick]
    let t := s.after [.act .run]
    s.status.text = "Breakpoint at PC=03" ∧ s.cpu.counter = 3 ∧ s.cpu.state = .running ∧
      t.isRunning = true ∧ t.tick.cpu.state = .halted ∧ t.tick.isRunning = false ∧
      t.tick.tick = t.tick ∧ t.tick.status.text = "Breakpoint at PC=03" := by
  intro s t
  obtain ⟨announced, -⟩ := breakpoint_stops_and_halts [0x82, 0, 8, 0x01]
    [.act (.setBreakpoint 3), .act .run, .act .tick]
  obtain ⟨-, going⟩ := breakpoint_stops_and_halts [0x82, 0, 8, 0x01]
    [.act (.setBreakpoint 3), .act .run, .act .tick, .act .run]
  have text : s.status.text = "Breakpoint at PC=03" := by decide
  obtain ⟨-, -, place, -⟩ := announced 3 (text.trans (by decide))
  have running : t.isRunning = true := by decide
  have halted : t.tick.cpu.state = .halted := by decide
  obtain ⟨-, -, halts⟩ := going running
  obtain ⟨ended, still, words⟩ := (halts (by decide) (by decide) halted).2 (by decide)
  exact ⟨text, place, by decide, running, halted, ended, still, words.trans (by decide)⟩

/-- A machine that halts at a breakpoint has not stopped in front of the instruction there, and however
many ticks follow, the session does not say that the machine has halted. -/
theorem halt_at_breakpoint_unannounced :
    let s := (start [0x01]).after [.act .toggleBreakpoint]
    ∀ n, 0 < n → (s.after (runFor n)).cpu.state = .halted ∧
      (s.after (runFor n)).isRunning = false ∧
      (s.after (runFor n)).status.text = "Breakpoint at PC=00" ∧
      (s.after (runFor n)).status.text ≠ "Stopped after 1 cycles: Halted" := by
  intro s n positive
  have ended : (s.after (runFor 1)).isRunning = false := by decide
  rw [after_runFor_of_le positive ended]
  decide

end Session

end Debugger

end Ls8
