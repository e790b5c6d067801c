import Ls8.Config
import Ls8.Debugger.Keys
import Ls8.Proofs.Debugger.Execution
import Ls8.Proofs.Machine.Modes
import Ls8.Proofs.Machine.Requests

/-! # Resetting a session

A reset reads the program of a session and the overflow mode of its machine, and nothing else that
the machine depends on. Both are at any time what they were at the start, whatever has been done at
the session and whatever has been written over its machine; so a session that is reset has the
machine of a new session with its program. -/

namespace Ls8

/-- A machine that is reset is a new one with its overflow mode. -/
theorem Cpu.reset_eq_cpu {c : Cpu} {config : Config} (same : config.mode = c.mode) :
    c.reset = config.cpu := by
  rw [Config.cpu, same, reset_eq_powerOn]

namespace Debugger

/-- All that can happen to a session. -/
inductive Handling
  | use (use : Use)
  | press (key : Key)
  /-- To write over the machine, all of it but the overflow mode. -/
  | overwrite (cpu : Cpu)

namespace Session

variable {s : Session} {program : List UInt8}

/-- The session after something has happened to it. -/
def handle (s : Session) : Handling → Session
  | .use use => (s.use use).1
  | .press key => s.press key
  | .overwrite cpu => { s with cpu := { cpu with mode := s.cpu.mode } }

/-- The session after one thing after the other has happened to it. -/
def handled (s : Session) (handlings : List Handling) : Session := handlings.foldl handle s

/-- What a reset depends on: the session has this program, and its machine wraps. -/
structure Holds (program : List UInt8) (s : Session) : Prop where
  program : s.program = program
  wraps : s.cpu.mode = .wrap

/-! ## Programs and modes -/

theorem mode_loaded (c : Cpu) (program : List UInt8) (success : Status) :
    (loaded c program success).1.mode = c.mode := by
  rw [loaded, Cpu.run_load]
  by_cases fits : program.length ≤ memorySize
  · rw [if_pos fits]
  · rw [if_neg fits]

/-- What there is to say when a load succeeds does not change the machine. -/
theorem cpu_loaded (c : Cpu) (program : List UInt8) (success other : Status) :
    (loaded c program success).1 = (loaded c program other).1 := by
  rw [loaded, loaded]
  cases (Cpu.load program).run c <;> rfl

theorem mode_ahead (s : Session) (n : Nat) : (s.ahead n).1.mode = s.cpu.mode :=
  s.cpu.mode_reached Host.collector s.output n

theorem program_step (s : Session) : s.step.program = s.program := by
  unfold step
  split
  · simp only
    split <;> rfl
  · rfl

theorem program_tick (s : Session) : s.tick.program = s.program := by
  unfold tick
  split
  · rfl
  · split
    · unfold stopAtBreakpoint
      split <;> exact s.program_step
    · rfl

theorem program_act (s : Session) (action : Action) : (s.act action).program = s.program := by
  cases action with
  | step => exact s.program_step
  | tick => exact s.program_tick
  | toggleBreakpoint =>
    simp only [act, toggleBreakpoint]
    split <;> rfl
  | run | pause | setBreakpoint | scroll | reset => rfl

theorem mode_use (s : Session) (use : Use) : (s.use use).1.cpu.mode = s.cpu.mode := by
  by_cases resets : use = .act .reset
  · subst resets
    exact mode_loaded s.cpu.reset s.program .reset
  · have machine := congrArg Prod.fst (s.machine_use resets)
    exact (congrArg Cpu.mode machine).trans (s.mode_ahead _)

namespace Holds

theorem start (program : List UInt8) : Holds program (start program) :=
  ⟨rfl, mode_loaded (.powerOn .wrap) program .ready⟩

theorem use (holds : Holds program s) (use : Use) : Holds program (s.use use).1 where
  program := by
    rw [← holds.program]
    cases use with
    | act action => exact s.program_act action
    | code | draw => rfl
  wraps := (s.mode_use use).trans holds.wraps

/-- A key does what an action does, but that a step ends continuous execution first. -/
theorem press (holds : Holds program s) (key : Key) : Holds program (s.press key) := by
  unfold Session.press
  split
  · have paused : Holds program { s with isRunning := false } := ⟨holds.program, holds.wraps⟩
    exact paused.use (.act .step)
  · exact holds.use (.act .run)
  · exact holds.use (.act .pause)
  · exact holds.use (.act .toggleBreakpoint)
  · exact holds.use (.act .reset)
  · exact holds.use (.act (.scroll false))
  · exact holds.use (.act (.scroll true))
  · exact holds

theorem handle (holds : Holds program s) (handling : Handling) :
    Holds program (s.handle handling) := by
  cases handling with
  | use use => exact holds.use use
  | press key => exact holds.press key
  | overwrite cpu => exact ⟨holds.program, holds.wraps⟩

theorem handled (holds : Holds program s) (handlings : List Handling) :
    Holds program (s.handled handlings) := by
  induction handlings generalizing s with
  | nil => exact holds
  | cons handling rest ih => exact ih (holds.handle handling)

/-- A session that is reset is a new one, but for its breakpoints, its scroll position, and what it
says. -/
theorem reset_eq (holds : Holds program s) :
    s.reset = { Session.start program with
      breakpoints := s.breakpoints
      scroll := s.scroll
      status := (loaded (.powerOn .wrap) program .reset).2 } := by
  rw [reset, Cpu.reset_eq_powerOn, holds.wraps, holds.program, Session.start]
  simp only [cpu_loaded _ _ .reset .ready]

end Holds

/-! ## Programs that do not fit -/

theorem loaded_of_length_gt (oversized : memorySize < program.length) (success : Status) :
    loaded (.powerOn .wrap) program success =
      (.powerOn .wrap, .loadFailed ⟨program.length, memorySize⟩) := by
  rw [loaded, Cpu.run_load_powerOn, if_neg (Nat.not_le.mpr oversized)]

theorem start_of_length_gt (oversized : memorySize < program.length) :
    start program =
      { cpu := .powerOn .wrap, program, breakpoints := [], isRunning := false
        status := .loadFailed ⟨program.length, memorySize⟩, scroll := 0, output := #[] } := by
  rw [start, loaded_of_length_gt oversized]

/-- A reset erases what has been done at a session. Its machine is that of a new session with its
program, whatever the machine has executed and whatever has been written over it; nothing has been
printed, and nothing runs. Breakpoints, scroll position and program stay. If the program does not
fit, the memory holds zeros only, and the session says what a new one says. The same is true of
machines: reset and given an image, each answers and ends as a new one with its overflow mode. -/
theorem reset_erases_history (program : List UInt8) (handlings : List Handling) :
    let new := start program
    let s := new.handled handlings
    (s.reset.cpu = new.cpu ∧ s.reset.output = #[] ∧ s.reset.isRunning = false ∧
      s.reset.breakpoints = s.breakpoints ∧ s.reset.scroll = s.scroll ∧
      s.reset.program = s.program ∧ s.program = program) ∧
    (memorySize < program.length →
      (∀ address, s.reset.cpu.memory.read address = 0) ∧ s.reset.status = new.status ∧
        s.reset.status.text = "Error: " ++ LoadError.message ⟨program.length, memorySize⟩) ∧
    ∀ (c : Cpu) (config : Config) (image : List UInt8), config.mode = c.mode →
      ∀ {σ : Type} (host : Host σ) (t : σ),
        let again := c.serveAll host t [.reset, .loadAt 0 image]
        let fresh := config.cpu.serve host t (.loadAt 0 image)
        again.answers = [.done, fresh.answer] ∧ again.cpu = fresh.cpu := by
  intro new s
  have holds : Holds program s := (Holds.start program).handled handlings
  refine ⟨?_, fun oversized => ?_, fun c config image same σ host t => ?_⟩
  · rw [holds.reset_eq]
    exact ⟨rfl, rfl, rfl, rfl, rfl, holds.program.symm, holds.program⟩
  · rw [holds.reset_eq]
    simp only [new, start_of_length_gt oversized, loaded_of_length_gt oversized]
    exact ⟨Memory.read_zero, trivial, rfl⟩
  · simp only [Cpu.serveAll, Cpu.serve, Cpu.reset_eq_cpu same]
    exact ⟨trivial, trivial⟩

/-- A program of 300 bytes, in a session in which another program has been written over the machine
and has printed; and a trapping machine that has halted, given an image of two bytes. -/
theorem oversized_program_erased :
    let program := List.replicate 300 (1 : UInt8)
    let printing : Cpu :=
      { Cpu.powerOn .trap with memory := Memory.zero.place 0 [0x82, 0, 8, 0x47, 0, 0xff] }
    let s := (start program).handled
      [.overwrite printing, .press (.char 's'), .use (.act .run), .use (.act .tick),
        .use (.act .toggleBreakpoint), .use (.act .tick), .press .down]
    let halted : Cpu := { Cpu.powerOn .trap with state := .halted, cycles := 1, last := some .hlt }
    (s.output = #[56, 10] ∧ s.cpu.state = .error ∧ s.breakpoints = [5] ∧ s.scroll = 1) ∧
      s.reset.cpu = .powerOn .wrap ∧ s.reset.output = #[] ∧ s.reset.breakpoints = [5] ∧
      s.reset.scroll = 1 ∧
      s.reset.status.text = "Error: program size 300 exceeds available space 256" ∧
      (halted.serveAll Host.collector #[] [.reset, .loadAt 0 [0x47, 1]]).cpu =
        { Cpu.powerOn .trap with memory := Memory.zero.place 0 [0x47, 1] } := by
  intro program printing s halted
  have size : program.length = 300 := List.length_replicate
  have past : s.output = #[56, 10] ∧ s.cpu.state = .error ∧ s.breakpoints = [5] ∧ s.scroll = 1 := by
    decide +kernel
  obtain ⟨⟨cpu, output, -, breakpoints, scroll, -, -⟩, refused, machines⟩ :=
    reset_erases_history program
      [.overwrite printing, .press (.char 's'), .use (.act .run), .use (.act .tick),
        .use (.act .toggleBreakpoint), .use (.act .tick), .press .down]
  have oversized : memorySize < program.length := by
    rw [size]
    decide
  obtain ⟨-, -, text⟩ := refused oversized
  obtain ⟨-, again⟩ := machines halted { mode := .trap } [0x47, 1] rfl Host.collector #[]
  refine ⟨past, cpu.trans ?_, output, breakpoints.trans past.2.2.1, scroll.trans past.2.2.2,
    text.trans ?_, again⟩
  · exact congrArg Session.cpu (start_of_length_gt oversized)
  · rw [size]
    decide +kernel

end Session

end Debugger

end Ls8
