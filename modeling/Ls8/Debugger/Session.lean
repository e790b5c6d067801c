import Ls8.Listing
import Ls8.Machine.Run
import Ls8.Text.Utf8

/-! # Debugging sessions

A session holds a machine, the program that it was started with, breakpoints, and what a person at
the screen sees besides: a status and a scroll position. Continuous execution is a sequence of
ticks, each of at most one instruction; after every instruction the session looks for a breakpoint
at the new program counter. -/

namespace Ls8.Debugger

/-- What the session last had to say. -/
inductive Status
  | ready
  | reset
  | loadFailed (e : LoadError)
  | notRunning (state : RunState)
  | executed (counter : UInt8) (i : Instruction Register)
  | failed (e : CpuError)
  | running
  | paused
  | finished (cycles : UInt64) (state : RunState)
  | atBreakpoint (counter : UInt8)
  | breakpointSet (counter : UInt8)
  | breakpointRemoved (counter : UInt8)
  /-- A step has panicked. This ends the program, so it is not said to anybody. -/
  | aborted
  deriving DecidableEq

/-- A status in words. The last is made up: it stands for a screen that is no longer there. -/
def Status.text : Status → String
  | ready => "Ready. Press 's' to step, 'r' to run, 'q' to quit."
  | reset => "Reset. Ready."
  | loadFailed e => "Error: " ++ e.message
  | notRunning state => "CPU stopped: " ++ state.name
  | executed counter i => "PC=" ++ Text.hexByte counter ++ ": " ++ i.text
  | failed e => "Error: " ++ e.message
  | running => "Running..."
  | paused => "Paused."
  | finished cycles state =>
    "Stopped after " ++ Nat.repr cycles.toNat ++ " cycles: " ++ state.name
  | atBreakpoint counter => "Breakpoint at PC=" ++ Text.hexByte counter
  | breakpointSet counter => "Set breakpoint at PC=" ++ Text.hexByte counter
  | breakpointRemoved counter => "Removed breakpoint at PC=" ++ Text.hexByte counter
  | aborted => "Aborted."

/-- A debugging session. -/
structure Session where
  cpu : Cpu
  program : List UInt8
  breakpoints : List UInt8
  isRunning : Bool
  status : Status
  /-- The first row of memory on the screen. -/
  scroll : Nat
  output : Array UInt8
  deriving DecidableEq

/-- A line of code on the screen: its address, its text, and whether it is the next to execute. -/
structure CodeLine where
  address : UInt8
  text : String
  isCurrent : Bool
  deriving DecidableEq, Repr

/-- The number of rows of memory, of sixteen cells each. -/
def memoryRows : Nat := 16

namespace Session

/-- A machine with a program loaded, if it fits, and what there is to say about it. -/
def loaded (c : Cpu) (program : List UInt8) (success : Status) : Cpu × Status :=
  match (Cpu.load program).run c with
  | .ok () next => (next, success)
  | .error e next => (next, .loadFailed e)

/-- A session with a program. -/
def start (program : List UInt8) : Session :=
  let (cpu, status) := loaded (.powerOn .wrap) program .ready
  { cpu, program, breakpoints := [], isRunning := false, status, scroll := 0, output := #[] }

/-- Executes one instruction. -/
def step (s : Session) : Session :=
  if s.cpu.state = .running then
    let out := s.cpu.step Host.collector s.output
    match out.result with
    | .ok i =>
      { s with cpu := out.cpu, output := out.host, status := .executed s.cpu.counter i }
    | .error e =>
      { s with cpu := out.cpu, output := out.host, status := .failed e, isRunning := false }
    | .panicked =>
      { s with cpu := out.cpu, output := out.host, status := .aborted, isRunning := false }
  else { s with status := .notRunning s.cpu.state, isRunning := false }

/-- Starts continuous execution. -/
def run (s : Session) : Session := { s with isRunning := true, status := .running }

/-- Ends continuous execution. -/
def pause (s : Session) : Session := { s with isRunning := false, status := .paused }

/-- Ends continuous execution if it has come to a breakpoint. -/
def stopAtBreakpoint (s : Session) : Session :=
  if s.isRunning ∧ s.cpu.counter ∈ s.breakpoints then
    { s with isRunning := false, status := .atBreakpoint s.cpu.counter }
  else s

/-- One tick of continuous execution. The tick after the machine has stopped ends it. -/
def tick (s : Session) : Session :=
  if s.isRunning = false then s
  else if s.cpu.state = .running then s.step.stopAtBreakpoint
  else { s with isRunning := false, status := .finished s.cpu.cycles s.cpu.state }

/-- Sets a breakpoint. -/
def setBreakpoint (s : Session) (address : UInt8) : Session :=
  { s with breakpoints := s.breakpoints.insert address }

/-- Sets a breakpoint at the program counter, or removes the one that is there. -/
def toggleBreakpoint (s : Session) : Session :=
  let counter := s.cpu.counter
  if counter ∈ s.breakpoints then
    { s with
      breakpoints := s.breakpoints.filter (· ≠ counter)
      status := .breakpointRemoved counter }
  else { s.setBreakpoint counter with status := .breakpointSet counter }

/-- Starts the program again; breakpoints and scroll position stay. -/
def reset (s : Session) : Session :=
  let (cpu, status) := loaded s.cpu.reset s.program .reset
  { s with cpu, status, isRunning := false, output := #[] }

/-- Scrolls the memory by one row. -/
def scrollMemory (s : Session) (down : Bool) : Session :=
  { s with scroll := if down then min (s.scroll + 1) (memoryRows - 1) else s.scroll - 1 }

/-- What a person can do in a session. -/
inductive Action
  | step
  | run
  | pause
  | tick
  | toggleBreakpoint
  | setBreakpoint (address : UInt8)
  | scroll (down : Bool)
  | reset
  deriving DecidableEq, Repr

/-- The session after an action. -/
def act (s : Session) : Action → Session
  | .step => s.step
  | .run => s.run
  | .pause => s.pause
  | .tick => s.tick
  | .toggleBreakpoint => s.toggleBreakpoint
  | .setBreakpoint address => s.setBreakpoint address
  | .scroll down => s.scrollMemory down
  | .reset => s.reset

/-- The breakpoints in the order of their addresses. -/
def sortedBreakpoints (s : Session) : List UInt8 :=
  ((List.range 256).map UInt8.ofNat).filter (· ∈ s.breakpoints)

/-- Everything that the program has printed, as text. -/
def outputText (s : Session) : List Char := Text.Utf8.decodeLenient s.output.toList

/-- Up to `count` lines of code decoded from memory one after the other. -/
def codeFrom (m : Memory) (counter : UInt8) : UInt8 → Nat → List CodeLine
  | _, 0 => []
  | address, count + 1 =>
    let (text, size) := m.disassemble address
    ⟨address, text, address == counter⟩ :: codeFrom m counter (address + UInt8.ofNat size) count

/-- Up to `count` lines of code around the program counter. If it is where an instruction of the
program begins they come from the listing of the program, with half of them before it; otherwise
they are decoded from memory, beginning with it. -/
def code (s : Session) (count : Nat) : List CodeLine :=
  let counter := s.cpu.counter
  let sweep := listing s.program
  match sweep.findIdx? (·.address == counter.toNat) with
  | some current =>
    ((sweep.drop (current - count / 2)).take count).map fun line =>
      ⟨UInt8.ofNat line.address, line.text, line.address == counter.toNat⟩
  | none => codeFrom s.cpu.memory counter counter count

end Session

end Ls8.Debugger
