import Ls8.Command.Behaviour
import Ls8.Debugger.Keys
import Ls8.Debugger.View

/-! # The program

Follows the script of its command line in the real world. A run is made in slices, so that what it
prints appears while it goes on. -/

namespace Ls8.Program

open Command (ExitCode Report Script)

/-- What a machine hands to the world while it runs. -/
inductive Emission
  | output (bytes : List UInt8)
  | report (r : Report)

/-- The host that keeps what a machine emits in order, as far as a filter admits it. -/
def emissions (filter : Log.Filter) : Host (Array Emission) :=
  { write := fun s bytes => (s.push (.output bytes), none)
    log := fun s event =>
      if filter.admits (.machine event) then s.push (.report (.log (.machine event))) else s }

/-- Prints bytes. -/
def printBytes (bytes : List UInt8) : IO Unit := do
  let out ← IO.getStdout
  out.write ⟨bytes.toArray⟩
  out.flush

/-- Prints a report. -/
def printReport (r : Report) : IO Unit := IO.eprint r.text

/-- Hands to the world what a machine has emitted. -/
def emit : Emission → IO Unit
  | .output bytes => printBytes bytes
  | .report r => printReport r

/-- The number of steps in a slice of a run. -/
def sliceSize : Nat := 4096

/-- Lets a machine run in slices, up to a limit of the cycle counter if there is one. -/
partial def runSlices (filter : Log.Filter) (c : Cpu) (limit : Option UInt64) :
    IO (Ending × Cpu) := do
  let count := match limit with
    | some limit => min (limit.toNat - c.cycles.toNat) sliceSize
    | none => sliceSize
  let run := c.steps (emissions filter) count #[]
  run.host.forM emit
  if run.ending = .spent ∧ limit ≠ some run.cpu.cycles then runSlices filter run.cpu limit
  else return (run.ending, run.cpu)

/-- The error with a number of the operating system, which may be given as a negative word. -/
def numbered (code : UInt32) (details : String) : FileError :=
  match (if code < 0x80000000 then code else 0 - code).toNat with
  | 2 => .notFound
  | 20 => .notDirectory
  | 21 => .isDirectory
  | 36 => .nameTooLong
  | number => .system details number

/-- What an error of the operating system says about a file. -/
def describe : IO.Error → FileError
  | .noFileOrDirectory .. => .notFound
  | .alreadyExists _ code details | .invalidArgument _ code details
  | .permissionDenied _ code details | .resourceExhausted _ code details
  | .inappropriateType _ code details | .noSuchThing _ code details
  | .otherError code details | .resourceBusy code details => numbered code details
  | e => .system (toString e) 0

/-- Does something with a file. -/
def attempt {α : Type} (action : IO α) : IO (Except FileError α) := do
  match ← action.toBaseIO with
  | .ok a => return .ok a
  | .error e => return .error (describe e)

/-- Draws a debugging session. -/
def display (s : Debugger.Session) : IO Unit := do
  IO.print "\x1b[2J\x1b[H"
  for row in s.draw 80 24 do
    IO.println (Debugger.rowText row)
  (← IO.getStdout).flush

/-- The number of ticks that continuous execution gets between two lines of keys. -/
def ticksPerLine : Nat := 4096

/-- A debugging session: draws, and takes the keys on the next line, until one of them ends it or the
machine panics. -/
partial def session (s : Debugger.Session) : IO ExitCode := do
  let s := s.ticks ticksPerLine
  if s.status = .aborted then return .aborted
  display s
  let line ← (← IO.getStdin).getLine
  let keys := Debugger.Key.ofText line.toList
  if line.isEmpty || keys.any (·.quits) then return .success
  session (keys.foldl (fun s key => s.press key) s)

/-- Follows a script. -/
def follow : Script → IO ExitCode
  | .exit code => return code
  | .print text next => do
    IO.print text
    follow next
  | .report r next => do
    printReport r
    follow next
  | .read path next => do
    let content ← attempt (IO.FS.readBinFile path)
    follow (next (content.map (·.toList)))
  | .write path content next => do
    let written ← attempt (IO.FS.writeBinFile path ⟨content.toArray⟩)
    follow (next written)
  | .run c budget filter next => do
    let (ending, final) ← runSlices filter c (budget.map (saturatingAdd c.cycles))
    follow (next (c.counted ⟨ending, final, ()⟩).result final)
  | .debug program => session (.start program)

end Ls8.Program

/-- The command `ls8-emu`. -/
def main (arguments : List String) : IO UInt32 := do
  let setting ← IO.getEnv Ls8.Command.settingVariable
  let code ← Ls8.Program.follow (Ls8.Command.script arguments setting)
  return UInt32.ofNat code.number
