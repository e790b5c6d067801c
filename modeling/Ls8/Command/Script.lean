import Ls8.Command.Report
import Ls8.Log.Filter
import Ls8.Machine.Run

/-! # Scripts

A script is what a command does to the world, step by step: it prints, reports, reads and writes
files, and lets a machine run. What it does next may depend on what it has read and on how a run
ended. `perform` says what a script means for the files of a directory; a program that talks to the
real world follows the same steps. -/

namespace Ls8.Command

/-- What a command does, up to its exit. -/
inductive Script
  | exit (code : ExitCode)
  | print (text : String) (next : Script)
  | report (report : Report) (next : Script)
  | read (path : String) (next : Except FileError (List UInt8) → Script)
  | write (path : String) (content : List UInt8) (next : Except FileError Unit → Script)
  /-- Lets a machine run, for ever or with a budget, and logs what a filter admits. -/
  | run (c : Cpu) (budget : Option UInt64) (filter : Log.Filter)
      (next : Result CpuError UInt64 → Cpu → Script)
  /-- Hands a program to a person at a screen. -/
  | debug (program : List UInt8)

/-- What a command finds and leaves behind: files, output, and reports. -/
structure Console where
  directory : Directory
  output : Array UInt8 := #[]
  reports : Array Report := #[]
  deriving DecidableEq

namespace Console

/-- The console after bytes have been printed. -/
def print (s : Console) (bytes : List UInt8) : Console := { s with output := s.output ++ bytes }

/-- The console after a report. -/
def report (s : Console) (r : Report) : Console := { s with reports := s.reports.push r }

/-- The host that prints on a console and logs what a filter admits. -/
def host (filter : Log.Filter) : Host Console :=
  { write := fun s bytes => (s.print bytes, none)
    log := fun s event =>
      if filter.admits (.machine event) then s.report (.log (.machine event)) else s }

/-- The console after a file has been written. -/
def wrote (s : Console) (written : Written) : Console :=
  let s := { s with directory := written.directory }.print written.output
  if written.errors.isEmpty then s else s.report (.content written.errors)

/-- The text of all reports. -/
def errorText (s : Console) : String := s.reports.foldl (fun text r => text ++ r.text) ""

end Console

/-- A run with a budget, or one of at most `fuel` steps. -/
def runWithin {σ : Type} (host : Host σ) (fuel : Nat) (c : Cpu) (s : σ) :
    Option UInt64 → Option (Counted σ)
  | some budget => some (c.runLimited host s budget)
  | none => c.run host fuel s

namespace Script

/-- Performs a script. There is no answer if a run without a budget needs more than `fuel` steps. -/
def perform (fuel : Nat) : Script → Console → Option (ExitCode × Console)
  | exit code, s => some (code, s)
  | print text next, s => next.perform fuel (s.print (Text.Utf8.encode text))
  | report r next, s => next.perform fuel (s.report r)
  | read path next, s => (next (s.directory.read path)).perform fuel s
  | write path content next, s =>
    match s.directory.write path content with
    | .ok written => (next (.ok ())).perform fuel (s.wrote written)
    | .error e => (next (.error e)).perform fuel s
  | run c budget filter next, s =>
    match runWithin (Console.host filter) fuel c s budget with
    | some out => (next out.result out.cpu).perform fuel out.host
    | none => none
  | debug _, s => some (.success, s)

/-- Reports the reason of a failure, and exits. -/
def fail (reason : Failure) : Script := report (.failure reason) (exit reason.exitCode)

/-- Logs a record if a filter admits it. -/
def log (filter : Log.Filter) (record : Log.Record) (next : Script) : Script :=
  if filter.admits record then report (.log record) next else next

end Script

end Ls8.Command
