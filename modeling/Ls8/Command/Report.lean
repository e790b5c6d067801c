import Ls8.Assembly.Error
import Ls8.Command.Directory
import Ls8.Command.Invocation
import Ls8.Config
import Ls8.Log.Record

/-! # Reports

How a command ends, and what it says besides its output: log records, the reason of a failure, the
state of the machine, and the warning that a run has been cut short. -/

namespace Ls8.Command

/-- How a command ends. -/
inductive ExitCode
  | success
  | failure
  /-- A file could not be read, or the command line is wrong. -/
  | unusable
  | unknownOpcode
  /-- The command panicked. -/
  | aborted
  deriving DecidableEq, Repr

/-- The number of an exit code. -/
def ExitCode.number : ExitCode → Nat
  | success => 0
  | failure => 1
  | unusable => 2
  | unknownOpcode => 3
  | aborted => 101

/-- Why a command fails. -/
inductive Failure
  | usage (e : UsageError)
  /-- The log could not be set up: a panic. -/
  | logSetting
  | configUnreadable (path : String) (e : FileError)
  | config (e : ConfigError)
  | sourceUnreadable (path : String) (e : FileError)
  | programUnreadable (path : String) (e : FileError)
  | assembly (e : Assembly.Error)
  | load (e : LoadError)
  | notSaved (path : String) (e : FileError)
  | machine (e : CpuError)
  /-- The cycle counter of the machine had no room for the last instruction: a panic. -/
  | cycleCounter
  deriving DecidableEq

/-- The exit code of a failure. -/
def Failure.exitCode : Failure → ExitCode
  | usage _ | sourceUnreadable .. | programUnreadable .. => .unusable
  | machine (.unknownOpcode ..) => .unknownOpcode
  | logSetting | cycleCounter => .aborted
  | _ => .failure

/-- That a path cannot be accessed, in words. -/
def inaccessible (path : String) (e : FileError) : String :=
  "cannot access " ++ path ++ ": " ++ e.message

/-- A failure in words. What a panic prints is not modelled, nor what is printed about a wrong command
line; their words here are made up. -/
def Failure.message : Failure → String
  | usage e => "error: " ++ e.message
  | logSetting => "the log setting would be cut inside a character"
  | configUnreadable path e => "cannot read config " ++ path ++ ": " ++ e.message
  | config e => e.message
  | sourceUnreadable path e => "Cannot open file " ++ path ++ ": " ++ e.message
  | programUnreadable path e => inaccessible path e
  | assembly e => "Assembly error: " ++ e.message
  | load e => "Failed to load program: " ++ e.message
  | notSaved path e => "Failed to save program: " ++ inaccessible path e
  | machine e => e.message
  | cycleCounter => "the cycle counter has overflowed"

/-- What a command says besides its output. -/
inductive Report
  | log (record : Log.Record)
  | failure (reason : Failure)
  | state (c : Cpu)
  /-- The budget of a run was used up before the machine stopped. -/
  | cutShort (cycles : UInt64)
  /-- The content of a file that was written among the reports. -/
  | content (bytes : List UInt8)
  deriving DecidableEq

/-- A report as it is written: lines in words, or a content as it is. -/
def Report.text : Report → String
  | log record => record.text ++ "\n"
  | failure reason => reason.message ++ "\n"
  | state c => c.toJson.indented ++ "\n"
  | cutShort cycles =>
    "Reached max cycles limit (" ++ Nat.repr cycles.toNat ++ "). Use --max-cycles to increase.\n"
  | content bytes => String.ofList (Text.Utf8.decodeLenient bytes)

end Ls8.Command
