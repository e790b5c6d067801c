import Ls8.Assembly.Image
import Ls8.Listing
import Ls8.Machine.Run
import Ls8.Machine.Snapshot
import Ls8.ProgramFile

/-! # Workbenches

A workbench is a machine for use inside another program: it keeps the program that it last loaded
and the text that the machine has printed. A program that does not assemble leaves it alone; a
program that does not fit has already switched the machine off and on. -/

namespace Ls8

/-- A machine with the program last loaded and what it has printed. -/
structure Workbench where
  cpu : Cpu
  program : List UInt8
  output : Array UInt8
  deriving DecidableEq

/-- Why an operation of a workbench failed. -/
inductive WorkbenchError
  | assembly (e : Assembly.Error)
  | load (e : LoadError)
  | cpu (e : CpuError)
  deriving DecidableEq, Repr

/-- An error in words. -/
def WorkbenchError.message : WorkbenchError → String
  | .assembly e => e.message
  | .load e => e.message
  | .cpu e => e.message

namespace Workbench

/-- A workbench with an empty program. -/
def new : Workbench := { cpu := .powerOn .wrap, program := [], output := #[] }

instance : Inhabited Workbench := ⟨new⟩

/-- Loads an image into a new machine. The result is its size. -/
def loadImage (w : Workbench) (image : List UInt8) : Except WorkbenchError Nat × Workbench :=
  match (Cpu.load image).run (.powerOn .wrap) with
  | .ok () cpu => (.ok image.length, { cpu, program := image, output := #[] })
  | .error e cpu => (.error (.load e), { w with cpu, output := #[] })

/-- Assembles a source text and loads its image. -/
def loadSource (w : Workbench) (source : String) : Except WorkbenchError Nat × Workbench :=
  match assemble source with
  | .ok image => w.loadImage image
  | .error e => (.error (.assembly e), w)

/-- Loads the program in the text of a program file. -/
def loadFile (w : Workbench) (source : String) : Except WorkbenchError Nat × Workbench :=
  w.loadImage (ProgramFile.parse source).bytes

/-- Executes one instruction. The result is the instruction. -/
def step (w : Workbench) : Result WorkbenchError (Instruction Register) × Workbench :=
  let out := w.cpu.step Host.collector w.output
  (out.result.mapError .cpu, { w with cpu := out.cpu, output := out.host })

/-- Runs for at most `budget` instructions. The result is the cycle counter. -/
def run (w : Workbench) (budget : UInt64) : Result WorkbenchError UInt64 × Workbench :=
  let out := w.cpu.runLimited Host.collector w.output budget
  ((out.result.mapError .cpu).map fun _ => out.cpu.cycles,
    { w with cpu := out.cpu, output := out.host })

/-- Starts the program again. -/
def reset (w : Workbench) : Except WorkbenchError Unit × Workbench :=
  match (Cpu.load w.program).run w.cpu.reset with
  | .ok () cpu => (.ok (), { w with cpu, output := #[] })
  | .error e cpu => (.error (.load e), { w with cpu, output := #[] })

/-- Everything that the machine has printed, as text. -/
def outputText (w : Workbench) : List Char := Text.Utf8.decodeLenient w.output.toList

/-- The state of the machine as JSON. -/
def stateJson (w : Workbench) : String := w.cpu.toJson.compact

/-- What can be done at a workbench. -/
inductive Action
  | loadSource (source : String)
  | loadFile (source : String)
  | step
  | run (budget : UInt64)
  | reset
  deriving DecidableEq, Repr

/-- The workbench after an action, whether it succeeded or not. -/
def act (w : Workbench) : Action → Workbench
  | .loadSource source => (w.loadSource source).2
  | .loadFile source => (w.loadFile source).2
  | .step => w.step.2
  | .run budget => (w.run budget).2
  | .reset => w.reset.2

end Workbench

end Ls8
