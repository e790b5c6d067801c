import Ls8.Machine.Interchange
import Ls8.Main
import Ls8.Proofs.Assembly.Layout
import Ls8.Proofs.Assembly.Literals
import Ls8.Proofs.Assembly.Patching
import Ls8.Proofs.Command.AssembledFile
import Ls8.Proofs.Command.Configuration
import Ls8.Proofs.Command.Loading
import Ls8.Proofs.Command.Running
import Ls8.Proofs.Command.Trace
import Ls8.Proofs.Debugger.Breakpoints
import Ls8.Proofs.Debugger.Code
import Ls8.Proofs.Debugger.Reset
import Ls8.Proofs.Debugger.Statuses
import Ls8.Proofs.Debugger.View
import Ls8.Proofs.Debugger.Window
import Ls8.Proofs.Disassembly
import Ls8.Proofs.InstructionStream
import Ls8.Proofs.LineEnds
import Ls8.Proofs.Listing
import Ls8.Proofs.Machine.Budget
import Ls8.Proofs.Machine.Cycles
import Ls8.Proofs.Machine.Failure
import Ls8.Proofs.Machine.Images
import Ls8.Proofs.Machine.InstructionTable
import Ls8.Proofs.Machine.Interchange
import Ls8.Proofs.Machine.Lifecycle
import Ls8.Proofs.Machine.LimitedOutput
import Ls8.Proofs.Machine.Modes
import Ls8.Proofs.Machine.Snapshot
import Ls8.Proofs.Machine.Stack
import Ls8.Proofs.Machine.StraightLine
import Ls8.Proofs.Machine.UnusedCells
import Ls8.Proofs.OutputText
import Ls8.Proofs.ProgramText
import Ls8.Proofs.Workbench
import Ls8.Workbench
