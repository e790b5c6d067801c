import Ls8.Debugger.Screen
import Ls8.Debugger.Session
import Ls8.Text.Lines

/-! # The view of a session

A session on a screen of two columns. On the left the code around the program counter, the
registers, and the status; on the right the memory, the last lines of output, and a reminder of the
keys. -/

namespace Ls8.Debugger

namespace Session

/-- One line of code; the mark in front shows a breakpoint, the arrow the next instruction. -/
def codeRow (s : Session) (line : CodeLine) : Row :=
  let hasBreakpoint := line.address ∈ s.breakpoints
  let style : Style :=
    if line.isCurrent then { colour := .yellow, bold := true }
    else if hasBreakpoint then { colour := .red }
    else {}
  { glyphs := styled style ((if hasBreakpoint then "●" else " ") ++ " " ++
      (if line.isCurrent then "▶ " else "  ") ++ Text.hexByte line.address ++ ": " ++ line.text)
    fill := style }

/-- The box with the code. -/
def codeBox (s : Session) (width height : Nat) : Screen :=
  box " Disassembly " { colour := .cyan } {} width height ((s.code (height - 2)).map s.codeRow)

/-- A register in hexadecimal and decimal. -/
def registerGlyphs (s : Session) (r : Register) : List Glyph :=
  let value := s.cpu.get r
  plain (registerText r ++ ": ") ++ styled { colour := .white } (Text.hexByte value ++ " ") ++
    plain ("(" ++ Text.alignRight 3 (Text.decimalByte value) ++ ")  ")

/-- The box with the registers. -/
def registerBox (s : Session) (width height : Nat) : Screen :=
  let rs := s.cpu.registers
  let isRunning := s.cpu.state = .running
  box " Registers " { colour := .green } {} width height [
    ⟨(Register.all.take 4).flatMap s.registerGlyphs, {}⟩,
    ⟨(Register.all.drop 4).flatMap s.registerGlyphs, {}⟩,
    ⟨plain "PC: " ++ styled { colour := .yellow } (Text.hexByte rs.counter) ++
      plain "   SP: " ++ styled { colour := .magenta } (Text.hexByte rs.stackPointer) ++
      plain "   FL: " ++
      styled { colour := if rs.flag then .green else .gray } (Nat.repr rs.flagBit), {}⟩,
    ⟨plain "Cycles: " ++ styled { colour := .cyan } (Nat.repr s.cpu.cycles.toNat) ++
      plain "   State: " ++
      styled { colour := if isRunning then .green else .red } s.cpu.state.name, {}⟩]

/-- The box with the status. -/
def statusBox (s : Session) (width height : Nat) : Screen :=
  let style : Style := { colour := .white }
  box " Status " style style width height [⟨styled style s.status.text, style⟩]

/-- How a cell is shown: the program counter's before the stack pointer's before the others. -/
def cellStyle (s : Session) (address value : UInt8) : Style :=
  if address = s.cpu.counter then { colour := .yellow, bold := true }
  else if address = s.cpu.registers.stackPointer then { colour := .magenta, bold := true }
  else if value ≠ 0 then { colour := .white }
  else { colour := .darkGray }

/-- One row of memory: its address and sixteen cells. -/
def memoryRow (s : Session) (row : Nat) : Row :=
  let base := UInt8.ofNat (row * 16)
  { glyphs := plain (Text.hexByte base ++ ": ") ++
      (s.cpu.memory.dump base 16).flatMap fun (address, value) =>
        styled (s.cellStyle address value) (Text.hexByte value ++ " ") }

/-- The box with the memory from the scroll position on. -/
def memoryBox (s : Session) (width height : Nat) : Screen :=
  let rows := min (height - 2) (memoryRows - s.scroll)
  box " Memory " { colour := .magenta } {} width height
    ((List.range rows).map fun offset => s.memoryRow (s.scroll + offset))

/-- The box with the last lines of output. A line that is too wide goes on in the next row. -/
def outputBox (s : Session) (width height : Nat) : Screen :=
  let lines := Text.lines s.outputText
  box " Output " { colour := .blue } {} width height
    ((lines.drop (lines.length - (height - 2))).flatMap fun line =>
      (wrap (width - 2) (plain (String.ofList line))).map fun glyphs => ⟨glyphs, {}⟩)

/-- The box with the keys. -/
def helpBox (width height : Nat) : Screen :=
  let style : Style := { colour := .darkGray }
  box " Help " style style width height [
    ⟨styled style "s: Step  r: Run  p: Pause  b: Breakpoint", style⟩,
    ⟨styled style "x: Reset  ↑↓: Scroll memory  q: Quit", style⟩]

/-- The session on a screen of an even width and a height of at least 22 rows. -/
def draw (s : Session) (width height : Nat) : Screen :=
  let column := width / 2
  beside
    (s.codeBox column (height - 9) ++ s.registerBox column 6 ++ s.statusBox column 3)
    (s.memoryBox column (height - 12) ++ s.outputBox column 8 ++ helpBox column 4)

end Session

end Ls8.Debugger
