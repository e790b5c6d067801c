import Ls8.Debugger.Session

/-! # Keys

What the keys of a debugging session do. -/

namespace Ls8.Debugger

/-- A key of a debugging session. -/
inductive Key
  | char (c : Char)
  | up
  | down
  deriving DecidableEq, Repr

/-- The keys in a text, in which a terminal writes an arrow as three characters. -/
def Key.ofText : List Char → List Key
  | '\x1b' :: '[' :: 'A' :: rest => up :: ofText rest
  | '\x1b' :: '[' :: 'B' :: rest => down :: ofText rest
  | c :: rest => char c :: ofText rest
  | [] => []

/-- Whether a key ends the session. -/
def Key.quits (key : Key) : Bool := key == .char 'q'

/-- The session after a key. A step ends continuous execution first. -/
def Session.press (s : Session) : Key → Session
  | .char 's' => Session.step { s with isRunning := false }
  | .char 'r' => s.run
  | .char 'p' => s.pause
  | .char 'b' => s.toggleBreakpoint
  | .char 'x' => s.reset
  | .up => s.scrollMemory false
  | .down => s.scrollMemory true
  | .char _ => s

/-- The session after at most `count` ticks of continuous execution. -/
def Session.ticks (s : Session) : Nat → Session
  | 0 => s
  | count + 1 => if s.isRunning then s.tick.ticks count else s

end Ls8.Debugger
