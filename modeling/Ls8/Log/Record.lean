import Ls8.Machine.Host

/-! # Log records

What is worth a line in the log: a program file that has been read, a program that has been loaded,
and the events of a machine. A record has a level, a target (the component that it comes from), a
message, and named fields. -/

namespace Ls8.Log

/-- How important a record is. -/
inductive Level
  | error
  | warn
  | info
  | debug
  | trace
  deriving DecidableEq, Repr

/-- The levels are numbered from the most important. -/
def Level.rank : Level → Nat
  | error => 1
  | warn => 2
  | info => 3
  | debug => 4
  | trace => 5

/-- The name of a level. -/
def Level.name : Level → String
  | error => "ERROR"
  | warn => "WARN"
  | info => "INFO"
  | debug => "DEBUG"
  | trace => "TRACE"

/-- What is worth a line in the log. -/
inductive Record
  | fileRead (path : String) (size : Nat)
  | programLoaded (base : UInt8) (size : Nat)
  | machine (event : Event)
  deriving DecidableEq

namespace Record

/-- The level of a record. -/
def level : Record → Level
  | fileRead .. | programLoaded .. => .debug
  | machine (.execute ..) => .trace
  | machine (.halted ..) => .info
  | machine (.stopped ..) => .warn

/-- The component that a record comes from. -/
def target : Record → String
  | fileRead .. => "ls8::asm::ls8"
  | programLoaded .. | machine _ => "ls8::cpu::execute"

/-- The message of a record. -/
def message : Record → String
  | fileRead .. => "ls8 file loaded"
  | programLoaded .. => "program loaded"
  | machine (.execute ..) => "execute"
  | machine (.halted ..) => "halted"
  | machine (.stopped ..) => "cpu stopped"

/-- The fields of a record besides the message. -/
def fields : Record → List (String × String)
  | fileRead path size => [("path", path), ("bytes", Nat.repr size)]
  | programLoaded base size => [("base", Text.decimalByte base), ("bytes", Nat.repr size)]
  | machine (.execute counter byte i) =>
    [("pc", Text.decimalByte counter), ("ir", Text.decimalByte byte), ("instr", i.text)]
  | machine (.halted counter cycles) =>
    [("pc", Text.decimalByte counter), ("cycles", Nat.repr cycles.toNat)]
  | machine (.stopped counter e) => [("pc", Text.decimalByte counter), ("error", e.message)]

/-- A record on one line. The time that stands in front of it in a log is not modelled. -/
def text (r : Record) : String :=
  r.fields.foldl (fun line (name, value) => line ++ " " ++ name ++ "=" ++ value)
    (r.level.name ++ " " ++ r.message)

end Record

end Ls8.Log
