import Ls8.Text.Numeral

/-! # Invocations

What a command line asks for. The first argument names the action; behind it stand its options, in
any order, and its one operand. Arguments are read from left to right, and the first one that is
wrong, or that asks for help, decides. -/

namespace Ls8.Command

/-- What a person can ask for by name. -/
inductive Action
  | run
  | debug
  | assemble
  | disassemble
  deriving DecidableEq, Repr

/-- The options of all actions. -/
inductive Switch
  | maxCycles
  | trace
  | strict
  | config
  | dumpState
  | output
  deriving DecidableEq, Repr

/-- The name of an action on the command line. -/
def Action.name : Action → String
  | run => "run"
  | debug => "debug"
  | assemble => "asm"
  | disassemble => "disasm"

/-- All actions. -/
def Action.all : List Action := [run, debug, assemble, disassemble]

/-- The action with a name. -/
def Action.ofName? (word : String) : Option Action := all.find? (·.name == word)

/-- The options of an action. -/
def Action.switches : Action → List Switch
  | run => [.maxCycles, .trace, .strict, .config, .dumpState]
  | assemble => [.output]
  | debug | disassemble => []

/-- The long name of an option. -/
def Switch.long : Switch → String
  | maxCycles => "max-cycles"
  | trace => "trace"
  | strict => "strict"
  | config => "config"
  | dumpState => "dump-state"
  | output => "output"

/-- The letter of an option. -/
def Switch.short? : Switch → Option Char
  | maxCycles => some 'm'
  | trace => some 't'
  | strict => some 's'
  | config => some 'c'
  | dumpState => none
  | output => some 'o'

/-- Whether an option has a value. -/
def Switch.takesValue : Switch → Bool
  | maxCycles | config | output => true
  | trace | strict | dumpState => false

/-- What is wrong with a command line. -/
inductive UsageError
  | unknownAction (word : String)
  | unexpected (argument : String)
  | unexpectedValue (name : String)
  | missingValue (option : Switch)
  | invalidValue (option : Switch) (value : String)
  | repeated (option : Switch)
  | missingOperand (action : Action)
  deriving DecidableEq, Repr

/-- A usage error in words. -/
def UsageError.message : UsageError → String
  | unknownAction word => "unknown command '" ++ word ++ "'"
  | unexpected argument => "unexpected argument '" ++ argument ++ "'"
  | unexpectedValue name => "the option '--" ++ name ++ "' takes no value"
  | missingValue option => "the option '--" ++ option.long ++ "' needs a value"
  | invalidValue option value =>
    "invalid value '" ++ value ++ "' for the option '--" ++ option.long ++ "'"
  | repeated option => "the option '--" ++ option.long ++ "' is given more than once"
  | missingOperand action => "the command '" ++ action.name ++ "' needs a file"

/-- The settings of a run that the command line gives. -/
structure RunOptions where
  program : String
  maxCycles : Option UInt64 := none
  trace : Bool := false
  strict : Bool := false
  config : Option String := none
  dumpState : Bool := false
  deriving DecidableEq, Repr

/-- What a command line asks for. -/
inductive Invocation
  | banner
  | version
  | help
  | run (options : RunOptions)
  | debug (program : String)
  | assemble (source : String) (output : Option String)
  | disassemble (program : String)
  deriving DecidableEq, Repr

/-! ## Arguments of an action -/

/-- Why the reading of arguments ends before the last. -/
inductive Stop
  | help
  | usage (e : UsageError)
  deriving DecidableEq, Repr

/-- The arguments of an action as far as they have been read: the options with their values, the
operand, the option that still waits for its value, and whether only operands may follow. -/
structure Arguments where
  given : List (Switch × String) := []
  operand : Option String := none
  pending : Option Switch := none
  operandsOnly : Bool := false
  deriving DecidableEq, Repr

/-- The number of cycles that a value writes. -/
def readCycles? (value : List Char) : Option UInt64 :=
  (Text.readBelow? UInt64.size value).map UInt64.ofNat

namespace Arguments

/-- Takes up an operand. -/
def addOperand (s : Arguments) (argument : List Char) : Except Stop Arguments :=
  match s.operand with
  | some _ => throw (.usage (.unexpected (String.ofList argument)))
  | none => return { s with operand := some (String.ofList argument) }

/-- Takes up an option with its value. -/
def add (s : Arguments) (option : Switch) (value : List Char) : Except Stop Arguments :=
  if (s.given.lookup option).isSome then throw (.usage (.repeated option))
  else if option = .maxCycles ∧ (readCycles? value).isNone then
    throw (.usage (.invalidValue option (String.ofList value)))
  else return { s with given := s.given ++ [(option, String.ofList value)], pending := none }

/-- Takes up what stands behind two hyphens. -/
def addLong (a : Action) (s : Arguments) (text : List Char) : Except Stop Arguments :=
  let name := String.ofList (text.takeWhile (· ≠ '='))
  let value := (text.dropWhile (· ≠ '=')).tail?
  match a.switches.find? (·.long == name), value with
  | some option, some value =>
    if option.takesValue then s.add option value else throw (.usage (.unexpectedValue name))
  | some option, none =>
    if option.takesValue then return { s with pending := some option } else s.add option []
  | none, some _ =>
    throw (.usage (if name = "help" then .unexpectedValue name else .unexpected ("--" ++ name)))
  | none, none => throw (if name = "help" then .help else .usage (.unexpected ("--" ++ name)))

/-- Takes up the letters behind one hyphen. The letter of an option with a value ends the letters:
what follows it is the value. -/
def addLetters (a : Action) (s : Arguments) : List Char → Except Stop Arguments
  | [] => return s
  | letter :: rest =>
    match a.switches.find? (·.short? == some letter) with
    | some option =>
      if option.takesValue then
        match rest with
        | [] => return { s with pending := some option }
        | '=' :: value => s.add option value
        | value => s.add option value
      else do addLetters a (← s.add option []) rest
    | none => throw (if letter = 'h' then .help else .usage (.unexpected ("-" ++ letter.toString)))

/-- Whether an argument has the form of an option. -/
def isOption : List Char → Bool
  | '-' :: _ :: _ => true
  | _ => false

/-- Takes up one argument. -/
def addArgument (a : Action) (s : Arguments) (argument : List Char) : Except Stop Arguments :=
  if s.operandsOnly then s.addOperand argument
  else match s.pending with
    | some option =>
      if isOption argument then throw (.usage (.missingValue option)) else s.add option argument
    | none =>
      match argument with
      | ['-', '-'] => return { s with operandsOnly := true }
      | '-' :: '-' :: text => s.addLong a text
      | '-' :: letter :: letters => s.addLetters a (letter :: letters)
      | operand => s.addOperand operand

/-- The operand when all arguments have been read. -/
def close (a : Action) (s : Arguments) : Except Stop String :=
  match s.pending, s.operand with
  | some option, _ => throw (.usage (.missingValue option))
  | none, some operand => return operand
  | none, none => throw (.usage (.missingOperand a))

/-- The value of an option. -/
def value? (s : Arguments) (option : Switch) : Option String := s.given.lookup option

/-- The invocation of an action with an operand. -/
def invocation (s : Arguments) (operand : String) : Action → Invocation
  | .run => .run {
      program := operand
      maxCycles := (s.value? .maxCycles).bind fun value => readCycles? value.toList
      trace := (s.value? .trace).isSome
      strict := (s.value? .strict).isSome
      config := s.value? .config
      dumpState := (s.value? .dumpState).isSome }
  | .debug => .debug operand
  | .assemble => .assemble operand (s.value? .output)
  | .disassemble => .disassemble operand

end Arguments

namespace Invocation

/-- The invocation of an action with its arguments. -/
def ofAction (a : Action) (arguments : List String) : Except Stop Invocation := do
  let s ← arguments.foldlM (fun (s : Arguments) word => s.addArgument a word.toList) {}
  return s.invocation (← s.close a) a

/-- Whether there is help about what the words behind `help` name. -/
def hasHelp : List String → Bool
  | [] => true
  | [word] => word == "help" || (Action.ofName? word).isSome
  | _ => false

/-- The invocation that begins with a word which names no action. -/
def ofOption (word : String) : Except Stop Invocation :=
  match word.toList with
  | ['-', '-', 'h', 'e', 'l', 'p'] => throw .help
  | ['-', '-', 'v', 'e', 'r', 's', 'i', 'o', 'n'] => return .version
  | '-' :: 'h' :: _ => throw .help
  | '-' :: 'V' :: _ => return .version
  | _ =>
    throw (.usage
      (if Arguments.isOption word.toList then .unexpected word else .unknownAction word))

/-- The invocation of a command line, or where its reading stopped. -/
def ofWords : List String → Except Stop Invocation
  | [] | ["--"] => return .banner
  | "--" :: word :: _ => throw (.usage (.unexpected word))
  | "help" :: words =>
    if hasHelp words then throw .help
    else throw (.usage (.unknownAction (words.getLast?.getD "")))
  | word :: arguments =>
    match Action.ofName? word with
    | some a => ofAction a arguments
    | none => ofOption word

/-- The invocation of a command line. -/
def ofArguments (arguments : List String) : Except UsageError Invocation :=
  match ofWords arguments with
  | .ok invocation => .ok invocation
  | .error .help => .ok .help
  | .error (.usage e) => .error e

end Invocation

end Ls8.Command
