import Ls8.Text.Numeral

/-! # Assembly errors

What can be wrong with a source text. Most errors are found on a line and carry its number; a label
that is never defined and a program that is too long are found when all lines have been read. -/

namespace Ls8.Assembly

/-- The ways to write a number. -/
inductive Radix
  | hexadecimal
  | binary
  | decimal
  deriving DecidableEq, Repr

/-- The number of digits of a radix. -/
def Radix.base : Radix → Nat
  | .hexadecimal => 16
  | .binary => 2
  | .decimal => 10

/-- The name of a radix in messages. -/
def Radix.name : Radix → String
  | .hexadecimal => "hex"
  | .binary => "binary"
  | .decimal => "decimal"

/-- What can be wrong with a line. -/
inductive LineError
  | invalidLabel (name : String)
  | labelPastEnd
  | invalidLiteral (radix : Radix) (operand : String)
  | originNotNumeric
  | unknownMnemonic (word : String)
  | invalidRegister (operand : String)
  | operandCount (expected found : Nat)
  | duplicateLabel (name : String)
  | valueOutOfRange (value : Int)
  deriving DecidableEq, Repr

/-- What can be wrong with a source text. -/
inductive Error
  | onLine (number : Nat) (cause : LineError)
  | undefinedLabel (number : Nat) (name : String)
  | programTooLarge (size : Nat)
  deriving DecidableEq, Repr

/-- An error with its place in words. -/
def Error.message : Error → String
  | .onLine number cause =>
    let place := " on line " ++ Nat.repr number ++ ": "
    match cause with
    | .invalidLabel name => "syntax error" ++ place ++ "invalid label name '" ++ name ++ "'"
    | .labelPastEnd => "syntax error" ++ place ++ "label past end of memory"
    | .invalidLiteral radix operand =>
      "syntax error" ++ place ++ "invalid " ++ radix.name ++ " literal '" ++ operand ++ "'"
    | .originNotNumeric => "syntax error" ++ place ++ "ORG requires a numeric address"
    | .unknownMnemonic word => "unknown mnemonic" ++ place ++ word
    | .invalidRegister operand => "invalid register" ++ place ++ operand
    | .operandCount expected found =>
      "wrong operand count" ++ place ++ "expected " ++ Nat.repr expected ++ ", found " ++
        Nat.repr found
    | .duplicateLabel name => "duplicate label" ++ place ++ name
    | .valueOutOfRange value => "value out of range" ++ place ++ Text.integer value
  | .undefinedLabel number name => "undefined label on line " ++ Nat.repr number ++ ": " ++ name
  | .programTooLarge size => "program of " ++ Nat.repr size ++ " bytes does not fit in memory"

end Ls8.Assembly
