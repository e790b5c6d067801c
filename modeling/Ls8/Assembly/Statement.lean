import Ls8.Assembly.Error
import Ls8.Machine.Instruction
import Ls8.Text.Lines
import Ls8.Text.Numeral
import Ls8.Text.Upper

/-! # Lines and statements

A line of assembly is an optional label and an optional statement. A statement either moves the
place where bytes go (`ORG`) or is a list of items: bytes that are known at once and references to
labels. Everything in this module looks at one line by itself; what depends on other lines is left
to the assembler. -/

namespace Ls8.Assembly

/-! ## Lines -/

/-- A line cut into its label and its statement, both without blanks at their ends. -/
structure Line where
  label : Option (List Char)
  statement : Option (List Char)
  deriving DecidableEq, Repr

/-- A text, if there is any. -/
def nonEmpty (s : List Char) : Option (List Char) := if s.isEmpty then none else some s

/-- Cuts a line: a comment goes from the first `;` or `#` to the end, a label up to the first
colon before that. -/
def Line.ofText (line : List Char) : Line :=
  let code := Text.trim (line.takeWhile fun c => c ≠ ';' ∧ c ≠ '#')
  if ':' ∈ code then
    { label := some (Text.trim (code.takeWhile (· ≠ ':')))
      statement := nonEmpty (Text.trim ((code.dropWhile (· ≠ ':')).drop 1)) }
  else { label := none, statement := nonEmpty code }

/-- A letter or underscore of ASCII. -/
def isLabelStart (c : Char) : Bool := c.isAlpha || c == '_'

/-- A letter, digit or underscore of ASCII. -/
def isLabelRest (c : Char) : Bool := c.isAlphanum || c == '_'

/-- Whether a text may name a label. -/
def isLabelName : List Char → Bool
  | [] => false
  | c :: rest => isLabelStart c && (c :: rest).all isLabelRest

/-! ## Operands -/

/-- The number in digits that follow a radix mark. -/
def readLiteral (radix : Radix) (operand digits : List Char) : Except LineError (Option Int) :=
  match Text.readInt64? radix.base digits with
  | some value => .ok (some value)
  | none => .error (.invalidLiteral radix (String.ofList operand))

/-- Whether a decimal number begins with a character. -/
def isDecimalStart (c : Char) : Bool := c.isDigit || c == '-' || c == '+'

/-- The number that an operand writes, or nothing if it has no form of a number. -/
def readNumber (operand : List Char) : Except LineError (Option Int) :=
  match operand.map Char.toLower with
  | '0' :: 'x' :: digits => readLiteral .hexadecimal operand digits
  | '0' :: 'b' :: digits => readLiteral .binary operand digits
  | _ =>
    match operand with
    | c :: _ => if isDecimalStart c then readLiteral .decimal operand operand else .ok none
    | [] => .ok none

/-- The byte of a number from -128 to 255, negative numbers in two's complement. -/
def byteOfInt? (value : Int) : Option UInt8 :=
  if -128 ≤ value ∧ value ≤ 255 then some (UInt8.ofInt value) else none

/-- One byte of a program: known, or the address of a label. -/
inductive Item
  | byte (value : UInt8)
  | reference (label : String)
  deriving DecidableEq, Repr

/-- A name in upper case, the form in which names are compared. -/
def nameOf (s : List Char) : String := String.ofList (Text.upper s)

/-- The item that an immediate operand writes. -/
def readImmediate (operand : List Char) : Except LineError Item := do
  match ← readNumber operand with
  | some value =>
    match byteOfInt? value with
    | some byte => return .byte byte
    | none => throw (.valueOutOfRange value)
  | none => return .reference (nameOf operand)

/-- The number of a register operand, without its first letter. -/
def registerDigits? : List Char → Option (List Char)
  | 'R' :: digits => some digits
  | 'r' :: digits => some digits
  | _ => none

/-- The register that an operand names. -/
def readRegister (operand : List Char) : Except LineError Register :=
  let found := do
    let digits ← registerDigits? operand
    let number ← Text.readBelow? 256 digits
    Register.ofByte? (UInt8.ofNat number)
  match found with
  | some r => .ok r
  | none => .error (.invalidRegister (String.ofList operand))

/-- The item that an operand of an instruction writes. -/
def readOperand : OperandKind → List Char → Except LineError Item
  | .register, operand => (fun r => Item.byte r.toByte) <$> readRegister operand
  | .immediate, operand => readImmediate operand

/-- The items of the operands of an instruction, one for each kind. -/
def readOperands : List OperandKind → List (List Char) → Except LineError (List Item)
  | kind :: kinds, operand :: operands => do
    let item ← readOperand kind operand
    let items ← readOperands kinds operands
    return item :: items
  | _, _ => .ok []

/-! ## Statements -/

/-- What a line adds to a program. -/
inductive Statement
  /-- Continues at an address. -/
  | origin (target : Int)
  /-- Adds bytes. -/
  | data (items : List Item)
  deriving DecidableEq, Repr

/-- Whether a character stands between operands. -/
def isOperandGap (c : Char) : Bool := c == ',' || Text.isBlank c

/-- The statement with a word and operands. -/
def Statement.ofWords (word : String) (operands : List (List Char)) :
    Except LineError Statement := do
  if word = "ORG" then
    match operands with
    | [operand] =>
      match ← readNumber operand with
      | some target => return .origin target
      | none => throw .originNotNumeric
    | _ => throw (.operandCount 1 operands.length)
  else if word = "DB" ∨ word = "DATA" then
    if operands.isEmpty then throw (.operandCount 1 0)
    return .data (← operands.mapM readImmediate)
  else
    match Opcode.ofMnemonic? word with
    | none => throw (.unknownMnemonic word)
    | some op =>
      if operands.length ≠ op.operands.length then
        throw (.operandCount op.operands.length operands.length)
      return .data (.byte op.byte :: (← readOperands op.operands operands))

/-- The statement in a text that does not begin with a blank: a word, then operands between commas
and blanks. -/
def Statement.ofText (text : List Char) : Except LineError Statement :=
  Statement.ofWords (nameOf (text.takeWhile (!Text.isBlank ·)))
    (Text.fields isOperandGap (text.dropWhile (!Text.isBlank ·)))

end Ls8.Assembly
