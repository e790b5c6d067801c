import Ls8.Json.Value
import Ls8.Text.Numeral
import Ls8.Decimal.Shortest

/-! # Writing JSON

The compact form has no white space; the indented form has two spaces for each level and one item
to a line, and leaves empty arrays and objects closed up. -/

namespace Ls8.Json

/-- Doubles have the fewest digits that read back, in positional notation from `0.00001` to sixteen
whole digits. -/
def realForm : Decimal.Form := ⟨-5, 15⟩

/-- A number as text. -/
def Number.text : Number → String
  | .integer n => Text.integer n
  | .real x => Decimal.text realForm x

/-- One character inside a string. Only what the format demands is escaped. -/
def escapeChar (c : Char) : List Char :=
  match c with
  | '"' => ['\\', '"']
  | '\\' => ['\\', '\\']
  | '\x08' => ['\\', 'b']
  | '\x0c' => ['\\', 'f']
  | '\n' => ['\\', 'n']
  | '\r' => ['\\', 'r']
  | '\t' => ['\\', 't']
  | c => if c.toNat < 0x20 then "\\u".toList ++ (Text.padded 16 4 c.toNat).toList else [c]

/-- A string with its quotes. -/
def stringText (s : String) : String :=
  String.ofList ('"' :: s.toList.flatMap escapeChar ++ ['"'])

/-- The line break before a line at an indentation level. -/
def indentation (level : Nat) : String := "\n" ++ String.ofList (List.replicate (2 * level) ' ')

mutual

/-- The compact form of a value. -/
def Value.compact : Value → String
  | .null => "null"
  | .bool true => "true"
  | .bool false => "false"
  | .number n => n.text
  | .string s => stringText s
  | .array items => "[" ++ compactItems items ++ "]"
  | .object members => "\x7b" ++ compactMembers members ++ "\x7d"
  | .unrepresentable => "null"

/-- The compact form of the items of an array. -/
def compactItems : List Value → String
  | [] => ""
  | [item] => item.compact
  | item :: rest => item.compact ++ "," ++ compactItems rest

/-- The compact form of the members of an object. -/
def compactMembers : List (String × Value) → String
  | [] => ""
  | [(name, value)] => stringText name ++ ":" ++ value.compact
  | (name, value) :: rest => stringText name ++ ":" ++ value.compact ++ "," ++ compactMembers rest

end

mutual

/-- The indented form of a value that begins at an indentation level. -/
def Value.indentedAt : Nat → Value → String
  | level, .array (item :: rest) =>
    "[" ++ indentedItems (level + 1) (item :: rest) ++ indentation level ++ "]"
  | level, .object (member :: rest) =>
    "\x7b" ++ indentedMembers (level + 1) (member :: rest) ++ indentation level ++ "\x7d"
  | _, value => value.compact

/-- The items of an array, each on its line. -/
def indentedItems : Nat → List Value → String
  | _, [] => ""
  | level, [item] => indentation level ++ item.indentedAt level
  | level, item :: rest =>
    indentation level ++ item.indentedAt level ++ "," ++ indentedItems level rest

/-- The members of an object, each on its line. -/
def indentedMembers : Nat → List (String × Value) → String
  | _, [] => ""
  | level, [(name, value)] =>
    indentation level ++ stringText name ++ ": " ++ value.indentedAt level
  | level, (name, value) :: rest =>
    indentation level ++ stringText name ++ ": " ++ value.indentedAt level ++ "," ++
      indentedMembers level rest

end

/-- The indented form of a value. -/
def Value.indented (value : Value) : String := value.indentedAt 0

end Ls8.Json
