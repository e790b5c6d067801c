import Ls8.Json.Parser
import Ls8.Json.Printer
import Ls8.Text.Quoted

/-! # Reading domain values from JSON

A `Reader` turns a JSON value into a domain value or says what does not fit. Records may be written
as an object or as the array of their fields in order; names without data as a string or as an
object with that one name and `null`. What does not fit is reported in the order of the text, and a
text that is no JSON document is reported as that, whatever else is wrong with it. -/

namespace Ls8.Json

/-- What a value was found to be where something else was wanted. -/
inductive Kind
  | null
  | bool (b : Bool)
  | integer (n : Int)
  | real (text : String)
  | string (s : String)
  | array
  | object
  /-- A name without the data that belongs to it. -/
  | nameAlone
  | unrepresentable
  deriving DecidableEq, Repr

/-- The kind of a value. -/
def Value.kind : Value → Kind
  | .null => .null
  | .bool b => .bool b
  | .number (.integer n) => .integer n
  | .number (.real x) => .real (Decimal.text realForm x)
  | .string s => .string s
  | .array _ => .array
  | .object _ => .object
  | .unrepresentable => .unrepresentable

/-- A kind in words. -/
def Kind.text : Kind → String
  | .null => "null"
  | .bool true => "boolean `true`"
  | .bool false => "boolean `false`"
  | .integer n => "integer `" ++ (Number.integer n).text ++ "`"
  | .real text => "floating point `" ++ text ++ "`"
  | .string s => "string " ++ Text.quoted s
  | .array => "sequence"
  | .object => "map"
  | .nameAlone => "unit variant"
  | .unrepresentable => "value"

/-- Why a value does not fit. -/
inductive Mismatch
  | invalidType (found : Kind) (expected : String)
  | invalidValue (found : Kind) (expected : String)
  | invalidLength (found : Nat) (expected : String)
  | unknownField (name : String) (expected : List String)
  | unknownVariant (name : String) (expected : List String)
  | missingField (name : String)
  | duplicateField (name : String)
  | trailingCharacters
  | expectedValue
  deriving DecidableEq, Repr

/-- A list of names to choose from, in words. -/
def choices : List String → String
  | [a] => "`" ++ a ++ "`"
  | [a, b] => "`" ++ a ++ "` or `" ++ b ++ "`"
  | names => "one of " ++ ", ".intercalate (names.map fun name => "`" ++ name ++ "`")

/-- A mismatch in words. -/
def Mismatch.message : Mismatch → String
  | .invalidType found expected => "invalid type: " ++ found.text ++ ", expected " ++ expected
  | .invalidValue found expected => "invalid value: " ++ found.text ++ ", expected " ++ expected
  | .invalidLength found expected =>
    "invalid length " ++ Nat.repr found ++ ", expected " ++ expected
  | .unknownField name expected => "unknown field `" ++ name ++ "`, expected " ++ choices expected
  | .unknownVariant name expected =>
    "unknown variant `" ++ name ++ "`, expected " ++ choices expected
  | .missingField name => "missing field `" ++ name ++ "`"
  | .duplicateField name => "duplicate field `" ++ name ++ "`"
  | .trailingCharacters => "trailing characters"
  | .expectedValue => "expected value"

/-- A way to read values of a type. -/
abbrev Reader (α : Type) := Value → Except Mismatch α

/-- Reads an unsigned integer below a bound. -/
def natBelow (bound : Nat) (expected : String) : Reader Nat
  | .number (.integer n) =>
    if 0 ≤ n ∧ n < bound then .ok n.toNat else .error (.invalidValue (.integer n) expected)
  | value => .error (.invalidType value.kind expected)

/-- Reads a byte. -/
def byte : Reader UInt8 := fun value => UInt8.ofNat <$> natBelow UInt8.size "u8" value

/-- Reads a 64-bit word. -/
def word : Reader UInt64 := fun value => UInt64.ofNat <$> natBelow UInt64.size "u64" value

/-- Reads a truth value. -/
def bool : Reader Bool
  | .bool b => .ok b
  | value => .error (.invalidType value.kind "a boolean")

/-- Reads a value that may be absent. -/
def nullable {α : Type} (reader : Reader α) : Reader (Option α)
  | .null => .ok none
  | value => some <$> reader value

/-- Reads a list of any length. -/
def list {α : Type} (reader : Reader α) : Reader (List α)
  | .array items => items.mapM reader
  | value => .error (.invalidType value.kind "a sequence")

/-- Reads one of some named values. -/
def named {α : Type} (choices : List (String × α)) : Reader α
  | .string name => find name
  | .object [(name, data)] => do
    let found ← find name
    match data with
    | .null => .ok found
    | data => .error (.invalidType data.kind "unit")
  | .object ((name, data) :: _ :: _) => do
    let _ ← find name
    match data with
    | .null => .error .expectedValue
    | data => .error (.invalidType data.kind "unit")
  | _ => .error .expectedValue
where
  find (name : String) : Except Mismatch α :=
    match choices.lookup name with
    | some found => .ok found
    | none => .error (.unknownVariant name (choices.map Prod.fst))

/-- Fills a field that is still empty. -/
def fill {α : Type} (name : String) (slot : Option α) (reader : Reader α) (value : Value) :
    Except Mismatch (Option α) :=
  match slot with
  | some _ => .error (.duplicateField name)
  | none => some <$> reader value

/-- The content of a field that has to be there. -/
def require {α : Type} (name : String) (slot : Option α) : Except Mismatch α :=
  match slot with
  | some content => .ok content
  | none => .error (.missingField name)

/-- Reads the item at an index of the array form of a record. -/
def itemAt {α : Type} (items : List Value) (index : Nat) (reader : Reader α) (expected : String) :
    Except Mismatch α :=
  match items[index]? with
  | some item => reader item
  | none => .error (.invalidLength index expected)

/-- Refuses items beyond the last field of a record. -/
def noMoreThan (count : Nat) (items : List Value) : Except Mismatch Unit :=
  if items.length ≤ count then .ok () else .error .trailingCharacters

/-- Why a text does not give a domain value. -/
inductive ReadError
  | notJson
  | mismatch (reason : Mismatch)
  deriving DecidableEq, Repr

/-- The domain value in a text. -/
def read {α : Type} (reader : Reader α) (text : String) : Except ReadError α :=
  match parse? text with
  | none => .error .notJson
  | some value =>
    match reader value with
    | .ok found => .ok found
    | .error reason => .error (if value.isSound then .mismatch reason else .notJson)

end Ls8.Json
