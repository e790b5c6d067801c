/-! # Numerals

Numbers written in a positional system. Reading takes ASCII digits and letters in either case, at
least one of them, and nothing else; a signed reading allows one sign in front. Reading is exact
for numerals of any length: limits are put on the value, never on the text. -/

namespace Ls8.Text

/-- The value of a digit in the given radix (at most 36). -/
def digitValue? (radix : Nat) (c : Char) : Option Nat :=
  let value :=
    if '0' ≤ c ∧ c ≤ '9' then c.toNat - '0'.toNat
    else if 'a' ≤ c ∧ c ≤ 'z' then c.toNat - 'a'.toNat + 10
    else if 'A' ≤ c ∧ c ≤ 'Z' then c.toNat - 'A'.toNat + 10
    else radix
  if value < radix then some value else none

/-- The number that a list of digit values stands for, most significant digit first. -/
def ofDigits (radix : Nat) (digits : List Nat) : Nat :=
  digits.foldl (fun value digit => value * radix + digit) 0

/-- The value of an unsigned numeral. -/
def readNat? (radix : Nat) (s : List Char) : Option Nat :=
  if s.isEmpty then none else (s.mapM (digitValue? radix)).map (ofDigits radix)

/-- The value of a numeral with an optional sign. -/
def readInt? (radix : Nat) : List Char → Option Int
  | '-' :: s => (readNat? radix s).map fun n => -(n : Int)
  | '+' :: s => (readNat? radix s).map fun n => (n : Int)
  | s => (readNat? radix s).map fun n => (n : Int)

/-- The least number that is no signed 64-bit integer. -/
def int64Bound : Int := 0x8000000000000000

/-- The value of a signed numeral, if it is a 64-bit integer. -/
def readInt64? (radix : Nat) (s : List Char) : Option Int :=
  (readInt? radix s).filter fun value => -int64Bound ≤ value ∧ value < int64Bound

/-- The value of a decimal numeral with an optional plus sign, if it is below the bound. -/
def readBelow? (bound : Nat) (s : List Char) : Option Nat :=
  let digits := match s with
    | '+' :: rest => rest
    | s => s
  (readNat? 10 digits).filter (· < bound)

/-- A number in the given radix with zeros in front up to a width. -/
def padded (radix width : Nat) (n : Nat) : String :=
  let digits := Nat.toDigits radix n
  String.ofList (List.replicate (width - digits.length) '0' ++ digits)

/-- A byte as two lower-case hexadecimal digits. -/
def hexByte (b : UInt8) : String := padded 16 2 b.toNat

/-- A byte as eight binary digits. -/
def binaryByte (b : UInt8) : String := padded 2 8 b.toNat

/-- An integer as a decimal numeral, with a minus if it is negative. -/
def integer (n : Int) : String :=
  if n < 0 then "-" ++ Nat.repr n.natAbs else Nat.repr n.natAbs

/-- A byte as a decimal numeral. -/
def decimalByte (b : UInt8) : String := Nat.repr b.toNat

/-- A byte as a decimal numeral in ASCII. -/
def decimalDigits (b : UInt8) : List UInt8 :=
  (Nat.toDigits 10 b.toNat).map fun c => UInt8.ofNat c.toNat

/-- A text with spaces in front up to a width. -/
def alignRight (width : Nat) (s : String) : String :=
  String.ofList (List.replicate (width - s.length) ' ') ++ s

/-- A text with spaces behind it up to a width. -/
def alignLeft (width : Nat) (s : String) : String :=
  s ++ String.ofList (List.replicate (width - s.length) ' ')

example : readInt64? 16 "-7f".toList = some (-127) := by decide
example : readInt64? 10 "9223372036854775808".toList = none := by decide
example : readBelow? 256 "+007".toList = some 7 := by decide

end Ls8.Text
