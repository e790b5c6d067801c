import Ls8.Json.Value
import Ls8.Text.Numeral

/-! # Reading JSON

A recursive-descent reader over lists of characters. Every function takes the text that is left and
returns what it read with the text after it, or nothing if the text does not have the form wanted.
The recursion between values, arrays and objects is bounded by `fuel`, which `parse?` computes from
the length of the text: two units for every character are enough. -/

namespace Ls8.Json

/-- Whether a character may stand between two tokens. -/
def isSpace (c : Char) : Bool := c == ' ' || c == '\n' || c == '\r' || c == '\t'

/-- A text without the white space that it begins with. -/
def skipSpace (s : List Char) : List Char := s.dropWhile isSpace

/-! ## Strings -/

/-- The character that a one-letter escape stands for. -/
def escapeCode? : Char → Option Nat
  | '"' => some 0x22
  | '\\' => some 0x5c
  | '/' => some 0x2f
  | 'b' => some 0x08
  | 'f' => some 0x0c
  | 'n' => some 0x0a
  | 'r' => some 0x0d
  | 't' => some 0x09
  | _ => none

/-- The codes in a string up to its closing quote: code points for plain characters, UTF-16 code
units for escapes. -/
def stringCodes : List Char → Option (List Nat × List Char)
  | [] => none
  | '"' :: rest => some ([], rest)
  | '\\' :: 'u' :: a :: b :: c :: d :: rest => do
    let code ← Text.readNat? 16 [a, b, c, d]
    let (codes, after) ← stringCodes rest
    return (code :: codes, after)
  | '\\' :: letter :: rest => do
    let code ← escapeCode? letter
    let (codes, after) ← stringCodes rest
    return (code :: codes, after)
  | c :: rest =>
    if c.toNat < 0x20 then none
    else do
      let (codes, after) ← stringCodes rest
      return (c.toNat :: codes, after)

/-- The characters that codes stand for, if every surrogate is half of a pair. -/
def joinSurrogates : List Nat → Option (List Char)
  | [] => some []
  | [code] => if 0xd800 ≤ code ∧ code ≤ 0xdfff then none else some [Char.ofNat code]
  | code :: next :: rest =>
    if 0xd800 ≤ code ∧ code ≤ 0xdbff then
      if 0xdc00 ≤ next ∧ next ≤ 0xdfff then
        (joinSurrogates rest).map
          (Char.ofNat (0x10000 + (code - 0xd800) * 0x400 + (next - 0xdc00)) :: ·)
      else none
    else if 0xdc00 ≤ code ∧ code ≤ 0xdfff then none
    else (joinSurrogates (next :: rest)).map (Char.ofNat code :: ·)

/-- The text of a string after its opening quote (`none` if it denotes none) and what follows. -/
def stringBody (s : List Char) : Option (Option String × List Char) := do
  let (codes, after) ← stringCodes s
  return ((joinSurrogates codes).map String.ofList, after)

/-! ## Numbers -/

/-- The parts of a number as written. -/
structure Numeral where
  negative : Bool
  whole : List Nat
  fraction : Option (List Nat)
  exponent : Option Int

/-- The digits that a text begins with, and what follows. -/
def digits (s : List Char) : List Nat × List Char :=
  ((s.takeWhile Char.isDigit).map fun c => c.toNat - '0'.toNat, s.dropWhile Char.isDigit)

/-- The fraction of a number, if a point stands here; it has at least one digit. -/
def fractionPart : List Char → Option (Option (List Nat) × List Char)
  | '.' :: s =>
    let (found, after) := digits s
    if found.isEmpty then none else some (some found, after)
  | s => some (none, s)

/-- The digits of an exponent with its sign. -/
def exponentDigits (negative : Bool) (s : List Char) : Option (Option Int × List Char) :=
  let (found, after) := digits s
  let size : Int := Text.ofDigits 10 found
  if found.isEmpty then none else some (some (if negative then -size else size), after)

/-- The exponent of a number, if one stands here. -/
def exponentPart : List Char → Option (Option Int × List Char)
  | c :: s =>
    if c = 'e' ∨ c = 'E' then
      match s with
      | '-' :: s => exponentDigits true s
      | '+' :: s => exponentDigits false s
      | s => exponentDigits false s
    else some (none, c :: s)
  | [] => some (none, [])

/-- The number that a text begins with; more than one whole digit never begin with a zero. -/
def numeral (s : List Char) : Option (Numeral × List Char) := do
  let (negative, s) := match s with
    | '-' :: s => (true, s)
    | s => (false, s)
  let (whole, s) := digits s
  if whole.isEmpty ∨ (1 < whole.length ∧ whole.head? = some 0) then none
  else
    let (fraction, s) ← fractionPart s
    let (exponent, s) ← exponentPart s
    return (⟨negative, whole, fraction, exponent⟩, s)

/-- Digits taken into a 64-bit significand. The first digit that would not fit and all after it are
dropped. -/
structure Absorbed where
  significand : Nat
  kept : Nat
  dropped : Nat

/-- Takes digits into a significand as long as they fit. -/
def absorb (significand kept : Nat) : List Nat → Absorbed
  | [] => ⟨significand, kept, 0⟩
  | digit :: rest =>
    let next := significand * 10 + digit
    if next < UInt64.size then absorb next (kept + 1) rest
    else ⟨significand, kept, (digit :: rest).length⟩

/-- The power of ten with an exponent up to 308, rounded to a double. -/
def powerOfTen (exponent : Nat) : Float := Float.ofScientific 1 false exponent

/-- `x · 10 ^ exponent` in double arithmetic, by one multiplication or by divisions of at most
`10 ^ 308` each; nothing if it is too large. -/
def scale? (x : Float) (exponent : Int) : Option Float :=
  if exponent.natAbs ≤ 308 then
    if 0 ≤ exponent then
      let scaled := x * powerOfTen exponent.natAbs
      if scaled.isInf then none else some scaled
    else some (x / powerOfTen exponent.natAbs)
  else if x == 0.0 then some x
  else if 0 ≤ exponent then none
  else scale? (x / powerOfTen 308) (exponent + 308)
termination_by exponent.natAbs
decreasing_by omega

/-- The number that a numeral denotes, if it is not too large. A numeral without fraction and
exponent is an integer if it fits a word; minus zero is a double. -/
def Numeral.number? (n : Numeral) : Option Number :=
  let whole := absorb 0 0 n.whole
  let sign (x : Float) : Number := .real (if n.negative then -x else x)
  match n.fraction, n.exponent with
  | none, none =>
    if whole.dropped = 0 then
      if n.negative = false then some (.integer whole.significand)
      else if whole.significand = 0 ∨ UInt64.size / 2 < whole.significand then
        some (sign whole.significand.toUInt64.toFloat)
      else some (.integer (-whole.significand))
    else (scale? whole.significand.toUInt64.toFloat whole.dropped).map sign
  | fraction, exponent =>
    let all := absorb whole.significand 0 (fraction.getD [])
    (scale? all.significand.toUInt64.toFloat
      (whole.dropped - all.kept + exponent.getD 0)).map sign

/-! ## Values -/

mutual

/-- The value that a text begins with. -/
def value : Nat → List Char → Option (Value × List Char)
  | 0, _ => none
  | fuel + 1, s =>
    match skipSpace s with
    | 'n' :: 'u' :: 'l' :: 'l' :: rest => some (.null, rest)
    | 't' :: 'r' :: 'u' :: 'e' :: rest => some (.bool true, rest)
    | 'f' :: 'a' :: 'l' :: 's' :: 'e' :: rest => some (.bool false, rest)
    | '"' :: rest => do
      let (text, after) ← stringBody rest
      return (text.elim .unrepresentable .string, after)
    | '[' :: rest =>
      match skipSpace rest with
      | ']' :: after => some (.array [], after)
      | rest => do
        let (items, after) ← items fuel rest
        return (.array items, after)
    | '\x7b' :: rest =>
      match skipSpace rest with
      | '\x7d' :: after => some (.object [], after)
      | rest => do
        let (members, after) ← members fuel rest
        return (members.elim .unrepresentable .object, after)
    | s => do
      let (found, after) ← numeral s
      return (found.number?.elim .unrepresentable .number, after)

/-- The items of an array up to its closing bracket; there is at least one. -/
def items : Nat → List Char → Option (List Value × List Char)
  | 0, _ => none
  | fuel + 1, s => do
    let (first, rest) ← value fuel s
    match skipSpace rest with
    | ',' :: rest => do
      let (others, after) ← items fuel rest
      return (first :: others, after)
    | ']' :: after => return ([first], after)
    | _ => none

/-- The members of an object up to its closing brace (`none` if a name denotes nothing); there is
at least one. -/
def members : Nat → List Char → Option (Option (List (String × Value)) × List Char)
  | 0, _ => none
  | fuel + 1, s =>
    match skipSpace s with
    | '"' :: rest => do
      let (name, rest) ← stringBody rest
      match skipSpace rest with
      | ':' :: rest => do
        let (first, rest) ← value fuel rest
        let member := name.map fun name => (name, first)
        match skipSpace rest with
        | ',' :: rest => do
          let (others, after) ← members fuel rest
          return (member.bind fun member => others.map (member :: ·), after)
        | '\x7d' :: after => return (member.map ([·]), after)
        | _ => none
      | _ => none
    | _ => none

end

/-- The value of a text that is one JSON document, with nothing but white space around it. -/
def parse? (text : String) : Option Value := do
  let chars := text.toList
  let (found, rest) ← value (2 * chars.length + 2) chars
  if (skipSpace rest).isEmpty then some found else none

end Ls8.Json
