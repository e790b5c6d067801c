import Ls8.Text.Lines
import Ls8.Text.Numeral
import Ls8.Text.Utf8

/-! # Program files

A program file is a text with one byte to a line, in binary digits. A line counts if it begins,
after blanks and one sign, with a binary digit; the number is the longest run of such digits, and
what follows it is ignored. Every other line is skipped. -/

namespace Ls8

/-- A program with a text for each of its bytes: the line that it was read from, or the comment to
write behind it. There may be fewer or more texts than bytes. -/
structure ProgramFile where
  bytes : List UInt8 := []
  annotations : List String := []
  deriving DecidableEq, Repr

namespace ProgramFile

/-- The byte that binary digits write, most significant digit first; only the last eight of them
matter. -/
def byteOfBits (bits : List Char) : UInt8 :=
  bits.foldl (fun value bit => value <<< 1 ||| (if bit = '1' then 1 else 0)) 0

/-- Whether a character is a binary digit. -/
def isBit (c : Char) : Bool := c == '0' || c == '1'

/-- The byte of the binary digits that a text begins with. -/
def leadingByte? (s : List Char) : Option UInt8 :=
  let bits := s.takeWhile isBit
  if bits.isEmpty then none else some (byteOfBits bits)

/-- The byte that a line holds, if it holds one; a minus takes it modulo 256. -/
def byteOfLine? (line : List Char) : Option UInt8 :=
  match Text.trimStart line with
  | '-' :: rest => (leadingByte? rest).map (0 - ·)
  | '+' :: rest => leadingByte? rest
  | rest => leadingByte? rest

/-- The program in a list of lines. -/
def ofLines (lines : List (List Char)) : ProgramFile :=
  let found := lines.filterMap fun line =>
    (byteOfLine? line).map fun byte => (byte, String.ofList (Text.trim line))
  { bytes := found.map Prod.fst, annotations := found.map Prod.snd }

/-- The program in a text. -/
def parse (source : String) : ProgramFile := ofLines (Text.lines source.toList)

/-- The program in the bytes of a file, if all its lines are text. -/
def ofBytes? (content : List UInt8) : Option ProgramFile :=
  ((Text.linesBy 10 13 content).mapM Text.Utf8.decode?).map ofLines

/-- One line of a file: a byte with its comment, if there is one. -/
def renderLine (byte : UInt8) (note : String) : String :=
  let comment := Text.trim note.toList
  if comment.isEmpty then Text.binaryByte byte ++ "\n"
  else Text.binaryByte byte ++ " # " ++ String.ofList comment ++ "\n"

/-- The lines of bytes with their texts; a byte without a text has no comment. -/
def renderLines : List UInt8 → List String → String
  | [], _ => ""
  | byte :: bytes, [] => renderLine byte "" ++ renderLines bytes []
  | byte :: bytes, note :: rest => renderLine byte note ++ renderLines bytes rest

/-- A program as the text of a file. -/
def render (program : ProgramFile) : String :=
  "# LS-8 program\n# " ++ Nat.repr program.bytes.length ++ " bytes\n\n" ++
    renderLines program.bytes program.annotations

end ProgramFile

end Ls8
