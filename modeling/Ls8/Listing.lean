import Ls8.Machine.Instruction
import Ls8.Machine.Memory
import Ls8.ProgramFile

/-! # Listings

The instructions in a byte image, found by a sweep from its first byte: each instruction begins
where the one before it ends. A byte that begins no instruction, or an instruction that the image
cuts off, is shown as data of one byte. -/

namespace Ls8

/-- A byte as data in assembly. -/
def dataText (b : UInt8) : String := "DB 0x" ++ Text.hexByte b

/-- The text of the instruction in three bytes, and how many of them it takes. -/
def disassembleBytes (ir a b : UInt8) : String × Nat :=
  match decode ir a b with
  | .ok i => (i.text, i.size)
  | .error _ => (dataText ir, 1)

/-- The text and the size of the instruction at an address, fetched as the machine does. -/
def Memory.disassemble (m : Memory) (address : UInt8) : String × Nat :=
  disassembleBytes (m.read address) (m.readOffset address 1) (m.readOffset address 2)

/-- The text of the instruction in the first bytes of an image; bytes past its end count as zero. -/
def disassembleFirst (bytes : List UInt8) : String :=
  (disassembleBytes (bytes[0]?.getD 0) (bytes[1]?.getD 0) (bytes[2]?.getD 0)).1

/-- A line of a listing: where it begins, the bytes that it covers, and its text. -/
structure ListingLine where
  address : Nat
  bytes : List UInt8
  text : String
  deriving DecidableEq, Repr

/-- The line of a byte and those after it. -/
def ListingLine.first (address : Nat) (byte : UInt8) (rest : List UInt8) : ListingLine :=
  let (text, size) := disassembleBytes byte (rest[0]?.getD 0) (rest[1]?.getD 0)
  if size ≤ rest.length + 1 then ⟨address, (byte :: rest).take size, text⟩
  else ⟨address, [byte], dataText byte⟩

/-- The lines of bytes that begin at an address, the first `covered` of which belong to a line
already made. -/
def sweep : Nat → Nat → List UInt8 → List ListingLine
  | _, _, [] => []
  | address, covered + 1, _ :: rest => sweep (address + 1) covered rest
  | address, 0, byte :: rest =>
    let line := ListingLine.first address byte rest
    line :: sweep (address + 1) (line.bytes.length - 1) rest

/-- The lines of an image. -/
def listing (image : List UInt8) : List ListingLine := sweep 0 0 image

/-- A line as text: its address, its instruction, and its bytes. -/
def ListingLine.render (line : ListingLine) : String :=
  Text.padded 16 2 line.address ++ ": " ++ Text.alignLeft 12 line.text ++ "  ; " ++
    " ".intercalate (line.bytes.map Text.hexByte) ++ "\n"

/-- The listing of an image as text. -/
def disassemble (image : List UInt8) : String :=
  "; LS-8 Disassembly\n; -----------------\n\n" ++
    String.join ((listing image).map ListingLine.render)

/-- The texts that annotate the bytes of a line: its text for the first, nothing for the others. -/
def ListingLine.annotations (line : ListingLine) : List String :=
  line.text :: List.replicate (line.bytes.length - 1) ""

/-- An image as a program file whose instructions are annotated. -/
def annotate (image : List UInt8) : ProgramFile :=
  let lines := listing image
  { bytes := lines.flatMap (·.bytes), annotations := lines.flatMap (·.annotations) }

end Ls8
