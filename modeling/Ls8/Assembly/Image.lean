import Ls8.Assembly.Statement
import Ls8.Machine.Memory

/-! # Assembling

From a source text to the bytes of its image. One pass over the lines collects labels and bytes in a
`Draft`, with a zero and a note for every reference to a label; when all labels are known the noted
places are filled in. -/

namespace Ls8.Assembly

/-- A place in the image that waits for the address of a label, and the line that wants it. -/
structure Reference where
  offset : Nat
  label : String
  line : Nat
  deriving DecidableEq, Repr

/-- A program as far as its lines have been read: the labels with their addresses and the places
that wait for one, both in the order of the source, and the bytes. -/
structure Draft where
  labels : List (String × UInt8) := []
  references : List Reference := []
  bytes : List UInt8 := []
  deriving DecidableEq, Repr

namespace Draft

/-- Defines a label at the end of the bytes. -/
def define (d : Draft) (label : List Char) : Except LineError Draft :=
  let name := nameOf label
  if isLabelName (Text.upper label) = false then .error (.invalidLabel name)
  else if memorySize ≤ d.bytes.length then .error .labelPastEnd
  else if (d.labels.lookup name).isSome then .error (.duplicateLabel name)
  else .ok { d with labels := d.labels ++ [(name, UInt8.ofNat d.bytes.length)] }

/-- Adds one byte, which is a zero if it waits for a label. -/
def addItem (d : Draft) (line : Nat) : Item → Draft
  | .byte value => { d with bytes := d.bytes ++ [value] }
  | .reference label =>
    { d with
      references := d.references ++ [⟨d.bytes.length, label, line⟩]
      bytes := d.bytes ++ [0] }

/-- Adds a statement. An origin fills up with zeros; it goes forward and stays within memory. -/
def addStatement (d : Draft) (line : Nat) : Statement → Except LineError Draft
  | .origin target =>
    if d.bytes.length ≤ target ∧ target < memorySize then
      .ok { d with bytes := d.bytes ++ List.replicate (target.toNat - d.bytes.length) 0 }
    else .error (.valueOutOfRange target)
  | .data items => .ok (items.foldl (fun d item => d.addItem line item) d)

/-- Adds a line: its label first, then its statement. -/
def addLine (d : Draft) (number : Nat) (text : List Char) : Except LineError Draft := do
  let line := Line.ofText text
  let d ← match line.label with
    | some label => d.define label
    | none => pure d
  match line.statement with
  | some statement => d.addStatement number (← Statement.ofText statement)
  | none => return d

/-- Adds lines, the first of which has the given number. -/
def addLines (d : Draft) (number : Nat) : List (List Char) → Except Error Draft
  | [] => .ok d
  | text :: rest =>
    match d.addLine number text with
    | .ok next => next.addLines (number + 1) rest
    | .error cause => .error (.onLine number cause)

/-- Fills one waiting place of an image with the address of its label. -/
def fillIn (d : Draft) (image : List UInt8) (place : Reference) : Except Error (List UInt8) :=
  match d.labels.lookup place.label with
  | some address => .ok (image.set place.offset address)
  | none => .error (.undefinedLabel place.line place.label)

/-- The image of a program whose lines have all been read. -/
def image (d : Draft) : Except Error (List UInt8) :=
  if memorySize < d.bytes.length then .error (.programTooLarge d.bytes.length)
  else d.references.foldlM d.fillIn d.bytes

end Draft

/-- The image of a source text. -/
def assembleChars (source : List Char) : Except Error (List UInt8) := do
  let d ← Draft.addLines {} 1 (Text.lines source)
  d.image

end Ls8.Assembly

namespace Ls8

/-- The image of a source text. -/
def assemble (source : String) : Except Assembly.Error (List UInt8) :=
  Assembly.assembleChars source.toList

end Ls8
