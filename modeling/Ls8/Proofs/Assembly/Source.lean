import Ls8.Assembly.Image

/-! # What a source text means

A source text as data, and its image in one step. Each line is read by itself into an optional label
and an optional sentence; the layout places the lines one behind the other; a label has the offset
at which it is defined; and each sentence is encoded with the addresses of all labels at hand.
`Program.Valid` says which programs have an image. Nothing is patched here and nothing is left open
while the lines are read. -/

namespace Ls8.Assembly

/-- An operand as it is written. -/
inductive Term
  | register (r : Register)
  | number (value : Int)
  | label (name : String)
  deriving DecidableEq

/-- A statement as it is written. -/
inductive Sentence
  | origin (target : Int)
  | instruction (op : Opcode) (terms : List Term)
  | data (terms : List Term)
  deriving DecidableEq

/-- A line as it is written. -/
structure Entry where
  label : Option String
  sentence : Option Sentence
  deriving DecidableEq

/-! ## Reading -/

/-- The term that an operand writes. -/
def Term.read? : OperandKind → List Char → Option Term
  | .register, operand =>
    match readRegister operand with
    | .ok r => some (.register r)
    | .error _ => none
  | .immediate, operand =>
    match readNumber operand with
    | .ok (some value) => some (.number value)
    | .ok none => some (.label (nameOf operand))
    | .error _ => none

/-- The sentence that a word and its operands write. -/
def Sentence.read? (word : String) (operands : List (List Char)) : Option Sentence :=
  if word = "ORG" then
    match operands with
    | [operand] =>
      match readNumber operand with
      | .ok (some target) => some (.origin target)
      | _ => none
    | _ => none
  else if word = "DB" ∨ word = "DATA" then
    if operands = [] then none else (operands.mapM (Term.read? .immediate)).map .data
  else
    match Opcode.ofMnemonic? word with
    | none => none
    | some op =>
      if operands.length = op.operands.length then
        ((op.operands.zip operands).mapM fun (kind, operand) => Term.read? kind operand).map
          (.instruction op)
      else none

/-- The name that a label in front of a line writes, if there is a label. -/
def readLabel? : Option (List Char) → Option (Option String)
  | none => some none
  | some label => if isLabelName (Text.upper label) then some (some (nameOf label)) else none

/-- The sentence that the rest of a line writes, if there is a rest. -/
def readSentence? : Option (List Char) → Option (Option Sentence)
  | none => some none
  | some text =>
    (Sentence.read? (nameOf (text.takeWhile (!Text.isBlank ·)))
      (Text.fields isOperandGap (text.dropWhile (!Text.isBlank ·)))).map some

/-- The entry in a line. -/
def Entry.read? (line : List Char) : Option Entry := do
  let cut := Line.ofText line
  let label ← readLabel? cut.label
  let sentence ← readSentence? cut.statement
  return { label, sentence }

/-! ## Layout -/

/-- The number of bytes that a sentence takes at an offset. -/
def Sentence.size (offset : Nat) : Sentence → Nat
  | .origin target => target.toNat - offset
  | .instruction _ terms => 1 + terms.length
  | .data terms => terms.length

/-- The number of bytes that an entry takes at an offset. -/
def Entry.size (offset : Nat) (entry : Entry) : Nat := (entry.sentence.map (·.size offset)).getD 0

/-- An entry with the number of its line and the offset at which it begins. -/
structure Placed where
  line : Nat
  offset : Nat
  entry : Entry

/-- A program as it is written: its entries in order. -/
abbrev Program := List Entry

namespace Program

/-- Places entries one behind the other. -/
def layoutFrom : Nat → Nat → Program → List Placed
  | _, _, [] => []
  | line, offset, entry :: rest =>
    ⟨line, offset, entry⟩ :: layoutFrom (line + 1) (offset + entry.size offset) rest

/-- The entries of a program at their places. -/
def layout (p : Program) : List Placed := layoutFrom 1 0 p

/-- The offset behind entries that begin at an offset. -/
def sizeFrom (offset : Nat) (p : Program) : Nat :=
  p.foldl (fun offset entry => offset + entry.size offset) offset

/-- The number of bytes of a program. -/
def size (p : Program) : Nat := sizeFrom 0 p

/-- The labels of a program with the offsets at which they are defined. -/
def labels (p : Program) : List (String × Nat) :=
  p.layout.filterMap fun placed => placed.entry.label.map fun name => (name, placed.offset)

/-- The address of a label. -/
def address (p : Program) (name : String) : Nat := (p.labels.lookup name).getD 0

end Program

/-! ## Encoding -/

/-- The byte of a term, given the addresses of all labels. -/
def Term.byte (address : String → Nat) : Term → UInt8
  | .register r => r.toByte
  | .number value => .ofInt value
  | .label name => .ofNat (address name)

/-- The bytes of a sentence at an offset, given the addresses of all labels. -/
def Sentence.bytes (address : String → Nat) (offset : Nat) : Sentence → List UInt8
  | .origin target => List.replicate (target.toNat - offset) 0
  | .instruction op terms => op.byte :: terms.map (·.byte address)
  | .data terms => terms.map (·.byte address)

/-- The bytes of an entry at its place, given the addresses of all labels. -/
def Placed.bytes (address : String → Nat) (placed : Placed) : List UInt8 :=
  (placed.entry.sentence.map (·.bytes address placed.offset)).getD []

/-- The image of a program. -/
def Program.image (p : Program) : List UInt8 := p.layout.flatMap (·.bytes p.address)

/-! ## Validity -/

/-- The terms of a sentence. -/
def Sentence.terms : Sentence → List Term
  | .origin _ => []
  | .instruction _ terms => terms
  | .data terms => terms

/-- The terms of an entry. -/
def Entry.terms (entry : Entry) : List Term := (entry.sentence.map (·.terms)).getD []

/-- A number fits a byte; other terms always do. -/
def Term.Fits (term : Term) : Prop := ∀ value, term = .number value → -128 ≤ value ∧ value ≤ 255

/-- The programs whose lines can be placed one behind the other. -/
structure Program.LaidOut (p : Program) : Prop where
  /-- No label is defined twice. -/
  distinct : (p.labels.map (·.1)).Nodup
  /-- Every label is defined within memory. -/
  addressable : ∀ definition ∈ p.labels, definition.2 ≤ 255
  /-- Every origin goes forward and stays within memory. -/
  forward : ∀ placed ∈ p.layout, ∀ target, placed.entry.sentence = some (.origin target) →
    placed.offset ≤ target ∧ target ≤ 255
  /-- Every number fits a byte. -/
  fitting : ∀ entry ∈ p, ∀ term ∈ entry.terms, term.Fits

/-- The programs that have an image. -/
structure Program.Valid (p : Program) : Prop extends p.LaidOut where
  /-- Every label that is wanted is defined somewhere. -/
  defined : ∀ entry ∈ p, ∀ name, .label name ∈ entry.terms → name ∈ p.labels.map (·.1)
  /-- The whole program fits. -/
  fits : p.size ≤ 256

/-- The program in a source text. -/
def Program.read? (source : String) : Option Program :=
  (Text.lines source.toList).mapM Entry.read?

end Ls8.Assembly
