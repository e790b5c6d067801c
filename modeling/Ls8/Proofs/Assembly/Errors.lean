import Ls8.Proofs.Assembly.Layout
import Ls8.Proofs.Text.Lines

/-! # Where a source text has its error

Lines are read in order and reading ends at the first that has an error, so an error on a line depends
on the lines up to it and on nothing that follows. What is wrong with the whole, a program that is too
long or a label that is defined nowhere, is looked for when all lines have been read, in this order;
and of the labels that are missing, the one is reported that is wanted first. -/

namespace Ls8.Assembly

/-! ## Lines -/

namespace Draft

/-- Defines the label in front of a line, if there is one. -/
def addLabel (d : Draft) : Option (List Char) → Except LineError Draft
  | some label => d.define label
  | none => .ok d

/-- Adds what stands behind the label of a line, if there is anything. -/
def addRest (d : Draft) (number : Nat) : Option (List Char) → Except LineError Draft
  | some text => Statement.ofText text >>= d.addStatement number
  | none => .ok d

theorem addLine_eq (d : Draft) (number : Nat) (text : List Char) :
    d.addLine number text =
      d.addLabel (Line.ofText text).label >>= fun labelled =>
        labelled.addRest number (Line.ofText text).statement := by
  unfold addLine
  generalize Line.ofText text = line
  rcases line with ⟨- | label, - | statement⟩ <;> rfl

theorem addLines_append (d : Draft) (number : Nat) (first second : List (List Char)) :
    d.addLines number (first ++ second) =
      d.addLines number first >>= fun next => next.addLines (number + first.length) second := by
  induction first generalizing d number with
  | nil => rfl
  | cons text rest ih =>
    have behind : number + (rest.length + 1) = number + 1 + rest.length := by omega
    rw [List.cons_append, addLines, addLines, List.length_cons, behind]
    cases d.addLine number text with
    | error cause => rfl
    | ok next => exact ih next (number + 1)

/-- Lines have an error exactly when one of them has, behind lines that have none. -/
theorem addLines_eq_error_iff {d : Draft} {number : Nat} {texts : List (List Char)} {e : Error} :
    d.addLines number texts = .error e ↔ ∃ before text after next cause,
      texts = before ++ text :: after ∧ d.addLines number before = .ok next ∧
        next.addLine (number + before.length) text = .error cause ∧
        .onLine (number + before.length) cause = e := by
  constructor
  · intro failed
    induction texts generalizing d number with
    | nil => contradiction
    | cons text rest ih =>
      rw [addLines] at failed
      split at failed
      · next next read =>
        obtain ⟨before, wrong, after, last, cause, rfl, passed, found, rfl⟩ := ih failed
        have behind : number + (text :: before).length = number + 1 + before.length := by
          rw [List.length_cons]
          omega
        refine ⟨text :: before, wrong, after, last, cause, rfl, ?_, ?_, ?_⟩
        · rw [addLines, read]
          exact passed
        · rw [behind]
          exact found
        · rw [behind]
      · next cause found =>
        obtain rfl := Except.error.inj failed
        exact ⟨[], text, rest, d, cause, rfl, rfl, found, rfl⟩
  · rintro ⟨before, text, after, next, cause, rfl, passed, found, rfl⟩
    rw [addLines_append, passed, ok_bind, addLines, found]

theorem fillIn_ne_onLine {d : Draft} {image : List UInt8} {place : Reference} {number : Nat}
    {cause : LineError} : d.fillIn image place ≠ .error (.onLine number cause) := by
  unfold fillIn
  split
  · exact nofun
  · exact nofun

theorem image_ne_onLine {d : Draft} {number : Nat} {cause : LineError} :
    d.image ≠ .error (.onLine number cause) := by
  have filled (places : List Reference) (bytes : List UInt8) :
      places.foldlM d.fillIn bytes ≠ .error (.onLine number cause) := by
    induction places generalizing bytes with
    | nil => exact nofun
    | cons place rest ih =>
      rw [List.foldlM_cons]
      cases first : d.fillIn bytes place with
      | error e =>
        rintro ⟨rfl⟩
        exact fillIn_ne_onLine first
      | ok next => exact ih next
  unfold image
  split
  · exact nofun
  · exact filled d.references d.bytes

end Draft

/-- Reading a source text comes to a line: the lines before it have no error and leave the draft. -/
structure Reaches (source : String) (number : Nat) (text : List Char) (d : Draft) : Prop where
  positive : 1 ≤ number
  line : (Text.lines source.toList)[number - 1]? = some text
  before : Draft.addLines {} 1 ((Text.lines source.toList).take (number - 1)) = .ok d

section Reaches

variable {source : String} {number : Nat} {text : List Char} {d : Draft}

theorem Reaches.le_length (reached : Reaches source number text d) :
    number ≤ (Text.lines source.toList).length := by
  have bound := (List.getElem?_eq_some_iff.mp reached.line).1
  have positive := reached.positive
  omega

/-- Coming to a line depends on the lines up to it only. -/
theorem Reaches.of_take (reached : Reaches source number text d) {other : String}
    (same : (Text.lines other.toList).take number = (Text.lines source.toList).take number) :
    Reaches other number text d where
  positive := reached.positive
  line := by
    have last : number - 1 < number := Nat.sub_one_lt_of_lt reached.positive
    have line := reached.line
    rwa [← List.getElem?_take_of_lt last, ← same, List.getElem?_take_of_lt last] at line
  before := by
    have shorter : min (number - 1) number = number - 1 := Nat.min_eq_left (Nat.sub_le number 1)
    have before := reached.before
    rwa [← shorter, ← List.take_take, ← same, List.take_take, shorter] at before

/-- The lines of a text around a line that reading comes to. -/
theorem Reaches.lines_eq (reached : Reaches source number text d) :
    ∃ after, Text.lines source.toList =
      (Text.lines source.toList).take (number - 1) ++ text :: after := by
  obtain ⟨bound, same⟩ := List.getElem?_eq_some_iff.mp reached.line
  refine ⟨(Text.lines source.toList).drop (number - 1 + 1), ?_⟩
  rw [← same, ← List.drop_eq_getElem_cons bound, List.take_append_drop]

theorem Reaches.length_before (reached : Reaches source number text d) :
    1 + ((Text.lines source.toList).take (number - 1)).length = number := by
  have bound := reached.le_length
  have positive := reached.positive
  rw [List.length_take]
  omega

/-- An error is on a line exactly when reading comes to the line and finds it there. -/
theorem assemble_eq_onLine_iff {cause : LineError} :
    assemble source = .error (.onLine number cause) ↔
      ∃ text d, Reaches source number text d ∧ d.addLine number text = .error cause := by
  have first : assemble source = .error (.onLine number cause) ↔
      Draft.addLines {} 1 (Text.lines source.toList) = .error (.onLine number cause) := by
    rw [assemble, assembleChars]
    cases Draft.addLines {} 1 (Text.lines source.toList) with
    | error e => simp only [error_bind, Except.error.injEq]
    | ok d => exact iff_of_false Draft.image_ne_onLine (by simp)
  rw [first]
  constructor
  · intro failed
    obtain ⟨before, text, after, d, found, lines, passed, wrong, same⟩ :=
      Draft.addLines_eq_error_iff.mp failed
    obtain ⟨rfl, rfl⟩ := Error.onLine.inj same
    have last : 1 + before.length - 1 = before.length := Nat.add_sub_cancel_left 1 before.length
    refine ⟨text, d, ⟨Nat.le_add_right 1 before.length, ?_, ?_⟩, wrong⟩
    · rw [last, lines, List.getElem?_append_right (Nat.le_refl _), Nat.sub_self]
      rfl
    · rw [last, lines, List.take_left]
      exact passed
  · rintro ⟨text, d, reached, found⟩
    obtain ⟨after, lines⟩ := reached.lines_eq
    refine Draft.addLines_eq_error_iff.mpr ⟨_, text, after, d, cause, lines, reached.before, ?_, ?_⟩
    · rw [reached.length_before]
      exact found
    · rw [reached.length_before]

/-- Where reading comes to a line, the line decides whether the error is on it. -/
theorem Reaches.assemble_eq_onLine_iff (reached : Reaches source number text d)
    {cause : LineError} :
    assemble source = .error (.onLine number cause) ↔ d.addLine number text = .error cause := by
  refine Assembly.assemble_eq_onLine_iff.trans ⟨?_, fun found => ⟨text, d, reached, found⟩⟩
  rintro ⟨other, next, also, found⟩
  obtain rfl := Option.some.inj (reached.line.symm.trans also.line)
  obtain rfl := Except.ok.inj (reached.before.symm.trans also.before)
  exact found

/-- Reading comes to every line of a text, unless a line before it has an error. -/
theorem exists_reaches_or_error (positive : 1 ≤ number)
    (line : (Text.lines source.toList)[number - 1]? = some text) :
    (∃ d, Reaches source number text d) ∨
      ∃ earlier < number, ∃ cause, assemble source = .error (.onLine earlier cause) := by
  cases before : Draft.addLines {} 1 ((Text.lines source.toList).take (number - 1)) with
  | ok d => exact .inl ⟨d, positive, line, before⟩
  | error e =>
    obtain ⟨front, wrong, after, next, cause, taken, -, -, rfl⟩ := Draft.addLines_eq_error_iff.mp before
    have shorter : front.length < number - 1 := by
      have count := congrArg List.length taken
      rw [List.length_take, List.length_append, List.length_cons] at count
      omega
    refine .inr ⟨1 + front.length, by omega, cause, ?_⟩
    have whole := Draft.addLines_append {} 1 ((Text.lines source.toList).take (number - 1))
      ((Text.lines source.toList).drop (number - 1))
    rw [List.take_append_drop, before] at whole
    rw [assemble, assembleChars, whole]
    rfl

/-- The text made of the first lines of a text. -/
theorem exists_lines_eq_take (s : List Char) (count : Nat) :
    ∃ front, front <+: s ∧ Text.lines front = (Text.lines s).take count := by
  induction length : s.length using Nat.strong_induction_on generalizing s count with
  | h n ih =>
    cases count with
    | zero => exact ⟨[], List.nil_prefix, rfl⟩
    | succ count =>
      by_cases broken : '\n' ∈ s
      · obtain ⟨line, rest, rfl, unbroken⟩ := List.eq_append_cons_of_mem broken
        have shorter : rest.length < n := by
          rw [← length, List.length_append, List.length_cons]
          omega
        obtain ⟨front, ⟨behind, rfl⟩, lines⟩ := ih rest.length shorter rest count rfl
        refine ⟨line ++ '\n' :: front, ⟨behind, by simp⟩, ?_⟩
        rw [Text.lines_append_lineFeed unbroken, Text.lines_append_lineFeed unbroken,
          List.take_succ_cons, lines]
      · refine ⟨s, List.prefix_refl s, (List.take_of_length_le ?_).symm⟩
        have clean : ∀ c ∈ s, (c == '\n') = false := by
          intro c member
          rw [beq_eq_false_iff_ne]
          rintro rfl
          exact broken member
        rw [Text.lines, Text.linesBy, Text.pieces_of_all clean, Text.closeLines]
        split
        · exact Nat.zero_le _
        · exact Nat.le_add_left 1 count

end Reaches

/-! ## References -/

/-- The label that a term is, if it is one. -/
def Term.label? : Term → Option String
  | .label name => some name
  | .register _ | .number _ => none

/-- The line and the label of a cell that waits for one. -/
def Cell.reference? : Cell → Option (Nat × String)
  | .wanted label line => some (line, label)
  | .known _ => none

theorem Sentence.filterMap_reference?_cells (sentence : Sentence) (line offset : Nat) :
    (sentence.statement.cells line offset).filterMap Cell.reference? =
      (sentence.terms.filterMap Term.label?).map (line, ·) := by
  have items (list : List Term) :
      ((list.map Term.item).map (·.cell line)).filterMap Cell.reference? =
        (list.filterMap Term.label?).map (line, ·) := by
    rw [List.map_map, List.filterMap_map, List.map_filterMap]
    refine List.filterMap_congr fun term _ => ?_
    cases term <;> rfl
  cases sentence with
  | origin target =>
    refine List.filterMap_eq_nil_iff.mpr fun cell member => ?_
    rw [List.eq_of_mem_replicate member, Cell.reference?]
  | instruction op list => exact items list
  | data list => exact items list

/-- Cells are resolved from the first to the last, so the first of them whose label is missing is
reported. -/
theorem mapM_resolve_eq_error_iff {labels : List (String × UInt8)} {cells : List Cell} {e : Error} :
    cells.mapM (Cell.resolve labels) = .error e ↔ ∃ line name,
      (cells.filterMap Cell.reference?).find? (fun wanted => (labels.lookup wanted.2).isNone) =
          some (line, name) ∧
        .undefinedLabel line name = e := by
  induction cells with
  | nil => simp
  | cons cell rest ih =>
    rw [List.mapM_cons]
    cases cell with
    | known byte =>
      rw [Cell.resolve, ok_bind, List.filterMap_cons_none rfl, ← ih]
      cases rest.mapM (Cell.resolve labels) with
      | error e => simp
      | ok bytes => simp
    | wanted label line =>
      have first : (Cell.wanted label line :: rest).filterMap Cell.reference? =
          (line, label) :: rest.filterMap Cell.reference? := rfl
      rw [Cell.resolve, first]
      cases found : labels.lookup label with
      | none => simp [found]
      | some address =>
        rw [List.find?_cons_of_neg (by simp [found]), ← ih]
        cases rest.mapM (Cell.resolve labels) with
        | error e => simp
        | ok bytes => simp

namespace Program

/-- The references of a program in the order of its text, each with the line that it stands on. -/
def references (p : Program) : List (Nat × String) :=
  p.layout.flatMap fun placed => (placed.entry.terms.filterMap Term.label?).map (placed.line, ·)

theorem filterMap_reference?_cells (p : Program) :
    p.cells.filterMap Cell.reference? = p.references := by
  rw [cells, references, List.filterMap_flatMap]
  congr 1
  funext placed
  rw [Entry.terms]
  cases placed.entry.sentence with
  | none => rfl
  | some sentence => exact sentence.filterMap_reference?_cells placed.line placed.offset

/-- The first reference of a program to a label that it does not define. -/
def undefined? (p : Program) : Option (Nat × String) :=
  p.references.find? fun wanted => wanted.2 ∉ p.labels.map (·.1)

theorem image_draft_eq_error_iff {p : Program} {e : Error} :
    p.draft.image = .error e ↔
      (256 < p.size ∧ .programTooLarge p.size = e) ∨
        (p.size ≤ 256 ∧ ∃ line name, p.undefined? = some (line, name) ∧
          .undefinedLabel line name = e) := by
  have missing : (fun wanted : Nat × String => (p.addresses.lookup wanted.2).isNone) =
      fun wanted => decide (wanted.2 ∉ p.labels.map (·.1)) := by
    funext wanted
    have known : (p.addresses.lookup wanted.2).isSome ↔ wanted.2 ∈ p.labels.map (·.1) := by
      rw [isSome_lookup_iff, map_fst_addresses]
    simp only [← known]
    cases p.addresses.lookup wanted.2 <;> rfl
  rw [draft, Draft.image_ofCells, length_cells, memorySize]
  by_cases fits : p.size ≤ 256
  · rw [if_neg (Nat.not_lt.mpr fits), mapM_resolve_eq_error_iff, filterMap_reference?_cells, missing]
    simp only [fits, Nat.not_lt.mpr fits, false_and, false_or, true_and, undefined?]
  · rw [if_pos (Nat.not_le.mp fits), Except.error.injEq]
    simp only [fits, Nat.not_le.mp fits, true_and, false_and, or_false]

/-- The first pass over a source text succeeds exactly when its lines can be laid out. -/
theorem addLines_lines_eq_ok_iff {source : String} {d : Draft} :
    Draft.addLines {} 1 (Text.lines source.toList) = .ok d ↔
      ∃ p, Program.read? source = some p ∧ p.LaidOut ∧ p.draft = d :=
  addLines_draft_eq_ok_iff laidOut_nil

end Program

/-- A source text has no error on a line exactly when its lines can be laid out. -/
theorem assemble_ne_onLine_iff {source : String} :
    (∀ number cause, assemble source ≠ .error (.onLine number cause)) ↔
      ∃ p, Program.read? source = some p ∧ p.LaidOut := by
  rw [assemble, assembleChars]
  cases first : Draft.addLines {} 1 (Text.lines source.toList) with
  | error e =>
    obtain ⟨before, text, after, next, cause, -, -, -, rfl⟩ := Draft.addLines_eq_error_iff.mp first
    refine iff_of_false (fun none => none _ cause rfl) ?_
    rintro ⟨p, read, laid⟩
    rw [Program.addLines_lines_eq_ok_iff.mpr ⟨p, read, laid, rfl⟩] at first
    contradiction
  | ok d =>
    obtain ⟨p, read, laid, -⟩ := Program.addLines_lines_eq_ok_iff.mp first
    exact iff_of_true (fun _ _ => Draft.image_ne_onLine) ⟨p, read, laid⟩

/-- An error that is not on a line is one of the whole program, whose lines can be laid out. -/
theorem assemble_eq_error_iff {source : String} {e : Error}
    (whole : ∀ number cause, e ≠ .onLine number cause) :
    assemble source = .error e ↔
      ∃ p, Program.read? source = some p ∧ p.LaidOut ∧ p.draft.image = .error e := by
  rw [assemble, assembleChars]
  cases first : Draft.addLines {} 1 (Text.lines source.toList) with
  | error other =>
    obtain ⟨before, text, after, next, cause, -, -, -, rfl⟩ := Draft.addLines_eq_error_iff.mp first
    refine iff_of_false ?_ ?_
    · rintro ⟨rfl⟩
      exact whole _ _ rfl
    · rintro ⟨p, read, laid, -⟩
      rw [Program.addLines_lines_eq_ok_iff.mpr ⟨p, read, laid, rfl⟩] at first
      contradiction
  | ok d =>
    obtain ⟨p, read, laid, rfl⟩ := Program.addLines_lines_eq_ok_iff.mp first
    rw [ok_bind]
    refine ⟨fun failed => ⟨p, read, laid, failed⟩, ?_⟩
    rintro ⟨other, also, -, failed⟩
    obtain rfl := Option.some.inj (read.symm.trans also)
    exact failed

/-- An error on a line stands on one of the lines of the text, is the same for every text that begins
with the lines up to it, and is the first: the text made of the lines before it has no error on a line.
There is no error on a line exactly if the lines can be laid out; then a program of more than 256 bytes
is too large, and otherwise the first reference to a label that is defined nowhere is reported with its
own line. -/
theorem errors_in_order (source : String) :
    (∀ number cause, assemble source = .error (.onLine number cause) →
      (1 ≤ number ∧ number ≤ (Text.lines source.toList).length) ∧
      (∀ other : String,
        (Text.lines other.toList).take number = (Text.lines source.toList).take number →
          assemble other = .error (.onLine number cause)) ∧
      (∃ front : String, front.toList <+: source.toList ∧
        Text.lines front.toList = (Text.lines source.toList).take (number - 1)) ∧
      ∀ front : String,
        Text.lines front.toList = (Text.lines source.toList).take (number - 1) →
          ∀ line other, assemble front ≠ .error (.onLine line other)) ∧
    ((∀ number cause, assemble source ≠ .error (.onLine number cause)) ↔
      ∃ p, Program.read? source = some p ∧ p.LaidOut) ∧
    (∀ number name, assemble source = .error (.undefinedLabel number name) ↔
      ∃ p, Program.read? source = some p ∧ p.LaidOut ∧ p.size ≤ 256 ∧
        p.undefined? = some (number, name)) ∧
    ∀ size, assemble source = .error (.programTooLarge size) ↔
      ∃ p, Program.read? source = some p ∧ p.LaidOut ∧ 256 < p.size ∧ p.size = size := by
  refine ⟨fun number cause failed => ?_, assemble_ne_onLine_iff, fun number name => ?_, fun size => ?_⟩
  · obtain ⟨text, d, reached, found⟩ := assemble_eq_onLine_iff.mp failed
    obtain ⟨front, begins, lines⟩ := exists_lines_eq_take source.toList (number - 1)
    refine ⟨⟨reached.positive, reached.le_length⟩, fun other same => ?_,
      ⟨String.ofList front, ?_, ?_⟩, fun front lines line other => ?_⟩
    · exact (reached.of_take same).assemble_eq_onLine_iff.mpr found
    · rwa [String.toList_ofList]
    · rwa [String.toList_ofList]
    · have passed := reached.before
      rw [← lines] at passed
      rw [assemble, assembleChars, passed]
      exact Draft.image_ne_onLine
  · rw [assemble_eq_error_iff (by simp)]
    simp [Program.image_draft_eq_error_iff]
  · rw [assemble_eq_error_iff (by simp)]
    simp [Program.image_draft_eq_error_iff]

/-- An unknown word behind a reference that is still open. What follows the word makes no difference, nor
does the kind of line end; without the line of the word, only the reference is wrong. -/
theorem error_behind_open_reference :
    let source := "LDI R0,END\nNOP\nEND: HLT"
    let other := "LDI R0,END\r\nNOP\nORG 0"
    let front := "LDI R0,END\n"
    assemble source = .error (.onLine 2 (.unknownMnemonic "NOP")) ∧
      assemble other = .error (.onLine 2 (.unknownMnemonic "NOP")) ∧
      assemble front = .error (.undefinedLabel 1 "END") ∧
      ∀ line cause, assemble front ≠ .error (.onLine line cause) := by
  intro source other front
  have failed : assemble source = .error (.onLine 2 (.unknownMnemonic "NOP")) := by decide
  obtain ⟨-, same, -, earlier⟩ := (errors_in_order source).1 2 _ failed
  exact ⟨failed, same other (by decide), by decide, earlier front (by decide)⟩

end Ls8.Assembly
