import Mathlib.Data.List.DropRight
import Ls8.Assembly.Image
import Ls8.ProgramFile
import Ls8.Proofs.Text.Lines

/-! # Line ends

A line counts only up to the blanks at its end, for the assembler and for the reader of program files
alike: what they take from a line is trimmed, or ends before the first blank. Two texts whose lines are
the same up to these blanks are therefore read alike. A carriage return in front of a line feed is such a
blank, unless it belongs to the line end, so it makes no difference which of the two line ends a text
has. -/

namespace Ls8

namespace Text

/-- A text with a carriage return put in front of each of its line feeds. -/
def withReturns (s : List Char) : List Char :=
  s.flatMap fun c => if c = '\n' then ['\r', '\n'] else [c]

theorem withReturns_lineFeed (rest : List Char) :
    withReturns ('\n' :: rest) = '\r' :: '\n' :: withReturns rest := rfl

theorem withReturns_cons {c : Char} (other : c ≠ '\n') (rest : List Char) :
    withReturns (c :: rest) = c :: withReturns rest := by
  rw [withReturns, List.flatMap_cons, if_neg other]
  rfl

/-! ## Blanks at the end -/

section

variable {gap : List Char} (blank : ∀ c ∈ gap, isBlank c = true)

include blank

theorem trimEnd_append (s : List Char) : trimEnd (s ++ gap) = trimEnd s := by
  have reversed : ∀ c ∈ gap.reverse, isBlank c = true := fun c member =>
    blank c (List.mem_reverse.mp member)
  rw [trimEnd, trimEnd, List.reverse_append, List.dropWhile_append_of_pos reversed]

theorem trimStart_append_cases (s : List Char) :
    (trimStart s = [] ∧ trimStart (s ++ gap) = []) ∨
      (trimStart s ≠ [] ∧ trimStart (s ++ gap) = trimStart s ++ gap) := by
  rw [trimStart, trimStart, List.dropWhile_append]
  split
  · next empty => exact .inl ⟨List.isEmpty_iff.mp empty, List.dropWhile_eq_nil_iff.mpr blank⟩
  · next filled => exact .inr ⟨mt List.isEmpty_iff.mpr filled, rfl⟩

theorem trim_append (s : List Char) : trim (s ++ gap) = trim s := by
  rw [trim, trim]
  obtain ⟨bare, blanks⟩ | ⟨-, kept⟩ := trimStart_append_cases blank s
  · rw [bare, blanks]
  · rw [kept, trimEnd_append blank]

/-- The beginning of a text, as far as its characters have a property, gains at most blanks. -/
theorem trim_takeWhile_append (p : Char → Bool) (s : List Char) :
    trim ((s ++ gap).takeWhile p) = trim (s.takeWhile p) := by
  rw [List.takeWhile_append]
  split
  · next whole =>
    have all : s.takeWhile p = s := (List.takeWhile_prefix p).eq_of_length whole
    rw [all]
    exact trim_append (fun c member => blank c ((List.takeWhile_prefix p).mem member)) s
  · rfl

end

/-- What disregards blanks put at the end of a text disregards the blanks at its end. -/
theorem apply_trimEnd {α : Type} {f : List Char → α}
    (blind : ∀ s gap, (∀ c ∈ gap, isBlank c = true) → f (s ++ gap) = f s) (s : List Char) :
    f (trimEnd s) = f s := by
  have whole : trimEnd s ++ s.rtakeWhile isBlank = s := List.rdropWhile_append_rtakeWhile
  have blanks : ∀ c ∈ s.rtakeWhile isBlank, isBlank c = true := fun _ => List.mem_rtakeWhile_imp
  calc f (trimEnd s)
    _ = f (trimEnd s ++ s.rtakeWhile isBlank) := (blind (trimEnd s) _ blanks).symm
    _ = f s := by rw [whole]

theorem isBlank_return : ∀ c ∈ ['\r'], isBlank c = true :=
  List.forall_mem_singleton.mpr (by decide)

theorem trimEnd_dropReturn (line : List Char) : trimEnd (dropReturn '\r' line) = trimEnd line := by
  rw [dropReturn]
  split
  · next ends =>
    obtain ⟨front, rfl⟩ := List.getLast?_eq_some_iff.mp ends
    rw [List.dropLast_concat, trimEnd_append isBlank_return]
  · rfl

/-! ## Lines -/

/-- A line that has been begun goes on in the same way before either line end. -/
theorem trimEnd_lines_append_withReturns {line : List Char} (unbroken : '\n' ∉ line) (s : List Char) :
    (lines (line ++ withReturns s)).map trimEnd = (lines (line ++ s)).map trimEnd := by
  induction s generalizing line with
  | nil => rfl
  | cons c rest ih =>
    by_cases feed : c = '\n'
    · subst feed
      have returned : '\n' ∉ line ++ ['\r'] := by simpa using unbroken
      have others : (lines (withReturns rest)).map trimEnd = (lines rest).map trimEnd :=
        ih List.not_mem_nil
      rw [withReturns_lineFeed, List.append_cons, lines_append_lineFeed returned,
        lines_append_lineFeed unbroken, dropReturn_concat, List.map_cons, List.map_cons, others,
        trimEnd_dropReturn]
    · rw [withReturns_cons feed, List.append_cons, List.append_cons line c rest]
      exact ih (by simpa [eq_comm] using ⟨unbroken, feed⟩)

/-- Each line stays the same up to the blanks at its end. -/
theorem trimEnd_lines_withReturns (s : List Char) :
    (lines (withReturns s)).map trimEnd = (lines s).map trimEnd :=
  trimEnd_lines_append_withReturns List.not_mem_nil s

end Text

/-! ## Sources -/

namespace Assembly

theorem line_ofText_append {gap : List Char} (blank : ∀ c ∈ gap, Text.isBlank c = true)
    (text : List Char) : Line.ofText (text ++ gap) = Line.ofText text := by
  simp only [Line.ofText, Text.trim_takeWhile_append blank]

theorem Draft.addLine_trimEnd (d : Draft) (number : Nat) (text : List Char) :
    d.addLine number (Text.trimEnd text) = d.addLine number text := by
  refine Text.apply_trimEnd (f := d.addLine number) ?_ text
  intro s gap blank
  rw [addLine, addLine, line_ofText_append blank]

theorem Draft.addLines_map_trimEnd (d : Draft) (number : Nat) (texts : List (List Char)) :
    d.addLines number (texts.map Text.trimEnd) = d.addLines number texts := by
  induction texts generalizing d number with
  | nil => rfl
  | cons text rest ih => simp only [List.map_cons, addLines, addLine_trimEnd, ih]

/-- Sources whose lines are the same up to blanks at their ends are assembled alike. -/
theorem assembleChars_congr {s t : List Char}
    (alike : (Text.lines s).map Text.trimEnd = (Text.lines t).map Text.trimEnd) :
    assembleChars s = assembleChars t := by
  rw [assembleChars, assembleChars, ← Draft.addLines_map_trimEnd, alike, Draft.addLines_map_trimEnd]

end Assembly

/-! ## Program files -/

namespace ProgramFile

section

variable {gap : List Char} (blank : ∀ c ∈ gap, Text.isBlank c = true)

include blank

/-- A blank is no binary digit. -/
theorem takeWhile_isBit_append (s : List Char) :
    (s ++ gap).takeWhile isBit = s.takeWhile isBit := by
  have none : gap.takeWhile isBit = [] := by
    cases gap with
    | nil => rfl
    | cons c rest =>
      refine List.takeWhile_cons_of_neg fun bit => ?_
      have visible := blank c List.mem_cons_self
      rcases Bool.or_eq_true_iff.mp bit with zero | one
      · rw [eq_of_beq zero] at visible
        contradiction
      · rw [eq_of_beq one] at visible
        contradiction
  rw [List.takeWhile_append, none, List.append_nil]
  split
  · next whole => exact ((List.takeWhile_prefix isBit).eq_of_length whole).symm
  · rfl

theorem leadingByte?_append_blanks (s : List Char) : leadingByte? (s ++ gap) = leadingByte? s := by
  rw [leadingByte?, leadingByte?, takeWhile_isBit_append blank]

theorem byteOfLine?_append_blanks (line : List Char) :
    byteOfLine? (line ++ gap) = byteOfLine? line := by
  rw [byteOfLine?, byteOfLine?]
  obtain ⟨bare, blanks⟩ | ⟨filled, kept⟩ := Text.trimStart_append_cases blank line
  · rw [bare, blanks]
  · obtain ⟨c, rest, start⟩ := List.exists_cons_of_ne_nil filled
    rw [kept, start, List.cons_append]
    -- A sign stays in front, and what follows it or begins at `c` has the same digits.
    by_cases minus : c = '-'
    · subst minus
      exact congrArg (Option.map (0 - ·)) (leadingByte?_append_blanks blank rest)
    · by_cases plus : c = '+'
      · subst plus
        exact leadingByte?_append_blanks blank rest
      · simpa [minus, plus] using leadingByte?_append_blanks blank (c :: rest)

end

theorem byteOfLine?_trimEnd (line : List Char) :
    byteOfLine? (Text.trimEnd line) = byteOfLine? line :=
  Text.apply_trimEnd (fun s _ blank => byteOfLine?_append_blanks blank s) line

theorem trim_trimEnd (line : List Char) : Text.trim (Text.trimEnd line) = Text.trim line :=
  Text.apply_trimEnd (fun s _ blank => Text.trim_append blank s) line

theorem ofLines_map_trimEnd (lines : List (List Char)) :
    ofLines (lines.map Text.trimEnd) = ofLines lines := by
  have same (line : List Char) :
      (byteOfLine? (Text.trimEnd line)).map
          (fun byte => (byte, String.ofList (Text.trim (Text.trimEnd line)))) =
        (byteOfLine? line).map fun byte => (byte, String.ofList (Text.trim line)) := by
    rw [byteOfLine?_trimEnd, trim_trimEnd]
  simp only [ofLines, List.filterMap_map, Function.comp_def, same]

/-- Program files whose lines are the same up to blanks at their ends are read alike. -/
theorem ofLines_congr {lines others : List (List Char)}
    (alike : lines.map Text.trimEnd = others.map Text.trimEnd) : ofLines lines = ofLines others := by
  rw [← ofLines_map_trimEnd, alike, ofLines_map_trimEnd]

end ProgramFile

/-- Line ends do not matter. A text with a carriage return put in front of each of its line feeds is
assembled to the same bytes, or has the same error on the same line, and is read as the same program with
the same annotations. -/
theorem line_ends_make_no_difference (source : String) :
    assemble (String.ofList (Text.withReturns source.toList)) = assemble source ∧
      ProgramFile.parse (String.ofList (Text.withReturns source.toList)) =
        ProgramFile.parse source := by
  have alike := Text.trimEnd_lines_withReturns source.toList
  constructor
  · rw [assemble, assemble, String.toList_ofList]
    exact Assembly.assembleChars_congr alike
  · rw [ProgramFile.parse, ProgramFile.parse, String.toList_ofList]
    exact ProgramFile.ofLines_congr alike

/-- A carriage return that the text has already, a label, a comment, a blank line, and a last line that
nothing ends. -/
example :
    let source := "A: LDI R0,A\r\n\n; no line\rPRN R0\nHLT\r"
    Text.withReturns source.toList = "A: LDI R0,A\r\r\n\r\n; no line\rPRN R0\r\nHLT\r".toList ∧
      assemble source = .ok [0x82, 0, 0, 0x01] := by
  decide

end Ls8
