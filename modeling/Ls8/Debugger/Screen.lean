import Ls8.Text.Blank

/-! # Screens

A screen is a list of rows of styled characters. It is put together from boxes: a border with a
title around rows of content, which are cut at the right edge and filled up with spaces. -/

namespace Ls8.Debugger

/-- The colours of characters. -/
inductive Colour
  | plain
  | red
  | green
  | yellow
  | blue
  | magenta
  | cyan
  | white
  | gray
  | darkGray
  deriving DecidableEq, Repr

/-- The name of a colour. -/
def Colour.name : Colour → String
  | plain => "Reset"
  | red => "Red"
  | green => "Green"
  | yellow => "Yellow"
  | blue => "Blue"
  | magenta => "Magenta"
  | cyan => "Cyan"
  | white => "White"
  | gray => "Gray"
  | darkGray => "DarkGray"

/-- How a character is shown. -/
structure Style where
  colour : Colour := .plain
  bold : Bool := false
  deriving DecidableEq, Repr

/-- A character on the screen. -/
structure Glyph where
  char : Char
  style : Style
  deriving DecidableEq, Repr

/-- Rows of characters. -/
abbrev Screen := List (List Glyph)

/-- A text in one style. -/
def styled (style : Style) (s : String) : List Glyph := s.toList.map fun c => ⟨c, style⟩

/-- A text in the plain style. -/
def plain (s : String) : List Glyph := styled {} s

/-- A row of content and the style of the space that it leaves free. -/
structure Row where
  glyphs : List Glyph
  fill : Style := {}
  deriving DecidableEq, Repr

/-- A row at a width: cut at the right, or filled up with spaces. -/
def Row.fit (row : Row) (width : Nat) : List Glyph :=
  row.glyphs.take width ++ List.replicate (width - row.glyphs.length) ⟨' ', row.fill⟩

/-- A line of content cut into rows of a width; an empty line takes one row. -/
def cut (width : Nat) (glyphs : List Glyph) : List (List Glyph) :=
  if 0 < width ∧ width < glyphs.length then
    glyphs.take width :: cut width (glyphs.drop width)
  else [glyphs]
termination_by glyphs.length
decreasing_by
  rw [List.length_drop]
  omega

/-- A line of content in rows of a width. A line that is not empty but consists of blanks only takes
an empty row before its own. -/
def wrap (width : Nat) (glyphs : List Glyph) : List (List Glyph) :=
  if glyphs ≠ [] ∧ glyphs.all fun glyph => Text.isBlank glyph.char then [] :: cut width glyphs
  else cut width glyphs

/-- The first row of a box: corners, the title, and a line. -/
def topBorder (title : String) (border : Style) (inner : Nat) : List Glyph :=
  styled border "┌" ++
    ((styled border title).take inner ++
      List.replicate (inner - title.length) ⟨'─', border⟩) ++
    styled border "┐"

/-- The last row of a box. -/
def bottomBorder (border : Style) (inner : Nat) : List Glyph :=
  styled border "└" ++ List.replicate inner ⟨'─', border⟩ ++ styled border "┘"

/-- A box of a width and a height, both with the border, around rows of content. Rows for which
there is no place are left out; rows that are missing are filled with the style `fill`. A box of one
column has its left border only, and a box of none is blank. -/
def box (title : String) (border fill : Style) (width height : Nat) (rows : List Row) : Screen :=
  let inner := width - 2
  let visible := rows.take (height - 2)
  let empty : List Row := List.replicate (height - 2 - visible.length) ⟨[], fill⟩
  (topBorder title border inner ::
    ((visible ++ empty).map fun row =>
      styled border "│" ++ row.fit inner ++ styled border "│") ++
    [bottomBorder border inner]).map fun row => row.take width

/-- Two screens side by side. -/
def beside (left right : Screen) : Screen := List.zipWith (· ++ ·) left right

/-- The runs of equal style in a row, each with the column where it begins, after a column and the
style before it. -/
def styleRunsFrom (column : Nat) (before : Option Style) : List Glyph → List (Nat × Style)
  | [] => []
  | glyph :: rest =>
    if before = some glyph.style then styleRunsFrom (column + 1) before rest
    else (column, glyph.style) :: styleRunsFrom (column + 1) (some glyph.style) rest

/-- The runs of equal style in a row, each with the column where it begins. -/
def styleRuns (row : List Glyph) : List (Nat × Style) := styleRunsFrom 0 none row

/-- The text of a row. -/
def rowText (row : List Glyph) : String := String.ofList (row.map Glyph.char)

/-- Nothing of a line is lost when it is cut into rows. -/
theorem flatten_cut (width : Nat) (glyphs : List Glyph) :
    (cut width glyphs).flatten = glyphs := by
  fun_induction cut width glyphs with
  | case1 glyphs _ ih => rw [List.flatten_cons, ih, List.take_append_drop]
  | case2 => simp

/-- Nothing of a line is lost when it is wrapped. -/
theorem flatten_wrap (width : Nat) (glyphs : List Glyph) :
    (wrap width glyphs).flatten = glyphs := by
  unfold wrap
  split
  · rw [List.flatten_cons, List.nil_append, flatten_cut]
  · exact flatten_cut width glyphs

@[simp] theorem Row.length_fit (row : Row) (width : Nat) : (row.fit width).length = width := by
  simp only [Row.fit, List.length_append, List.length_take, List.length_replicate]
  omega

end Ls8.Debugger
