import Ls8.Debugger.Screen
import Mathlib.Data.List.Basic

/-! # Boxes on a screen

A box has the width and the height that it is drawn with, whatever it holds. Inside its border it shows
its rows from the top, each cut or filled up to the width that the border leaves, and fills the rest. Two
screens side by side show, in each row, what the left one shows and behind it what the right one shows. -/

namespace Ls8.Debugger

/-- A part of a row of a screen: at most `width` characters from a column on. -/
def Screen.region (screen : Screen) (row column width : Nat) : Option (List Glyph) :=
  screen[row]?.map fun glyphs => (glyphs.drop column).take width

/-- Characters at a width: cut at the right, or followed by spaces. -/
def filled (style : Style) (width : Nat) (glyphs : List Glyph) : List Glyph :=
  (glyphs ++ List.replicate width (⟨' ', style⟩ : Glyph)).take width

/-- A screen of a width and a height. -/
structure Screen.Sized (screen : Screen) (width height : Nat) : Prop where
  height : screen.length = height
  width : ∀ glyphs ∈ screen, glyphs.length = width

/-! ## Screens put together -/

section Together

variable {screen upper lower left right : Screen} {row column width height other size : Nat}

/-- A region of a region. -/
theorem Screen.region_of_region {glyphs : List Glyph} (offset part : Nat)
    (shown : screen.region row column width = some glyphs) (within : offset + part ≤ width) :
    screen.region row (column + offset) part = some ((glyphs.drop offset).take part) := by
  obtain ⟨whole, found, rfl⟩ := Option.map_eq_some_iff.mp shown
  rw [region, found, Option.map_some, List.drop_take, List.take_take, List.drop_drop,
    Nat.min_eq_left (by omega)]

theorem Screen.Sized.append (above : upper.Sized width height) (below : lower.Sized width other) :
    Sized (upper ++ lower) width (height + other) where
  height := by rw [List.length_append, above.height, below.height]
  width := List.forall_mem_append.mpr ⟨above.width, below.width⟩

/-- Three screens one above the other. -/
theorem Screen.Sized.stack {middle : Screen} {first second third : Nat} (above : upper.Sized width first)
    (between : middle.Sized width second) (below : lower.Sized width third)
    (whole : first + second + third = height) : Sized (upper ++ middle ++ lower) width height := by
  subst whole
  exact (above.append between).append below

theorem region_append (inside : row < upper.length) :
    Screen.region (upper ++ lower) row column width = upper.region row column width := by
  rw [Screen.region, Screen.region, List.getElem?_append_left inside]

theorem Screen.Sized.beside (first : left.Sized size height) (second : right.Sized other height) :
    (beside left right).Sized (size + other) height where
  height := by rw [Debugger.beside, List.length_zipWith, first.height, second.height, Nat.min_self]
  width := by
    intro glyphs member
    rw [Debugger.beside] at member
    obtain ⟨row, -, rfl⟩ := List.mem_iff_getElem.mp member
    rw [List.getElem_zipWith, List.length_append, first.width _ (List.getElem_mem _),
      second.width _ (List.getElem_mem _)]

/-- The left one of two screens is shown where it is alone. -/
theorem region_beside_left (first : left.Sized size height) (second : right.Sized other height)
    (inside : width = 0 ∨ column + width ≤ size) :
    (beside left right).region row column width = left.region row column width := by
  rw [Screen.region, Screen.region, beside, List.getElem?_zipWith]
  cases found : left[row]? with
  | none => rfl
  | some glyphs =>
    have bound := (List.getElem?_eq_some_iff.mp found).1
    have long := first.width glyphs (List.mem_of_getElem? found)
    rw [List.getElem?_eq_getElem (by rwa [second.height, ← first.height]), Option.map_some,
      Option.map_some]
    rcases inside with rfl | inside
    · rw [List.take_zero, List.take_zero]
    · rw [List.drop_append_of_le_length (by omega), List.take_append_of_le_length]
      rw [List.length_drop]
      omega

/-- The right one of two screens is shown behind the left one. -/
theorem region_beside_right (first : left.Sized size height) (second : right.Sized other height) :
    (beside left right).region row (size + column) width = right.region row column width := by
  rw [Screen.region, Screen.region, beside, List.getElem?_zipWith]
  cases found : right[row]? with
  | none => cases left[row]? <;> rfl
  | some glyphs =>
    have bound := (List.getElem?_eq_some_iff.mp found).1
    rw [second.height, ← first.height] at bound
    rw [List.getElem?_eq_getElem bound, Option.map_some, Option.map_some, List.drop_append,
      first.width _ (List.getElem_mem bound), Nat.add_sub_cancel_left, List.drop_eq_nil_of_le,
      List.nil_append]
    rw [first.width _ (List.getElem_mem bound)]
    exact Nat.le_add_right size column

end Together

/-! ## Rows -/

theorem length_styled (style : Style) (s : String) : (styled style s).length = s.toList.length :=
  List.length_map ..

theorem fit_eq_filled (row : Row) (width : Nat) : row.fit width = filled row.fill width row.glyphs := by
  rw [Row.fit, filled, List.take_append, List.take_replicate, Nat.min_eq_left (Nat.sub_le _ _)]

/-- A row that is wide enough begins with its characters. -/
theorem take_drop_filled {style : Style} {glyphs : List Glyph} {width offset part : Nat}
    (wide : glyphs.length ≤ width) (within : offset + part ≤ glyphs.length) :
    ((filled style width glyphs).drop offset).take part = (glyphs.drop offset).take part := by
  rw [filled, List.drop_take, List.take_take, Nat.min_eq_left (by omega),
    List.drop_append_of_le_length (by omega), List.take_append_of_le_length]
  rw [List.length_drop]
  omega

/-! ## Boxes -/

section Box

variable {title : String} {border fill : Style} {width height : Nat} {rows : List Row}

theorem length_topBorder (title : String) (border : Style) (inner : Nat) :
    (topBorder title border inner).length = inner + 2 := by
  simp only [topBorder, List.length_append, List.length_take, List.length_replicate, length_styled,
    String.length_toList]
  have corners : "┌".length = 1 ∧ "┐".length = 1 := by decide
  omega

theorem length_bottomBorder (border : Style) (inner : Nat) :
    (bottomBorder border inner).length = inner + 2 := by
  simp only [bottomBorder, List.length_append, List.length_replicate, length_styled,
    String.length_toList]
  have corners : "└".length = 1 ∧ "┘".length = 1 := by decide
  omega

theorem length_bordered (border : Style) (row : Row) (inner : Nat) :
    (styled border "│" ++ row.fit inner ++ styled border "│").length = inner + 2 := by
  simp only [List.length_append, Row.length_fit, length_styled, String.length_toList]
  have side : "│".length = 1 := by decide
  omega

/-- A box is as wide and as high as it is drawn, whatever it holds. -/
theorem sized_box (tall : 2 ≤ height) :
    (box title border fill width height rows).Sized width height where
  height := by
    simp only [box, List.length_map, List.length_append, List.length_cons, List.length_nil,
      List.length_take, List.length_replicate]
    omega
  width := by
    intro glyphs member
    obtain ⟨whole, among, rfl⟩ := List.mem_map.mp member
    have long : whole.length = width - 2 + 2 := by
      rcases List.mem_cons.mp among with rfl | below
      · exact length_topBorder ..
      · rcases List.mem_append.mp below with inside | last
        · obtain ⟨row, -, rfl⟩ := List.mem_map.mp inside
          exact length_bordered border row _
        · obtain rfl := List.mem_singleton.mp last
          exact length_bottomBorder ..
    rw [List.length_take]
    omega

/-- Rows cut or filled up to a height. -/
theorem getElem?_take_append_replicate {α : Type} (xs : List α) {count place : Nat} (default : α)
    (inside : place < count) :
    (xs.take count ++ List.replicate (count - (xs.take count).length) default)[place]? =
      some (xs[place]?.getD default) := by
  rw [List.getElem?_append, List.length_take, List.getElem?_take_of_lt inside]
  split
  · next shown => rw [List.getElem?_eq_getElem (by omega), Option.getD_some]
  · next missing =>
    rw [List.getElem?_replicate, if_pos (by omega), List.getElem?_eq_none (by omega), Option.getD_none]

/-- Inside its border a box shows its rows from the top, and fills the rest. -/
theorem region_box {place : Nat} (inside : place < height - 2) :
    (box title border fill width height rows).region (place + 1) 1 (width - 2) =
      some ((rows[place]?.getD ⟨[], fill⟩).fit (width - 2)) := by
  have row := getElem?_take_append_replicate rows ⟨[], fill⟩ inside
  have bordered := congrArg (Option.map fun row : Row =>
    styled border "│" ++ row.fit (width - 2) ++ styled border "│") row
  rw [← List.getElem?_map] at bordered
  rw [Screen.region, box, List.getElem?_map, List.cons_append, List.getElem?_cons_succ,
    List.getElem?_append_left (List.getElem?_eq_some_iff.mp bordered).1, bordered, Option.map_some,
    Option.map_some, Option.map_some]
  generalize rows[place]?.getD ⟨[], fill⟩ = shown
  -- A box of at most one column has no place for its rows.
  by_cases narrow : width ≤ 2
  · rw [Nat.sub_eq_zero_of_le narrow, List.take_zero]
    exact congrArg some (List.eq_nil_of_length_eq_zero (Row.length_fit shown 0)).symm
  · have side : styled border "│" = [⟨'│', border⟩] := rfl
    have whole := length_bordered border shown (width - 2)
    have uncut := List.take_of_length_le (i := width) (Nat.le_of_eq (whole.trans (by omega)))
    rw [uncut, side, List.append_assoc, List.singleton_append, List.drop_one, List.tail_cons,
      List.take_left' (Row.length_fit shown (width - 2))]

end Box

end Ls8.Debugger
