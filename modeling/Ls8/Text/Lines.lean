import Ls8.Text.Blank

/-! # Lines and fields

Cutting a sequence at separators. `pieces` is the cut itself; `fields` keeps its non-empty pieces;
`lines` is the cut at line feeds, where a line feed ends a line rather than separating two, and a
carriage return directly before it belongs to the line end. All three work on characters and on
bytes alike. -/

namespace Ls8.Text

variable {α : Type}

/-- The pieces of a sequence between its separators; one more than there are separators. -/
def pieces (isSeparator : α → Bool) : List α → List (List α)
  | [] => [[]]
  | a :: rest =>
    if isSeparator a then [] :: pieces isSeparator rest
    else match pieces isSeparator rest with
      | piece :: others => (a :: piece) :: others
      | [] => [[a]]

/-- The non-empty pieces of a sequence between its separators. -/
def fields (isSeparator : α → Bool) (s : List α) : List (List α) :=
  (pieces isSeparator s).filter (!·.isEmpty)

/-- A line without one carriage return at its end. -/
def dropReturn [DecidableEq α] (cr : α) (line : List α) : List α :=
  if line.getLast? = some cr then line.dropLast else line

/-- Turns the pieces between line feeds into lines: the last piece is a line only if it is not
empty, and only the others were ended by a line feed. -/
def closeLines [DecidableEq α] (cr : α) : List (List α) → List (List α)
  | [] => []
  | [last] => if last.isEmpty then [] else [last]
  | line :: next :: rest => dropReturn cr line :: closeLines cr (next :: rest)

/-- The lines of a sequence, given its line feed and its carriage return. -/
def linesBy [DecidableEq α] (lf cr : α) (s : List α) : List (List α) :=
  closeLines cr (pieces (· == lf) s)

/-- The lines of a text. -/
def lines (s : List Char) : List (List Char) := linesBy '\n' '\r' s

/-- Texts one after the other with a separator between each two. -/
def join (separator : String) (parts : List String) : String := separator.intercalate parts

theorem pieces_ne_nil (isSeparator : α → Bool) (s : List α) : pieces isSeparator s ≠ [] := by
  cases s with
  | nil => simp [pieces]
  | cons a rest =>
    rw [pieces]
    split
    · simp
    · split <;> simp

/-- A sequence without separators is its own only piece. -/
theorem pieces_of_all {isSeparator : α → Bool} {s : List α}
    (h : ∀ a ∈ s, isSeparator a = false) : pieces isSeparator s = [s] := by
  induction s with
  | nil => rfl
  | cons a rest ih => simp [pieces, h a, ih fun b hb => h b (List.mem_cons_of_mem a hb)]

/-- Pieces are cut independently on the two sides of a separator. -/
theorem pieces_append_cons {isSeparator : α → Bool} {a : α} (h : isSeparator a = true)
    (s t : List α) :
    pieces isSeparator (s ++ a :: t) = pieces isSeparator s ++ pieces isSeparator t := by
  induction s with
  | nil => simp [pieces, h]
  | cons b rest ih =>
    simp only [List.cons_append, pieces, ih]
    split
    · rfl
    · cases hp : pieces isSeparator rest with
      | nil => exact absurd hp (pieces_ne_nil _ _)
      | cons piece others => rfl

end Ls8.Text
