import Ls8.Proofs.Debugger.Reset
import Ls8.Proofs.Debugger.Screen
import Ls8.Proofs.Disassembly

/-! # What the screen shows of the machine

The memory box shows sixteen rows of sixteen cells, from the row that has been scrolled to. Scrolling
stays among these rows and comes to each of them, so on a screen that is wide enough every cell can be
seen. The code box shows the window on the code, line by line. Both show the machine as it is, whatever has
been done at the session before. -/

namespace Ls8.Debugger.Session

variable {s : Session}

/-! ## Scrolling -/

theorem scroll_step (s : Session) : s.step.scroll = s.scroll := by
  unfold step
  split
  · simp only
    split <;> rfl
  · rfl

theorem scroll_tick (s : Session) : s.tick.scroll = s.scroll := by
  unfold tick
  split
  · rfl
  · split
    · unfold stopAtBreakpoint
      split <;> exact s.scroll_step
    · rfl

/-- An action leaves the scroll position within the rows of memory. -/
theorem scroll_act_le (low : s.scroll ≤ 15) (action : Action) : (s.act action).scroll ≤ 15 := by
  cases action with
  | step => exact (s.scroll_step).trans_le low
  | tick => exact (s.scroll_tick).trans_le low
  | toggleBreakpoint =>
    simp only [act, toggleBreakpoint]
    split <;> exact low
  | scroll down =>
    simp only [act, scrollMemory, memoryRows]
    split
    · exact Nat.min_le_right ..
    · exact Nat.le_trans (Nat.sub_le ..) low
  | run | pause | setBreakpoint | reset => exact low

theorem scroll_press_le (low : s.scroll ≤ 15) (key : Key) : (s.press key).scroll ≤ 15 := by
  unfold press
  split
  · exact scroll_act_le (s := { s with isRunning := false }) low .step
  · exact low
  · exact low
  · exact scroll_act_le low .toggleBreakpoint
  · exact low
  · exact scroll_act_le low (.scroll false)
  · exact scroll_act_le low (.scroll true)
  · exact low

theorem scroll_handle_le (low : s.scroll ≤ 15) (handling : Handling) : (s.handle handling).scroll ≤ 15 := by
  cases handling with
  | use use =>
    cases use with
    | act action => exact scroll_act_le low action
    | code | draw => exact low
  | press key => exact scroll_press_le low key
  | overwrite cpu => exact low

theorem scroll_handled_le (low : s.scroll ≤ 15) (handlings : List Handling) :
    (s.handled handlings).scroll ≤ 15 := by
  induction handlings generalizing s with
  | nil => exact low
  | cons handling rest ih => exact ih (scroll_handle_le low handling)

/-- The session after a number of scrolls in one direction. -/
theorem after_replicate_scroll (low : s.scroll ≤ 15) (down : Bool) (count : Nat) :
    s.after (List.replicate count (.act (.scroll down))) =
      { s with scroll := if down then min (s.scroll + count) 15 else s.scroll - count } := by
  induction count with
  | zero => cases down <;> simp [after, low]
  | succ count ih =>
    rw [List.replicate_succ', after_append, ih]
    cases down with
    | false => simp [after, use, act, scrollMemory, Nat.sub_sub]
    | true =>
      have next : min (min (s.scroll + count) 15 + 1) 15 = min (s.scroll + (count + 1)) 15 := by omega
      simp [after, use, act, scrollMemory, memoryRows, next]

/-- Scrolling comes to every row of memory. -/
theorem exists_scrolls (low : s.scroll ≤ 15) {row : Nat} (within : row ≤ 15) :
    ∃ scrolls : List Bool,
      s.after (scrolls.map fun down => .act (.scroll down)) = { s with scroll := row } := by
  refine ⟨List.replicate 15 false ++ List.replicate row true, ?_⟩
  have top : s.scroll - 15 = 0 := Nat.sub_eq_zero_of_le low
  rw [List.map_append, List.map_replicate, List.map_replicate, after_append,
    after_replicate_scroll low, after_replicate_scroll]
  · simp [top, within]
  · simp [top]

/-! ## Rows of memory -/

/-- How a cell of a machine is to be shown. -/
structure Colours (c : Cpu) (address : UInt8) (style : Style) : Prop where
  counter : style = { colour := .yellow, bold := true } ↔ address = c.counter
  stack : style = { colour := .magenta, bold := true } ↔
    address ≠ c.counter ∧ address = c.registers.stackPointer
  filled : style = { colour := .white } ↔
    address ≠ c.counter ∧ address ≠ c.registers.stackPointer ∧ c.memory.read address ≠ 0
  zero : style = { colour := .darkGray } ↔
    address ≠ c.counter ∧ address ≠ c.registers.stackPointer ∧ c.memory.read address = 0

theorem colours_cellStyle (s : Session) (address : UInt8) :
    Colours s.cpu address (s.cellStyle address (s.cpu.memory.read address)) := by
  unfold cellStyle
  by_cases counter : address = s.cpu.counter
  · rw [if_pos counter]
    constructor <;> simp [counter]
  · rw [if_neg counter]
    by_cases stack : address = s.cpu.registers.stackPointer
    · rw [if_pos stack]
      constructor <;> simp_all
    · rw [if_neg stack]
      by_cases zero : s.cpu.memory.read address = 0
      · constructor <;> simp_all
      · constructor <;> simp_all

/-- The characters for a row of memory: its address in four columns, and its cells in three each. -/
structure ShowsCells (c : Cpu) (row : Nat) (glyphs : List Glyph) : Prop where
  length : glyphs.length = 52
  address : glyphs.take 4 = plain (Text.hexByte (.ofNat (16 * row)) ++ ": ")
  cell : ∀ offset < 16, ∃ style, Colours c (.ofNat (16 * row + offset)) style ∧
    (glyphs.drop (4 + 3 * offset)).take 3 =
      styled style (Text.hexByte (c.memory.read (.ofNat (16 * row + offset))) ++ " ")

theorem dump_row (m : Memory) {row : Nat} (within : row ≤ 15) :
    m.dump (.ofNat (16 * row)) 16 = (List.range 16).map fun offset =>
      (.ofNat (16 * row + offset), m.read (.ofNat (16 * row + offset))) := by
  have base : (UInt8.ofNat (16 * row)).toNat = 16 * row :=
    UInt8.toNat_ofNat_of_lt' (Nat.lt_of_le_of_lt (Nat.mul_le_mul_left 16 within) (by decide))
  have all : min 16 (memorySize - 16 * row) = 16 := by
    rw [memorySize]
    omega
  rw [Memory.dump, base, all]
  simp only [UInt8.ofNat_add]

theorem length_hexByte (b : UInt8) : (Text.hexByte b).length = 2 := by
  rw [← String.length_toList, Text.toList_hexByte]
  rfl

theorem length_cell (style : Style) (b : UInt8) : (styled style (Text.hexByte b ++ " ")).length = 3 := by
  rw [length_styled, String.length_toList, String.length_append, length_hexByte]
  rfl

/-- Pieces of one length stand at the multiples of this length. -/
theorem take_drop_flatMap {α β : Type} {f : α → List β} {size : Nat} (each : ∀ a, (f a).length = size)
    {xs : List α} {place : Nat} {a : α} (found : xs[place]? = some a) :
    ((xs.flatMap f).drop (size * place)).take size = f a := by
  induction xs generalizing place with
  | nil => contradiction
  | cons b rest ih =>
    rw [List.flatMap_cons]
    cases place with
    | zero =>
      obtain rfl := Option.some.inj found
      rw [Nat.mul_zero, List.drop_zero, List.take_left' (each b)]
    | succ place =>
      rw [Nat.mul_succ, Nat.add_comm, ← List.drop_drop, List.drop_left' (each b)]
      exact ih found

theorem showsCells_memoryRow (s : Session) {row : Nat} (within : row ≤ 15) :
    ShowsCells s.cpu row (s.memoryRow row).glyphs := by
  let cell (offset : Nat) : List Glyph :=
    let address := UInt8.ofNat (16 * row + offset)
    styled (s.cellStyle address (s.cpu.memory.read address))
      (Text.hexByte (s.cpu.memory.read address) ++ " ")
  have each (offset : Nat) : (cell offset).length = 3 := length_cell _ _
  have glyphs : (s.memoryRow row).glyphs =
      plain (Text.hexByte (.ofNat (16 * row)) ++ ": ") ++ (List.range 16).flatMap cell := by
    rw [memoryRow, Nat.mul_comm, dump_row s.cpu.memory within, List.flatMap_map]
  have front : (plain (Text.hexByte (.ofNat (16 * row)) ++ ": ")).length = 4 := by
    rw [plain, length_styled, String.length_toList, String.length_append, length_hexByte]
    rfl
  rw [glyphs]
  constructor
  · rw [List.length_append, front, List.length_flatMap, funext each]
    rfl
  · rw [List.take_left' front]
  · intro offset inside
    refine ⟨_, s.colours_cellStyle _, ?_⟩
    rw [← List.drop_drop, List.drop_left' front]
    exact take_drop_flatMap each (List.getElem?_range inside)

/-! ## Boxes on the screen -/

section Draw

variable {column height : Nat}

theorem sized_left (s : Session) (column : Nat) (tall : 22 ≤ height) :
    Screen.Sized (s.codeBox column (height - 9) ++ s.registerBox column 6 ++ s.statusBox column 3)
      column height :=
  .stack (sized_box (by omega)) (sized_box (by decide)) (sized_box (by decide)) (by omega)

theorem sized_right (s : Session) (column : Nat) (tall : 22 ≤ height) :
    Screen.Sized (s.memoryBox column (height - 12) ++ s.outputBox column 8 ++ helpBox column 4)
      column height :=
  .stack (sized_box (by omega)) (sized_box (by decide)) (sized_box (by decide)) (by omega)

theorem draw_two_mul (s : Session) (column height : Nat) :
    s.draw (2 * column) height =
      beside (s.codeBox column (height - 9) ++ s.registerBox column 6 ++ s.statusBox column 3)
        (s.memoryBox column (height - 12) ++ s.outputBox column 8 ++ helpBox column 4) := by
  rw [draw, Nat.mul_div_cancel_left column Nat.two_pos]

theorem sized_draw (s : Session) (column : Nat) (tall : 22 ≤ height) :
    (s.draw (2 * column) height).Sized (2 * column) height := by
  rw [draw_two_mul, Nat.two_mul]
  exact (s.sized_left column tall).beside (s.sized_right column tall)

/-- Inside the left box at the top are the lines of the code. -/
theorem region_draw_code (s : Session) (column : Nat) (tall : 22 ≤ height) {place : Nat}
    (inside : place < height - 11) :
    (s.draw (2 * column) height).region (place + 1) 1 (column - 2) =
      some ((((s.code (height - 11))[place]?.map s.codeRow).getD ⟨[], {}⟩).fit (column - 2)) := by
  have left := s.sized_left column tall
  have code : height - 9 - 2 = height - 11 := by omega
  have upper : (s.codeBox column (height - 9)).Sized column (height - 9) := sized_box (by omega)
  rw [draw_two_mul, region_beside_left left (s.sized_right column tall) (by omega), List.append_assoc,
    region_append (by rw [upper.height]; omega), codeBox, region_box (by omega), code, List.getElem?_map]

/-- Inside the right box at the top are the rows of memory from the one that has been scrolled to. -/
theorem region_draw_memory (s : Session) (column : Nat) (tall : 22 ≤ height) {place : Nat}
    (inside : place < height - 14) :
    (s.draw (2 * column) height).region (place + 1) (column + 1) (column - 2) =
      some (if s.scroll + place ≤ 15 then (s.memoryRow (s.scroll + place)).fit (column - 2)
        else Row.fit ⟨[], {}⟩ (column - 2)) := by
  have left := s.sized_left column tall
  have upper : (s.memoryBox column (height - 12)).Sized column (height - 12) := sized_box (by omega)
  rw [draw_two_mul, region_beside_right left (s.sized_right column tall), List.append_assoc,
    region_append (by rw [upper.height]; omega), memoryBox, region_box (by omega), List.getElem?_map]
  split
  · next shown =>
    rw [List.getElem?_range (by rw [memoryRows]; omega), Option.map_some, Option.getD_some]
  · next past =>
    rw [List.getElem?_eq_none (by rw [List.length_range, memoryRows]; omega), Option.map_none,
      Option.getD_none]

/-- On a screen that is wide enough a row of memory shows each of its cells. -/
theorem region_draw_cell (s : Session) (tall : 22 ≤ height) (wide : 54 ≤ column) {place : Nat}
    (inside : place < height - 14) (shown : s.scroll + place ≤ 15) {offset : Nat} (within : offset < 16) :
    ∃ style, Colours s.cpu (.ofNat (16 * (s.scroll + place) + offset)) style ∧
      (s.draw (2 * column) height).region (place + 1) (column + 5 + 3 * offset) 3 =
        some (styled style (Text.hexByte
          (s.cpu.memory.read (.ofNat (16 * (s.scroll + place) + offset))) ++ " ")) := by
  have cells := s.showsCells_memoryRow shown
  obtain ⟨style, colours, cell⟩ := cells.cell offset within
  have row := s.region_draw_memory column tall inside
  rw [if_pos shown, fit_eq_filled] at row
  have part := Screen.region_of_region (4 + 3 * offset) 3 row (by omega)
  have place : column + 1 + (4 + 3 * offset) = column + 5 + 3 * offset := by omega
  rw [place, take_drop_filled (by rw [cells.length]; omega) (by rw [cells.length]; omega), cell] at part
  exact ⟨style, colours, part⟩

end Draw

/-! ## Lines of code -/

/-- How a line of code is to be shown: the next one before those with a breakpoint before the others. -/
def lineStyle (s : Session) (line : CodeLine) : Style :=
  if line.isCurrent then { colour := .yellow, bold := true }
  else if line.address ∈ s.breakpoints then { colour := .red }
  else {}

/-- The characters of a line of code: a bullet if there is a breakpoint, an arrow if it is the next one,
its address and its text. -/
def lineText (s : Session) (line : CodeLine) : List Char :=
  [if line.address ∈ s.breakpoints then '●' else ' ', ' ', if line.isCurrent then '▶' else ' ', ' '] ++
    hexDigits line.address ++ [':', ' '] ++ line.text.toList

theorem codeRow_eq (s : Session) (line : CodeLine) :
    s.codeRow line = ⟨(s.lineText line).map (⟨·, s.lineStyle line⟩), s.lineStyle line⟩ := by
  have text : ((if line.address ∈ s.breakpoints then "●" else " ") ++ " " ++
      (if line.isCurrent then "▶ " else "  ") ++ Text.hexByte line.address ++ ": " ++ line.text).toList =
        s.lineText line := by
    rw [lineText]
    split <;> split <;> simp [Text.toList_hexByte]
  simp only [codeRow, styled, text, lineStyle]

/-- The screen of a session of two columns, whatever has been done at the session before.

Row `i` of the memory box, inside its border, shows row `scroll + i` of memory, cut to the width of the box,
as long as there is such a row, and is blank behind the last one. The scroll position is always one of the
sixteen rows, and on a screen that is wide enough some scrolls bring any cell onto the screen. Row `i` of the
code box shows line `i` of the window on the code, in one style from border to border, and is blank behind
the last line. -/
theorem screen_shows_machine (program : List UInt8) (handlings : List Handling) (column : Nat)
    {height : Nat} (tall : 22 ≤ height) :
    let s := (start program).handled handlings
    let screen := s.draw (2 * column) height
    screen.Sized (2 * column) height ∧
      s.scroll ≤ 15 ∧
      (∀ i < height - 14,
        (s.scroll + i ≤ 15 → ∃ glyphs, ShowsCells s.cpu (s.scroll + i) glyphs ∧
          screen.region (i + 1) (column + 1) (column - 2) = some (filled {} (column - 2) glyphs)) ∧
        (15 < s.scroll + i →
          screen.region (i + 1) (column + 1) (column - 2) = some (filled {} (column - 2) []))) ∧
      (54 ≤ column → ∀ address : UInt8, ∃ scrolls : List Bool,
        let t := s.after (scrolls.map fun down => .act (.scroll down))
        t = { s with scroll := t.scroll } ∧ t.scroll ≤ 15 ∧
          ∃ i < height - 14, t.scroll + i = address.toNat / 16 ∧
            ∃ style, Colours s.cpu address style ∧
              (t.draw (2 * column) height).region (i + 1) (column + 5 + 3 * (address.toNat % 16)) 3 =
                some (styled style (Text.hexByte (s.cpu.memory.read address) ++ " "))) ∧
      ∀ i < height - 11,
        screen.region (i + 1) 1 (column - 2) = some (match (s.code (height - 11))[i]? with
          | some line =>
            filled (s.lineStyle line) (column - 2) ((s.lineText line).map (⟨·, s.lineStyle line⟩))
          | none => filled {} (column - 2) []) := by
  intro s screen
  have low : s.scroll ≤ 15 := scroll_handled_le (Nat.zero_le 15) handlings
  refine ⟨s.sized_draw column tall, low, fun i inside => ⟨fun shown => ?_, fun past => ?_⟩,
    fun wide address => ?_, fun i inside => ?_⟩
  · refine ⟨_, s.showsCells_memoryRow shown, ?_⟩
    rw [s.region_draw_memory column tall inside, if_pos shown, fit_eq_filled]
    rfl
  · rw [s.region_draw_memory column tall inside, if_neg (Nat.not_le.mpr past), fit_eq_filled]
  · have row : address.toNat / 16 ≤ 15 := by
      have bound := address.toNat_lt
      omega
    obtain ⟨scrolls, there⟩ := exists_scrolls low row
    have cell := region_draw_cell { s with scroll := address.toNat / 16 } tall wide
      (show 0 < height - 14 by omega) row (Nat.mod_lt address.toNat (by decide))
    simp only [Nat.add_zero, Nat.div_add_mod, UInt8.ofNat_toNat] at cell
    refine ⟨scrolls, ?_⟩
    rw [there]
    exact ⟨rfl, row, 0, by omega, rfl, cell⟩
  · rw [s.region_draw_code column tall inside]
    cases (s.code (height - 11))[i]? with
    | none => rw [Option.map_none, Option.getD_none, fit_eq_filled]
    | some line => rw [Option.map_some, Option.getD_some, fit_eq_filled, codeRow_eq]

/-- A session that has come to a breakpoint and has been scrolled: the line there is cut at the border, and
the cell at the stack pointer can be scrolled to. -/
theorem print_on_screen :
    let s := (start [0x82, 0, 8, 0x47, 0, 1]).handled
      [.use (.act .step), .use (.act .toggleBreakpoint), .press .down]
    22 ≤ 22 ∧ s.scroll = 1 ∧
      (s.draw 24 22).region 2 1 10 =
        some ("● ▶ 03: PR".toList.map (⟨·, { colour := .yellow, bold := true }⟩)) ∧
      ∃ (scrolls : List Bool) (i : Nat),
        ((s.after (scrolls.map fun down => .act (.scroll down))).draw 108 22).region (i + 1) 71 3 =
          some (styled { colour := .magenta, bold := true } "00 ") := by
  intro s
  have tall : 22 ≤ 22 := Nat.le_refl 22
  obtain ⟨-, -, -, -, code⟩ := screen_shows_machine [0x82, 0, 8, 0x47, 0, 1]
    [.use (.act .step), .use (.act .toggleBreakpoint), .press .down] 12 tall
  obtain ⟨-, -, -, visible, -⟩ := screen_shows_machine [0x82, 0, 8, 0x47, 0, 1]
    [.use (.act .step), .use (.act .toggleBreakpoint), .press .down] 54 tall
  obtain ⟨scrolls, -, -, i, -, -, style, colours, cell⟩ := visible (Nat.le_refl 54) 0xf4
  have magenta : style = { colour := .magenta, bold := true } := colours.stack.mpr (by decide)
  have line : (s.code 11)[1]? = some ⟨3, "PRN R0", true⟩ := by decide
  refine ⟨tall, by decide, (code 1 (by decide)).trans ?_, scrolls, i, ?_⟩
  · rw [line]
    decide
  · rw [magenta] at cell
    exact cell

end Ls8.Debugger.Session
