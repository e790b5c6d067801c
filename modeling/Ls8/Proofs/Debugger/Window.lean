import Mathlib.Algebra.Order.BigOperators.Group.List
import Ls8.Proofs.Debugger.Code
import Ls8.Proofs.Tiling

/-! # The window on the code

The lines of code on the screen follow one another as the instructions do: each line stands where the
instruction of the line before it ends, so none is left out. The size of an instruction is read off its
text, which assembles to its bytes, and does not depend on where the window has the line from.

Lines from the listing of the program stand at different places, and one of them is marked. Lines from
memory go on at address 0 behind address 255. As long as the window is shorter than memory, its lines
stand at different addresses and one of them is marked; a window that goes round memory comes back to
the program counter, and marks the line there again. -/

namespace Ls8

theorem assemble_of_contributes {text : String} {bytes : List UInt8}
    (contributes : Contributes text bytes) (fits : bytes.length ≤ memorySize) :
    assemble text = .ok bytes := by
  have alone : ∀ line ∈ [(⟨0, bytes, text⟩ : ListingLine)], Contributes line.text line.bytes :=
    List.forall_mem_singleton.mpr contributes
  have joined : Text.join "\n" [text] = text := String.intercalate_singleton
  have assembled := assemble_join alone
  rw [List.map_singleton, joined, List.flatMap_singleton] at assembled
  exact assembled.trans (if_pos fits)

/-- The text at an address of memory contributes the bytes of an instruction, or one byte. -/
theorem contributes_disassemble (m : Memory) (address : UInt8) :
    ∃ bytes, Contributes (m.disassemble address).1 bytes ∧
      bytes.length = (m.disassemble address).2 ∧ 1 ≤ bytes.length ∧ bytes.length ≤ 3 := by
  rw [Memory.disassemble, disassembleBytes]
  cases decode _ _ _ with
  | ok i =>
    refine ⟨i.encode, contributes_text i, i.length_encode, Nat.succ_pos _, ?_⟩
    rw [i.length_encode]
    exact i.opcode.size_le
  | error e => exact ⟨[m.read address], contributes_dataText _, rfl, Nat.le_refl 1, Nat.le_add_left 1 2⟩

namespace Debugger

namespace CodeLine

/-- The number of bytes of the instruction that a line shows, read off its text. -/
def size (line : CodeLine) : Nat := ((assemble line.text).toOption.getD []).length

/-- A line stands where the instruction of the one before it ends. -/
def Precedes (line next : CodeLine) : Prop := next.address = line.address + UInt8.ofNat line.size

theorem size_eq {line : CodeLine} {bytes : List UInt8} (contributes : Contributes line.text bytes)
    (short : bytes.length ≤ 3) : line.size = bytes.length := by
  rw [size, assemble_of_contributes contributes (Nat.le_trans short (by decide))]
  rfl

end CodeLine

open CodeLine (Precedes)

/-! ## Lines that follow one another -/

section

variable {lines rest : List CodeLine} {first line : CodeLine}

/-- The number of bytes from the first of some lines to the last. -/
def extent (lines : List CodeLine) : Nat := (lines.dropLast.map CodeLine.size).sum

theorem extent_cons_cons (first next : CodeLine) (rest : List CodeLine) :
    extent (first :: next :: rest) = first.size + extent (next :: rest) := by
  rw [extent, List.dropLast_cons_cons, List.map_cons, List.sum_cons, extent]

theorem extent_le (small : ∀ line ∈ lines, line.size ≤ 3) : extent lines ≤ 3 * (lines.length - 1) := by
  have each : ∀ size ∈ lines.dropLast.map CodeLine.size, size ≤ 3 := by
    intro size member
    obtain ⟨line, among, rfl⟩ := List.mem_map.mp member
    exact small line (List.mem_of_mem_dropLast among)
  have total := List.sum_le_card_nsmul _ 3 each
  rwa [List.length_map, List.length_dropLast, smul_eq_mul, Nat.mul_comm] at total

/-- A later line stands some way behind the first, but no further than the last. -/
theorem exists_distance (chain : (first :: rest).IsChain Precedes)
    (filled : ∀ line ∈ first :: rest, 1 ≤ line.size) (later : line ∈ rest) :
    ∃ distance, 0 < distance ∧ distance ≤ extent (first :: rest) ∧
      line.address = first.address + UInt8.ofNat distance := by
  induction rest generalizing first with
  | nil => contradiction
  | cons next rest ih =>
    obtain ⟨place, onwards⟩ := List.isChain_cons_cons.mp chain
    obtain ⟨positive, others⟩ := List.forall_mem_cons.mp filled
    rw [extent_cons_cons]
    rcases List.mem_cons.mp later with rfl | further
    · exact ⟨first.size, positive, Nat.le_add_right .., place⟩
    · obtain ⟨distance, -, within, there⟩ := ih onwards others further
      refine ⟨first.size + distance, by omega, by omega, ?_⟩
      rw [there, place, UInt8.ofNat_add, UInt8.add_assoc]

/-- Lines that do not go round memory stand at different addresses. -/
theorem nodup_address (chain : lines.IsChain Precedes) (filled : ∀ line ∈ lines, 1 ≤ line.size)
    (short : extent lines < memorySize) : (lines.map (·.address)).Nodup := by
  induction lines with
  | nil => exact .nil
  | cons first rest ih =>
    rw [List.map_cons, List.nodup_cons]
    constructor
    · intro again
      obtain ⟨line, later, same⟩ := List.mem_map.mp again
      obtain ⟨distance, positive, within, there⟩ := exists_distance chain filled later
      apply add_ofNat_ne_self first.address positive (Nat.lt_of_le_of_lt within short)
      rw [← there, same]
    · refine ih chain.tail (List.forall_mem_cons.mp filled).2 ?_
      cases rest with
      | nil => decide
      | cons next rest =>
        rw [extent_cons_cons] at short
        omega

/-- What stands at different places stands at its own place once. -/
theorem countP_place_eq_one {α β : Type} [DecidableEq β] {place : α → β} {xs : List α}
    (distinct : (xs.map place).Nodup) {x : α} (member : x ∈ xs) :
    xs.countP (fun y => place y == place x) = 1 := by
  rw [← List.count_eq_one_of_mem distinct (List.mem_map_of_mem member), List.count, List.countP_map]
  rfl

end

namespace Session

variable {s : Session} {count : Nat} {line : CodeLine}

/-! ## Lines from memory -/

theorem size_disassemble (m : Memory) (address : UInt8) (flag : Bool) :
    CodeLine.size ⟨address, (m.disassemble address).1, flag⟩ = (m.disassemble address).2 := by
  obtain ⟨bytes, contributes, size, -, short⟩ := contributes_disassemble m address
  rw [← size]
  exact CodeLine.size_eq contributes short

theorem codeFrom_succ (m : Memory) (counter address : UInt8) (count : Nat) :
    codeFrom m counter address (count + 1) =
      ⟨address, (m.disassemble address).1, address == counter⟩ ::
        codeFrom m counter (address + UInt8.ofNat (m.disassemble address).2) count := rfl

theorem length_codeFrom (m : Memory) (counter address : UInt8) (count : Nat) :
    (codeFrom m counter address count).length = count := by
  induction count generalizing address with
  | zero => rfl
  | succ count ih => rw [codeFrom, List.length_cons, ih]

theorem address_head?_codeFrom (m : Memory) (counter address : UInt8) (count : Nat) :
    ∀ line ∈ (codeFrom m counter address count).head?, line.address = address := by
  cases count with
  | zero => nofun
  | succ count =>
    rintro _ ⟨rfl⟩
    rfl

theorem isChain_codeFrom (m : Memory) (counter address : UInt8) (count : Nat) :
    (codeFrom m counter address count).IsChain Precedes := by
  induction count generalizing address with
  | zero => exact .nil
  | succ count ih =>
    rw [codeFrom_succ]
    refine (ih _).cons fun next head => ?_
    rw [Precedes, address_head?_codeFrom m counter _ count next head, size_disassemble]

theorem sizes_codeFrom {m : Memory} {counter address : UInt8}
    (member : line ∈ codeFrom m counter address count) : 1 ≤ line.size ∧ line.size ≤ 3 := by
  obtain ⟨bytes, contributes, -, filled, short⟩ := contributes_disassemble m line.address
  rw [← (mem_codeFrom member).1] at contributes
  rw [CodeLine.size_eq contributes short]
  exact ⟨filled, short⟩

/-- Of the lines from memory those at the program counter are marked, once if the lines do not go
round memory. -/
theorem countP_codeFrom (m : Memory) (counter : UInt8) (positive : 0 < count)
    (short : extent (codeFrom m counter counter count) < memorySize) :
    (codeFrom m counter counter count).countP (·.isCurrent) = 1 := by
  obtain ⟨line, member, current⟩ := exists_current_codeFrom m counter positive
  have here : line.address = counter := by
    rw [(mem_codeFrom member).2] at current
    exact eq_of_beq current
  have distinct := nodup_address (isChain_codeFrom m counter counter count)
    (fun line member => (sizes_codeFrom member).1) short
  rw [← countP_place_eq_one distinct member, here]
  apply List.countP_congr
  intro other among
  rw [(mem_codeFrom among).2]

/-! ## Lines from the listing -/

/-- A line of the listing as it is shown at a program counter. -/
def shown (counter : UInt8) (line : ListingLine) : CodeLine :=
  ⟨UInt8.ofNat line.address, line.text, line.address == counter.toNat⟩

section

variable {image : List UInt8} {window : List ListingLine}

theorem size_shown (counter : UInt8) {line : ListingLine} (member : line ∈ listing image) :
    (shown counter line).size = line.bytes.length := by
  obtain ⟨-, -, shows⟩ := (listing_tiling image).shows_of_mem member
  exact CodeLine.size_eq (contributes_of_mem_sweep member) shows.length_le

theorem isChain_shown (counter : UInt8) (part : window <:+: listing image) :
    (window.map (shown counter)).IsChain Precedes := by
  rw [List.isChain_map]
  have chain := List.IsChain.infix (listing_tiling image).isChain part
  refine chain.imp_of_mem_imp fun line next member _ place => ?_
  have size := size_shown counter (part.subset member)
  rw [Precedes, size, shown, shown]
  exact (congrArg UInt8.ofNat place).trans (UInt8.ofNat_add ..)

theorem nodup_address_part (part : window <:+: listing image) :
    (window.map (·.address)).Nodup := by
  have apart := (listing_tiling image).pairwise.sublist part.sublist
  exact List.pairwise_map.mpr (apart.imp Nat.ne_of_lt)

/-- Of the lines from the listing one is marked. -/
theorem countP_shown {counter : UInt8} (part : window <:+: listing image) {line : ListingLine}
    (member : line ∈ window) (here : line.address = counter.toNat) :
    (window.map (shown counter)).countP (·.isCurrent) = 1 := by
  rw [List.countP_map, ← countP_place_eq_one (nodup_address_part part) member, here]
  rfl

end

/-! ## Windows -/

/-- The window shows a part of the listing, with the line at the program counter, or it shows memory
from the program counter on. -/
theorem code_views (s : Session) (positive : 0 < count) :
    (∃ window, window <:+: listing s.program ∧ window.length ≤ count ∧
        (∃ line ∈ window, line.address = s.cpu.counter.toNat) ∧
        s.code count = window.map (shown s.cpu.counter)) ∨
      (∀ line ∈ listing s.program, line.address ≠ s.cpu.counter.toNat) ∧
        s.code count = codeFrom s.cpu.memory s.cpu.counter s.cpu.counter count := by
  obtain ⟨current, line, found, here, shows⟩ | absent := code_cases s count
  · have part := (List.take_prefix count _).isInfix.trans
      (List.drop_suffix (current - count / 2) (listing s.program)).isInfix
    exact .inl ⟨_, part, List.length_take_le .., ⟨line, mem_window found positive, here⟩, shows⟩
  · exact .inr absent

theorem length_code_le (s : Session) (positive : 0 < count) : (s.code count).length ≤ count := by
  obtain ⟨window, -, length, -, shows⟩ | ⟨-, shows⟩ := s.code_views positive
  · rw [shows, List.length_map]
    exact length
  · rw [shows, length_codeFrom]

theorem isChain_code (s : Session) (positive : 0 < count) : (s.code count).IsChain Precedes := by
  obtain ⟨window, part, -, -, shows⟩ | ⟨-, shows⟩ := s.code_views positive
  · rw [shows]
    exact isChain_shown s.cpu.counter part
  · rw [shows]
    exact isChain_codeFrom ..

theorem sizes_code (positive : 0 < count) (member : line ∈ s.code count) :
    1 ≤ line.size ∧ line.size ≤ 3 := by
  obtain ⟨window, part, -, -, shows⟩ | ⟨-, shows⟩ := s.code_views positive
  · rw [shows] at member
    obtain ⟨listed, among, rfl⟩ := List.mem_map.mp member
    obtain ⟨-, -, stands⟩ := (listing_tiling s.program).shows_of_mem (part.subset among)
    rw [size_shown s.cpu.counter (part.subset among)]
    exact ⟨stands.length_pos, stands.length_le⟩
  · rw [shows] at member
    exact sizes_codeFrom member

/-- One line is marked, if the window shows the listing or does not go round memory. -/
theorem countP_code (s : Session) (positive : 0 < count)
    (single : (∃ line ∈ listing s.program, line.address = s.cpu.counter.toNat) ∨
      extent (s.code count) < memorySize) :
    (s.code count).countP (·.isCurrent) = 1 := by
  obtain ⟨window, part, -, ⟨line, among, here⟩, shows⟩ | ⟨absent, shows⟩ := s.code_views positive
  · rw [shows]
    exact countP_shown part among here
  · -- Only a window on memory can come back to the program counter.
    rcases single with ⟨line, among, here⟩ | short
    · exact absurd here (absent line among)
    · rw [shows] at short ⊢
      exact countP_codeFrom _ _ positive short

theorem exists_part (s : Session) (positive : 0 < count)
    (listed : ∃ line ∈ listing s.program, line.address = s.cpu.counter.toNat) :
    ∃ window, window <:+: listing s.program ∧ (window.map (·.address)).Nodup ∧
      (s.code count).map (fun line => (line.address, line.text)) =
        window.map fun line => (UInt8.ofNat line.address, line.text) := by
  obtain ⟨window, part, -, -, shows⟩ | ⟨absent, -⟩ := s.code_views positive
  · refine ⟨window, part, nodup_address_part part, ?_⟩
    rw [shows, List.map_map]
    rfl
  · obtain ⟨line, among, here⟩ := listed
    exact absurd here (absent line among)

/-- A window on memory marks its lines at the program counter. -/
theorem isCurrent_iff (positive : 0 < count)
    (unlisted : ¬∃ line ∈ listing s.program, line.address = s.cpu.counter.toNat)
    (member : line ∈ s.code count) : line.isCurrent = true ↔ line.address = s.cpu.counter := by
  obtain ⟨window, part, -, ⟨other, among, here⟩, -⟩ | ⟨-, shows⟩ := s.code_views positive
  · exact absurd ⟨other, part.subset among, here⟩ unlisted
  · rw [shows] at member
    rw [(mem_codeFrom member).2]
    exact beq_iff_eq

/-- The window on the code is never empty and never longer than asked for. Some line is marked, and
every line that is marked stands at the program counter. Each line stands where the instruction of the
line before it ends, modulo 256, so none is left out.

If a line of the listing begins at the program counter, the window shows a part of the listing, no line
of it twice, and marks one line. Otherwise it marks all its lines at the program counter. That is one
line, and no address is shown twice, as long as the lines before the last have fewer than 256 bytes;
86 lines always do. -/
theorem window_coherent (s : Session) {count : Nat} (positive : 0 < count) :
    let lines := s.code count
    let listed := ∃ line ∈ listing s.program, line.address = s.cpu.counter.toNat
    (lines ≠ [] ∧ lines.length ≤ count) ∧
      ((∃ line ∈ lines, line.isCurrent = true) ∧
        ∀ line ∈ lines, line.isCurrent = true → line.address = s.cpu.counter) ∧
      lines.IsChain (fun line next => next.address = line.address + UInt8.ofNat line.size) ∧
      (∀ line ∈ lines, 1 ≤ line.size ∧ line.size ≤ 3) ∧
      (listed ∨ extent lines < 256 → lines.countP (·.isCurrent) = 1) ∧
      (listed → ∃ window, window <:+: listing s.program ∧ (window.map (·.address)).Nodup ∧
        lines.map (fun line => (line.address, line.text)) =
          window.map fun line => (UInt8.ofNat line.address, line.text)) ∧
      (¬listed → ∀ line ∈ lines, line.isCurrent = true ↔ line.address = s.cpu.counter) ∧
      (extent lines < 256 → (lines.map (·.address)).Nodup) ∧
      (count ≤ 86 → extent lines < 256) := by
  intro lines listed
  have length : lines.length ≤ count := s.length_code_le positive
  have chain : lines.IsChain Precedes := s.isChain_code positive
  have sizes : ∀ line ∈ lines, 1 ≤ line.size ∧ line.size ≤ 3 := fun line => sizes_code positive
  obtain ⟨line, member, current⟩ := s.exists_current positive
  refine ⟨⟨List.ne_nil_of_mem member, length⟩,
    ⟨⟨line, member, current⟩, fun line member current => (current_cases member current).1⟩, chain, sizes,
    s.countP_code positive, s.exists_part positive, fun unlisted line => isCurrent_iff positive unlisted,
    nodup_address chain fun line member => (sizes line member).1, fun few => ?_⟩
  have total := extent_le fun line member => (sizes line member).2
  omega

/-- The program counter is put into the middle of the first instruction of a program. -/
theorem window_inside_instruction :
    let new := start [0x82, 0, 8, 0x47, 0, 1]
    let s := { new with cpu := new.cpu.jump 2 }
    0 < 4 ∧ s.code 4 = [⟨2, "DB 0x08", true⟩, ⟨3, "PRN R0", false⟩, ⟨5, "HLT", false⟩,
        ⟨6, "DB 0x00", false⟩] ∧
      (s.code 4).countP (·.isCurrent) = 1 ∧ ((s.code 4).map (·.address)).Nodup := by
  intro new s
  have lines : s.code 4 = [⟨2, "DB 0x08", true⟩, ⟨3, "PRN R0", false⟩, ⟨5, "HLT", false⟩,
      ⟨6, "DB 0x00", false⟩] := by decide
  obtain ⟨-, -, -, -, single, -, -, distinct, short⟩ := window_coherent s (show 0 < 4 by decide)
  have within := short (by decide)
  exact ⟨by decide, lines, single (.inr within), distinct within⟩

theorem disassemble_zero (address : UInt8) : Memory.zero.disassemble address = ("DB 0x00", 1) := by
  rw [Memory.disassemble, Memory.readOffset, Memory.readOffset, Memory.read_zero, Memory.read_zero,
    Memory.read_zero]
  decide

/-- Memory that holds zeros only is shown byte by byte. -/
theorem codeFrom_zero (counter address : UInt8) (count : Nat) :
    codeFrom .zero counter address count = (List.range count).map fun distance =>
      ⟨address + UInt8.ofNat distance, "DB 0x00", address + UInt8.ofNat distance == counter⟩ := by
  induction count generalizing address with
  | zero => rfl
  | succ count ih =>
    have here : address + UInt8.ofNat 0 = address := UInt8.add_zero address
    rw [codeFrom_succ, disassemble_zero, ih, List.range_succ_eq_map, List.map_cons, List.map_map, here]
    congr 1
    apply List.map_congr_left
    intro distance _
    have next : address + UInt8.ofNat 1 + UInt8.ofNat distance = address + UInt8.ofNat (distance + 1) :=
      add_one_add_ofNat address distance
    rw [next]
    rfl

/-- An empty program, with a window of one line more than memory has cells: the line at the program
counter is shown and marked a second time at the end. -/
theorem window_round_memory : ((start []).code 257).countP (·.isCurrent) = 2 := by
  have lines : (start []).code 257 = codeFrom .zero 0 0 257 := by
    have empty : (start []).cpu.memory = .zero := rfl
    exact congrArg (fun memory => codeFrom memory 0 0 257) empty
  rw [lines, codeFrom_zero, List.countP_map]
  decide +kernel

end Session

end Debugger

end Ls8
