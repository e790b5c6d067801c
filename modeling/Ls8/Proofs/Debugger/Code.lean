import Ls8.Proofs.Debugger.Execution
import Ls8.Proofs.Listing

/-! # The code on the screen

Where a line of the program's listing begins at the program counter, a session shows the code from
this listing, and otherwise from memory. The line that it marks as the next one shows what the machine
will execute as long as the bytes of the instruction are those of the program; a machine that has
pushed onto its own code, or an instruction that the program cuts off, is shown as it was written. -/

namespace Ls8

/-! ## Lines that have all their bytes -/

theorem size_disassembleBytes_le (ir a b : UInt8) : (disassembleBytes ir a b).2 ≤ usedBytes ir := by
  rw [disassembleBytes]
  cases decoded : decode ir a b with
  | error e => exact usedBytes_pos ir
  | ok i =>
    obtain ⟨rest, bytes⟩ := decode_eq_ok_iff.mp decoded
    have first : i.opcode.byte = ir := (List.cons.inj bytes).1
    rw [← first, usedBytes_byte]
    exact Nat.le_refl _

/-- A line that has all the bytes that are used shows the instruction in them. -/
theorem text_first {address : Nat} {byte a b : UInt8} {rest : List UInt8}
    (whole : usedBytes byte ≤ rest.length + 1) (first : 1 < usedBytes byte → rest[0]? = some a)
    (second : 2 < usedBytes byte → rest[1]? = some b) :
    (ListingLine.first address byte rest).text = (disassembleBytes byte a b).1 := by
  have same : decode byte (rest[0]?.getD 0) (rest[1]?.getD 0) = decode byte a b := by
    apply decode_congr
    · intro used
      rw [first used, Option.getD_some]
    · intro used
      rw [second used, Option.getD_some]
  have shown : disassembleBytes byte (rest[0]?.getD 0) (rest[1]?.getD 0) =
      disassembleBytes byte a b := by
    rw [disassembleBytes, disassembleBytes, same]
  have fits := Nat.le_trans (size_disassembleBytes_le byte a b) whole
  rw [ListingLine.first, shown]
  simp only [if_pos fits]

namespace Debugger.Session

variable {s : Session} {count : Nat} {line : CodeLine}

/-- The bytes of the next instruction are those of the program. -/
def Unchanged (s : Session) : Prop :=
  ∀ k < usedBytes (s.cpu.memory.read s.cpu.counter),
    s.program[s.cpu.counter.toNat + k]? = some (s.cpu.memory.read (s.cpu.counter + UInt8.ofNat k))

instance (s : Session) : Decidable s.Unchanged := Nat.decidableBallLT ..

/-! ## Lines from memory -/

theorem mem_codeFrom {m : Memory} {counter address : UInt8}
    (member : line ∈ codeFrom m counter address count) :
    line.text = (m.disassemble line.address).1 ∧ line.isCurrent = (line.address == counter) := by
  induction count generalizing address with
  | zero => contradiction
  | succ count ih =>
    rw [codeFrom] at member
    rcases List.mem_cons.mp member with rfl | later
    · exact ⟨rfl, rfl⟩
    · exact ih later

theorem exists_current_codeFrom (m : Memory) (counter : UInt8) (positive : 0 < count) :
    ∃ line ∈ codeFrom m counter counter count, line.isCurrent = true := by
  obtain ⟨rest, rfl⟩ := Nat.exists_eq_succ_of_ne_zero (Nat.ne_of_gt positive)
  exact ⟨_, List.mem_cons_self, BEq.rfl⟩

/-! ## Lines from the listing -/

/-- Code is shown from the listing, around a line that begins at the program counter, or from memory
if there is none. -/
theorem code_cases (s : Session) (count : Nat) :
    (∃ current shown, (listing s.program)[current]? = some shown ∧
        shown.address = s.cpu.counter.toNat ∧
        s.code count = (((listing s.program).drop (current - count / 2)).take count).map fun line =>
          ⟨UInt8.ofNat line.address, line.text, line.address == s.cpu.counter.toNat⟩) ∨
      (∀ shown ∈ listing s.program, shown.address ≠ s.cpu.counter.toNat) ∧
        s.code count = codeFrom s.cpu.memory s.cpu.counter s.cpu.counter count := by
  rw [code]
  cases found : (listing s.program).findIdx? (·.address == s.cpu.counter.toNat) with
  | some current =>
    obtain ⟨within, here, -⟩ := List.findIdx?_eq_some_iff_getElem.mp found
    exact .inl ⟨current, _, List.getElem?_eq_getElem within, eq_of_beq here, rfl⟩
  | none =>
    refine .inr ⟨?_, rfl⟩
    intro shown member
    exact ne_of_beq_false (List.findIdx?_eq_none_iff.mp found shown member)

/-- The window around a line contains the line. -/
theorem mem_window {α : Type} {lines : List α} {current : Nat} {shown : α}
    (found : lines[current]? = some shown) (positive : 0 < count) :
    shown ∈ (lines.drop (current - count / 2)).take count := by
  apply List.mem_of_getElem? (i := current - (current - count / 2))
  rw [List.getElem?_take_of_lt (by omega), List.getElem?_drop, ← found]
  congr 1
  omega

/-- A line of the listing shows the instruction at its address as long as its bytes are unchanged. -/
theorem Unchanged.text_of_mem_listing (unchanged : s.Unchanged) {shown : ListingLine}
    (member : shown ∈ listing s.program) (here : shown.address = s.cpu.counter.toNat) :
    shown.text = (s.cpu.memory.disassemble s.cpu.counter).1 := by
  obtain ⟨byte, rest, stands, made⟩ := mem_listing_first member
  rw [here] at stands made
  have bytes (k : Nat) : s.program[s.cpu.counter.toNat + k]? = (byte :: rest)[k]? := by
    rw [← stands, List.getElem?_drop]
  obtain rfl : byte = s.cpu.memory.read s.cpu.counter := by
    have first := unchanged 0 (usedBytes_pos _)
    rw [bytes, show s.cpu.counter + UInt8.ofNat 0 = s.cpu.counter from UInt8.add_zero _] at first
    exact Option.some.inj first
  rw [made]
  apply text_first
  · have last := unchanged (usedBytes (s.cpu.memory.read s.cpu.counter) - 1)
      (Nat.sub_lt (usedBytes_pos _) Nat.one_pos)
    rw [bytes] at last
    obtain ⟨within, -⟩ := List.getElem?_eq_some_iff.mp last
    rw [List.length_cons] at within
    omega
  · intro used
    exact (bytes 1).symm.trans (unchanged 1 used)
  · intro used
    exact (bytes 2).symm.trans (unchanged 2 used)

/-! ## The current line -/

/-- The line that is marked stands at the program counter. Its text is from the listing or from
memory. -/
theorem current_cases (member : line ∈ s.code count) (current : line.isCurrent = true) :
    line.address = s.cpu.counter ∧
      ((∃ shown ∈ listing s.program, shown.address = s.cpu.counter.toNat ∧ line.text = shown.text) ∨
        (∀ shown ∈ listing s.program, shown.address ≠ s.cpu.counter.toNat) ∧
          line.text = (s.cpu.memory.disassemble s.cpu.counter).1) := by
  obtain ⟨_, _, _, _, shows⟩ | ⟨absent, shows⟩ := code_cases s count
  · rw [shows] at member
    obtain ⟨shown, among, rfl⟩ := List.mem_map.mp member
    have here : shown.address = s.cpu.counter.toNat := eq_of_beq current
    have listed : shown ∈ listing s.program := List.mem_of_mem_drop (List.mem_of_mem_take among)
    refine ⟨?_, .inl ⟨shown, listed, here, rfl⟩⟩
    exact (congrArg UInt8.ofNat here).trans UInt8.ofNat_toNat
  · rw [shows] at member
    obtain ⟨text, marked⟩ := mem_codeFrom member
    have here : line.address = s.cpu.counter := eq_of_beq (marked.symm.trans current)
    rw [here] at text
    exact ⟨here, .inr ⟨absent, text⟩⟩

theorem exists_current (s : Session) (positive : 0 < count) :
    ∃ line ∈ s.code count, line.isCurrent = true := by
  obtain ⟨current, shown, found, here, shows⟩ | ⟨-, shows⟩ := code_cases s count
  · rw [shows]
    refine ⟨_, List.mem_map_of_mem (mem_window found positive), ?_⟩
    exact beq_iff_eq.mpr here
  · rw [shows]
    exact exists_current_codeFrom s.cpu.memory s.cpu.counter positive

/-- The code of a session has a line that is marked as the next one, and every such line stands at the
program counter. It shows what the listing of the program shows at this address, or, if no line of the
listing begins there, what is decoded from memory. In particular it shows what the machine will decode
whenever the bytes of the instruction are still those of the program. -/
theorem current_line_shows_listing (s : Session) {count : Nat} (positive : 0 < count) :
    let next := (s.cpu.memory.disassemble s.cpu.counter).1
    (∃ line ∈ s.code count, line.isCurrent = true) ∧
      ∀ line ∈ s.code count, line.isCurrent = true →
        line.address = s.cpu.counter ∧
          (∀ shown ∈ listing s.program, shown.address = s.cpu.counter.toNat →
            line.text = shown.text) ∧
          ((∀ shown ∈ listing s.program, shown.address ≠ s.cpu.counter.toNat) → line.text = next) ∧
          (s.Unchanged → line.text = next) := by
  intro next
  refine ⟨exists_current s positive, ?_⟩
  intro line member current
  obtain ⟨address, ⟨shown, listed, here, text⟩ | ⟨absent, text⟩⟩ := current_cases member current
  · refine ⟨address, ?_, ?_, ?_⟩
    · intro other among there
      rw [text, eq_of_mem_listing listed among (here.trans there.symm)]
    · intro absent
      exact absurd here (absent shown listed)
    · intro unchanged
      exact text.trans (unchanged.text_of_mem_listing listed here)
  · refine ⟨address, ?_, fun _ => text, fun _ => text⟩
    intro shown listed here
    exact absurd here (absent shown listed)

/-- The second line of three, which the program has not changed. -/
theorem current_line_of_print :
    let s := (start [0x82, 0, 8, 0x47, 0, 1]).act .step
    0 < 3 ∧ s.Unchanged ∧ ⟨3, "PRN R0", true⟩ ∈ s.code 3 ∧
      (s.cpu.memory.disassemble s.cpu.counter).1 = "PRN R0" := by
  intro s
  have unchanged : s.Unchanged := by decide
  have member : ⟨3, "PRN R0", true⟩ ∈ s.code 3 := by decide
  obtain ⟨-, lines⟩ := current_line_shows_listing s (show 0 < 3 by decide)
  obtain ⟨-, -, -, same⟩ := lines _ member rfl
  exact ⟨by decide, unchanged, member, (same unchanged).symm⟩

/-- A program that pushes PRA over its HLT, and one that ends within its only instruction: both times
the line that is marked does not show what is executed next. -/
theorem current_line_out_of_date :
    let pushing := (start [0x82, 7, 9, 0x82, 0, 0x48, 0x45, 0, 1]).after
      [.act .step, .act .step, .act .step]
    let cut := start [0x82, 0]
    (pushing.cpu.state = .running ∧ pushing.cpu.counter = 8 ∧
        ⟨8, "HLT", true⟩ ∈ pushing.code 1 ∧ pushing.cpu.fetch = .ok (.pra 0) ∧
        pushing.cpu.memory.disassemble 8 = ("PRA R0", 2)) ∧
      cut.cpu.state = .running ∧ cut.cpu.counter = 0 ∧
        ⟨0, "DB 0x82", true⟩ ∈ cut.code 1 ∧ cut.cpu.fetch = .ok (.ldi 0 0) ∧
        cut.cpu.memory.disassemble 0 = ("LDI R0,0", 3) := by
  decide

end Debugger.Session

end Ls8
