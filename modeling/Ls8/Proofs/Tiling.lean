import Mathlib.Data.List.Chain
import Ls8.Proofs.Disassembly
import Ls8.Proofs.InstructionStream
import Ls8.Proofs.ProgramFile

/-! # Listings lie side by side

The lines of a listing lie side by side on the image: the first at its beginning, each of the others
where the one before it ends, and the last ends with the image. What a line shows depends on the bytes
from its address to the end of the image only. It is the instruction that begins them, if they hold all
of it, and otherwise the first of them. `Tiling` says this by recursion over the lines, and
`sweep_tiling` is the step of the sweep; all other facts are read off it.

Whoever asks for the first instruction alone, with zeros past the end, is shown the first line of the
listing unless the end cuts the instruction off. -/

namespace Ls8

/-! ## Lines -/

/-- The bytes begin with an instruction and hold all of it. -/
def HoldsInstruction (bytes : List UInt8) : Prop := ∃ i : Instruction Register, i.encode <+: bytes

theorem text_ne_dataText (i : Instruction Register) (b : UInt8) : i.text ≠ dataText b := by
  intro same
  apply not_isData_text i
  rw [same, IsData, toList_dataText_hexDigits]
  exact ⟨"0x".toList ++ hexDigits b, rfl⟩

/-- What a line shows of the bytes from its address on. -/
inductive ListingLine.Shows (bytes : List UInt8) : ListingLine → Prop
  | instruction (address : Nat) (i : Instruction Register) (begins : i.encode <+: bytes) :
    Shows bytes ⟨address, i.encode, i.text⟩
  | data (address : Nat) (b : UInt8) (first : [b] <+: bytes) (unheld : ¬HoldsInstruction bytes) :
    Shows bytes ⟨address, [b], dataText b⟩

theorem first_of_begins (address : Nat) {i : Instruction Register} {byte : UInt8}
    {rest : List UInt8} (begins : i.encode <+: byte :: rest) :
    ListingLine.first address byte rest = ⟨address, i.encode, i.text⟩ := by
  obtain ⟨more, whole⟩ := begins
  obtain ⟨rfl, rfl⟩ := List.cons.inj whole
  exact first_encode address i more

theorem shows_first (address : Nat) (byte : UInt8) (rest : List UInt8) :
    (ListingLine.first address byte rest).Shows (byte :: rest) := by
  by_cases held : HoldsInstruction (byte :: rest)
  · obtain ⟨i, begins⟩ := held
    rw [first_of_begins address begins]
    exact .instruction address i begins
  · obtain ⟨i, begins, -⟩ | line := first_cases address byte rest
    · exact absurd ⟨i, begins⟩ held
    · rw [line]
      exact .data address byte (List.prefix_append [byte] rest) held

namespace ListingLine.Shows

variable {line : ListingLine} {bytes : List UInt8}

theorem bytes_prefix (shows : line.Shows bytes) : line.bytes <+: bytes := by
  cases shows with
  | instruction address i begins => exact begins
  | data address b first unheld => exact first

theorem length_pos (shows : line.Shows bytes) : 1 ≤ line.bytes.length := by
  cases shows with
  | instruction address i begins => exact Nat.succ_pos _
  | data address b first unheld => exact Nat.le_refl 1

theorem length_le (shows : line.Shows bytes) : line.bytes.length ≤ 3 := by
  cases shows with
  | instruction address i begins =>
    rw [i.length_encode]
    exact i.opcode.size_le
  | data address b first unheld => exact Nat.le_add_left 1 2

/-- A line shows data exactly where no instruction stands. -/
theorem eq_data_iff (shows : line.Shows bytes) :
    (∃ b, line.bytes = [b] ∧ line.text = dataText b) ↔ ¬HoldsInstruction bytes := by
  cases shows with
  | instruction address i begins =>
    apply iff_of_false
    · rintro ⟨b, -, same⟩
      exact text_ne_dataText i b same
    · exact fun unheld => unheld ⟨i, begins⟩
  | data address b first unheld => exact iff_of_true ⟨b, rfl, rfl⟩ unheld

theorem text_ne_empty (shows : line.Shows bytes) : line.text ≠ "" := by
  intro empty
  cases shows with
  | instruction address i begins =>
    have filled := (contributes_text i).line.filled
    exact filled (congrArg String.toList empty)
  | data address b first unheld =>
    have filled := (contributes_dataText b).line.filled
    exact filled (congrArg String.toList empty)

theorem length_annotations (shows : line.Shows bytes) :
    line.annotations.length = line.bytes.length := by
  have filled := shows.length_pos
  rw [annotations, List.length_cons, List.length_replicate]
  omega

end ListingLine.Shows

/-! ## Tilings -/

/-- Lines that lie side by side on bytes which begin at an address. -/
inductive Tiling : Nat → List UInt8 → List ListingLine → Prop
  | nil (address : Nat) : Tiling address [] []
  | cons {line : ListingLine} {rest : List UInt8} {lines : List ListingLine}
      (shows : line.Shows (line.bytes ++ rest))
      (others : Tiling (line.address + line.bytes.length) rest lines) :
    Tiling line.address (line.bytes ++ rest) (line :: lines)

/-- The sweep lays its lines side by side on the bytes that no earlier line covers. -/
theorem sweep_tiling (address covered : Nat) (image : List UInt8) :
    Tiling (address + covered) (image.drop covered) (sweep address covered image) := by
  induction image generalizing address covered with
  | nil =>
    rw [List.drop_nil]
    exact .nil _
  | cons byte rest ih =>
    cases covered with
    | succ covered =>
      rw [sweep, List.drop_succ_cons, ← Nat.succ_add_eq_add_succ]
      exact ih (address + 1) covered
    | zero =>
      obtain ⟨others, bytes, begins⟩ := bytes_first address byte rest
      have shows := shows_first address byte rest
      have place := address_first address byte rest
      -- The other bytes of the line begin `rest`, and the sweep goes on behind them.
      have whole : byte :: rest =
          (ListingLine.first address byte rest).bytes ++ rest.drop others.length := by
        rw [bytes, List.cons_append, List.prefix_iff_eq_append.mp begins]
      have further := ih (address + 1) others.length
      have size : (ListingLine.first address byte rest).bytes.length = others.length + 1 :=
        congrArg List.length bytes
      rw [sweep, size, Nat.add_sub_cancel, Nat.add_zero, List.drop_zero]
      generalize ListingLine.first address byte rest = line at shows place whole size
      subst place
      rw [whole] at shows ⊢
      rw [Nat.add_assoc, Nat.add_comm 1, ← size] at further
      exact .cons shows further

theorem listing_tiling (image : List UInt8) : Tiling 0 image (listing image) :=
  sweep_tiling 0 0 image

namespace Tiling

variable {address : Nat} {image : List UInt8} {lines : List ListingLine} {line : ListingLine}

theorem length_le (tiling : Tiling address image lines) : lines.length ≤ image.length := by
  induction tiling with
  | nil => exact Nat.le_refl _
  | cons shows others ih =>
    have filled := shows.length_pos
    rw [List.length_cons, List.length_append]
    omega

theorem address_head? (tiling : Tiling address image lines) :
    ∀ line ∈ lines.head?, line.address = address := by
  cases tiling with
  | nil => nofun
  | cons shows others =>
    rintro _ ⟨rfl⟩
    rfl

/-- Each line begins where the one before it ends. -/
theorem isChain (tiling : Tiling address image lines) :
    lines.IsChain fun line next => next.address = line.address + line.bytes.length := by
  induction tiling with
  | nil => exact .nil
  | cons shows others ih => exact ih.cons others.address_head?

/-- A line shows the bytes from its address on, and lies within the image. -/
theorem shows_of_mem (tiling : Tiling address image lines) (member : line ∈ lines) :
    address ≤ line.address ∧ line.address + line.bytes.length ≤ address + image.length ∧
      line.Shows (image.drop (line.address - address)) := by
  induction tiling with
  | nil => contradiction
  | @cons first rest lines shows others ih =>
    rw [List.length_append]
    rcases List.mem_cons.mp member with rfl | further
    · rw [Nat.sub_self, List.drop_zero]
      exact ⟨Nat.le_refl _, by omega, shows⟩
    · obtain ⟨beyond, within, stands⟩ := ih further
      refine ⟨by omega, by omega, ?_⟩
      have distance : line.address - first.address =
          first.bytes.length + (line.address - (first.address + first.bytes.length)) := by omega
      rw [distance, List.drop_length_add_append]
      exact stands

/-- Lines further on have greater addresses. -/
theorem pairwise (tiling : Tiling address image lines) :
    lines.Pairwise fun line later => line.address < later.address := by
  induction tiling with
  | nil => exact .nil
  | cons shows others ih =>
    refine .cons (fun later member => ?_) ih
    have filled := shows.length_pos
    have beyond := (others.shows_of_mem member).1
    omega

/-! ## Annotations -/

theorem length_annotations (tiling : Tiling address image lines) :
    (lines.flatMap (·.annotations)).length = image.length := by
  induction tiling with
  | nil => rfl
  | cons shows others ih =>
    rw [List.flatMap_cons, List.length_append, List.length_append, ih,
      shows.length_annotations]

/-- The annotation of a byte is the text of the line that begins with it, or nothing. -/
theorem annotation_cases (tiling : Tiling address image lines) {place : Nat} {note : String}
    (found : (lines.flatMap (·.annotations))[place]? = some note) :
    (∃ line ∈ lines, line.address = address + place ∧ note = line.text) ∨
      (∀ line ∈ lines, line.address ≠ address + place) ∧ note = "" := by
  induction tiling generalizing place with
  | nil => contradiction
  | @cons first rest lines shows others ih =>
    have size := shows.length_annotations
    have filled := shows.length_pos
    rw [List.flatMap_cons] at found
    by_cases within : place < first.bytes.length
    · rw [List.getElem?_append_left (by omega), ListingLine.annotations] at found
      cases place with
      | zero => exact .inl ⟨first, List.mem_cons_self, rfl, (Option.some.inj found).symm⟩
      | succ place =>
        rw [List.getElem?_cons_succ, List.getElem?_replicate_of_lt (by omega)] at found
        refine .inr ⟨fun line member => ?_, (Option.some.inj found).symm⟩
        rcases List.mem_cons.mp member with rfl | further
        · omega
        · have beyond := (others.shows_of_mem further).1
          omega
    · rw [List.getElem?_append_right (by omega), size] at found
      have distance : first.address + first.bytes.length + (place - first.bytes.length) =
          first.address + place := by omega
      obtain ⟨line, member, here, text⟩ | ⟨none, text⟩ := ih found
      · exact .inl ⟨line, List.mem_cons_of_mem first member, here.trans distance, text⟩
      · refine .inr ⟨fun line member => ?_, text⟩
        rcases List.mem_cons.mp member with rfl | further
        · omega
        · exact distance ▸ none line further

end Tiling

/-- The lines of a listing lie side by side on its image. They cover it without gap and without
overlap, each with one to three bytes, from address 0 on; there are no more lines than bytes. A line
shows its first byte as data exactly where no instruction stands with all of its bytes. In the
annotated image each byte has an annotation, which is empty unless a line begins with the byte; and the
image is read back from the file of the annotated image. -/
theorem listing_tiles (image : List UInt8) :
    let lines := listing image
    let annotated := annotate image
    (lines.flatMap (·.bytes) = image ∧ lines.length ≤ image.length) ∧
      (∀ line ∈ lines.head?, line.address = 0) ∧
      lines.IsChain (fun line next => next.address = line.address + line.bytes.length) ∧
      (∀ line ∈ lines,
        (1 ≤ line.bytes.length ∧ line.bytes.length ≤ 3) ∧
        line.address + line.bytes.length ≤ image.length ∧
        line.bytes <+: image.drop line.address ∧
        ((∃ b, line.bytes = [b] ∧ line.text = dataText b) ↔
          ¬HoldsInstruction (image.drop line.address))) ∧
      (annotated.bytes = image ∧ annotated.annotations.length = image.length) ∧
      (∀ place note, annotated.annotations[place]? = some note →
        (note ≠ "" ↔ ∃ line ∈ lines, line.address = place)) ∧
      (ProgramFile.parse annotated.render).bytes = image := by
  intro lines annotated
  have tiling : Tiling 0 image lines := listing_tiling image
  refine ⟨⟨flatMap_bytes_listing image, tiling.length_le⟩, tiling.address_head?, tiling.isChain,
    fun line member => ?_, ⟨bytes_annotate image, tiling.length_annotations⟩,
    fun place note found => ?_, bytes_parse_annotate image⟩
  · obtain ⟨-, within, shows⟩ := tiling.shows_of_mem member
    rw [Nat.zero_add] at within
    exact ⟨⟨shows.length_pos, shows.length_le⟩, within, shows.bytes_prefix, shows.eq_data_iff⟩
  · have noted := tiling.annotation_cases found
    rw [Nat.zero_add] at noted
    obtain ⟨line, member, here, rfl⟩ | ⟨none, rfl⟩ := noted
    · exact iff_of_true (tiling.shows_of_mem member).2.2.text_ne_empty ⟨line, member, here⟩
    · apply iff_of_false (not_not_intro rfl)
      rintro ⟨line, member, here⟩
      exact none line member here

/-- An instruction of three bytes, one of one byte, and one that is cut off. -/
theorem listing_tiles_cut_off :
    let image : List UInt8 := [0x82, 0, 7, 0x01, 0x47]
    (⟨4, [0x47], "DB 0x47"⟩ ∈ listing image ∧ ¬HoldsInstruction (image.drop 4)) ∧
      (⟨3, [0x01], "HLT"⟩ ∈ listing image ∧ HoldsInstruction (image.drop 3)) ∧
      (annotate image).annotations = ["LDI R0,7", "", "", "HLT", "DB 0x47"] ∧
      ∃ line ∈ listing image, line.address = 3 := by
  intro image
  obtain ⟨-, -, -, each, -, noted, -⟩ := listing_tiles image
  have cut : ⟨4, [0x47], "DB 0x47"⟩ ∈ listing image := by decide
  have halt : ⟨3, [0x01], "HLT"⟩ ∈ listing image := by decide
  have notes : (annotate image).annotations = ["LDI R0,7", "", "", "HLT", "DB 0x47"] := by decide
  obtain ⟨-, -, -, unheld⟩ := each _ cut
  obtain ⟨-, -, -, held⟩ := each _ halt
  refine ⟨⟨cut, unheld.mp ⟨0x47, rfl, by decide⟩⟩, ⟨halt, not_not.mp fun none => ?_⟩, notes, ?_⟩
  · obtain ⟨b, bytes, text⟩ := held.mpr none
    obtain rfl : 0x01 = b := (List.cons.inj bytes).1
    exact absurd text (by decide)
  · exact (noted 3 "HLT" (by rw [notes]; rfl)).mp (by decide)

/-! ## The first line -/

/-- The end of the bytes cuts off the instruction that they begin if zeros follow them. -/
def CutOff (bytes : List UInt8) : Prop :=
  ∃ i : Instruction Register, i.encode <+: bytes ++ [0, 0] ∧ bytes.length < i.size

/-- Zeros past the end make the three bytes that are decoded. -/
theorem decode_getD_eq_ok_iff {byte : UInt8} {rest : List UInt8} {i : Instruction Register} :
    decode byte (rest[0]?.getD 0) (rest[1]?.getD 0) = .ok i ↔ i.encode <+: byte :: rest ++ [0, 0] := by
  have three : [byte, rest[0]?.getD 0, rest[1]?.getD 0] = (byte :: rest ++ [0, 0]).take 3 := by
    rcases rest with - | ⟨next, - | ⟨last, others⟩⟩ <;> rfl
  have short : i.encode.length ≤ 3 := by
    rw [i.length_encode]
    exact i.opcode.size_le
  rw [decode_eq_ok_iff, three, List.prefix_take_iff, and_iff_left short]

/-- Cut off is what holds an instruction only together with the zeros. -/
theorem cutOff_iff {byte : UInt8} {rest : List UInt8} :
    CutOff (byte :: rest) ↔
      HoldsInstruction (byte :: rest ++ [0, 0]) ∧ ¬HoldsInstruction (byte :: rest) := by
  constructor
  · rintro ⟨i, begins, cut⟩
    refine ⟨⟨i, begins⟩, ?_⟩
    rintro ⟨j, whole⟩
    have second := decode_getD_eq_ok_iff.mpr (whole.trans (List.prefix_append _ [0, 0]))
    rw [decode_getD_eq_ok_iff.mpr begins] at second
    obtain rfl : i = j := Except.ok.inj second
    have size := whole.length_le
    rw [i.length_encode] at size
    omega
  · rintro ⟨⟨i, begins⟩, unheld⟩
    refine ⟨i, begins, Nat.not_le.mp fun within => unheld ⟨i, ?_⟩⟩
    rw [← i.length_encode] at within
    exact List.prefix_of_prefix_length_le begins (List.prefix_append ..) within

theorem disassembleFirst_cons (byte : UInt8) (rest : List UInt8) :
    disassembleFirst (byte :: rest) =
      match decode byte (rest[0]?.getD 0) (rest[1]?.getD 0) with
      | .ok i => i.text
      | .error _ => dataText byte := by
  rw [disassembleFirst, List.getElem?_cons_zero, List.getElem?_cons_succ, List.getElem?_cons_succ,
    Option.getD_some, disassembleBytes]
  cases decode byte (rest[0]?.getD 0) (rest[1]?.getD 0) <;> rfl

theorem disassembleFirst_of_begins {byte : UInt8} {rest : List UInt8} {i : Instruction Register}
    (begins : i.encode <+: byte :: rest ++ [0, 0]) : disassembleFirst (byte :: rest) = i.text := by
  rw [disassembleFirst_cons, decode_getD_eq_ok_iff.mpr begins]

theorem disassembleFirst_of_not_holdsInstruction {byte : UInt8} {rest : List UInt8}
    (unheld : ¬HoldsInstruction (byte :: rest ++ [0, 0])) :
    disassembleFirst (byte :: rest) = dataText byte := by
  rw [disassembleFirst_cons]
  cases decoded : decode byte (rest[0]?.getD 0) (rest[1]?.getD 0) with
  | ok i => exact absurd ⟨i, decode_getD_eq_ok_iff.mp decoded⟩ unheld
  | error e => rfl

/-- Whoever asks for the first instruction is shown the text of the first line of the listing, unless
the end of the bytes cuts this instruction off. Then the instruction is shown as if zeros followed, and
the line shows its first byte as data. -/
theorem disassembleFirst_eq_first_line_iff {bytes : List UInt8} (filled : bytes ≠ []) :
    ∃ line rest, listing bytes = line :: rest ∧ line.address = 0 ∧
      (disassembleFirst bytes = line.text ↔ ¬CutOff bytes) ∧
      ∀ i : Instruction Register, i.encode <+: bytes ++ [0, 0] → bytes.length < i.size →
        disassembleFirst bytes = i.text ∧ ∃ b, line.bytes = [b] ∧ line.text = dataText b := by
  obtain ⟨byte, rest, rfl⟩ := List.exists_cons_of_ne_nil filled
  have shows := shows_first 0 byte rest
  refine ⟨ListingLine.first 0 byte rest, _, rfl, address_first .., ?_, fun i begins cut => ?_⟩
  · generalize ListingLine.first 0 byte rest = line at shows
    rw [cutOff_iff]
    cases shows with
    | instruction address i begins =>
      have first := disassembleFirst_of_begins (begins.trans (List.prefix_append _ [0, 0]))
      exact iff_of_true first fun cut => cut.2 ⟨i, begins⟩
    | data address b first unheld =>
      obtain rfl : b = byte := (List.cons_prefix_cons.mp first).1
      by_cases padded : HoldsInstruction (b :: rest ++ [0, 0])
      · obtain ⟨i, begins⟩ := padded
        rw [disassembleFirst_of_begins begins]
        exact iff_of_false (text_ne_dataText i b) (not_not_intro ⟨⟨i, begins⟩, unheld⟩)
      · exact iff_of_true (disassembleFirst_of_not_holdsInstruction padded) fun cut => padded cut.1
  · have unheld := (cutOff_iff.mp ⟨i, begins, cut⟩).2
    exact ⟨disassembleFirst_of_begins begins, shows.eq_data_iff.mpr unheld⟩

/-- An instruction with all its bytes, and one without its last. -/
theorem first_line_of_print_and_load :
    (([0x47, 3] : List UInt8) ≠ [] ∧ ¬CutOff [0x47, 3] ∧
        ∃ line rest, listing [0x47, 3] = line :: rest ∧ disassembleFirst [0x47, 3] = line.text) ∧
      ([0x82, 0] : List UInt8) ≠ [] ∧
        (Instruction.ldi (0 : Register) 0).encode <+: [0x82, 0] ++ [0, 0] ∧
        disassembleFirst [0x82, 0] = (Instruction.ldi (0 : Register) 0).text ∧
        ∃ line rest b, listing [0x82, 0] = line :: rest ∧ line.text = dataText b := by
  have whole : ¬CutOff [0x47, 3] := fun cut => (cutOff_iff.mp cut).2 ⟨.prn 3, [], by decide⟩
  have begins : (Instruction.ldi (0 : Register) 0).encode <+: [0x82, 0] ++ [0, 0] := ⟨[0], by decide⟩
  have print : ([0x47, 3] : List UInt8) ≠ [] := List.cons_ne_nil _ _
  have load : ([0x82, 0] : List UInt8) ≠ [] := List.cons_ne_nil _ _
  obtain ⟨line, rest, listed, -, same, -⟩ := disassembleFirst_eq_first_line_iff print
  obtain ⟨other, more, found, -, -, cut⟩ := disassembleFirst_eq_first_line_iff load
  obtain ⟨shown, b, -, text⟩ := cut _ begins (by decide)
  exact ⟨⟨print, whole, line, rest, listed, same.mpr whole⟩, load, begins, shown, other, more, b, found,
    text⟩

/-- The first byte of an instruction that loads a number: by itself it is shown as an instruction, but
listed as data. -/
theorem cut_off_instruction_shown_whole :
    disassembleFirst [0x82] = "LDI R0,0" ∧ listing [0x82] = [⟨0, [0x82], "DB 0x82"⟩] ∧
      ¬∃ line rest, listing [0x82] = line :: rest ∧ disassembleFirst [0x82] = line.text := by
  have first : disassembleFirst [0x82] = "LDI R0,0" := by decide
  have lines : listing [0x82] = [⟨0, [0x82], "DB 0x82"⟩] := by decide
  refine ⟨first, lines, ?_⟩
  rintro ⟨line, rest, listed, same⟩
  obtain ⟨rfl, -⟩ := List.cons.inj (lines.symm.trans listed)
  rw [first] at same
  exact absurd same (by decide)

end Ls8
