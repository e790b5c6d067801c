import Ls8.Proofs.Listing

/-! # Streams of instructions

Instructions encoded one after the other can be told apart again: the encoding of an instruction says
where it ends, so a sweep that begins at the first instruction never loses step. Its lines are the
instructions, with their texts, their encodings and the addresses at which they stand. -/

namespace Ls8

/-- Instructions encoded one after the other. -/
def encodeAll (program : List (Instruction Register)) : List UInt8 :=
  program.flatMap Instruction.encode

/-- The address of an instruction, given by its number: the size of all instructions before it. -/
def addressIn (program : List (Instruction Register)) (number : Nat) : Nat :=
  ((program.take number).map Instruction.size).sum

theorem addressIn_cons_succ (i : Instruction Register) (rest : List (Instruction Register))
    (number : Nat) : addressIn (i :: rest) (number + 1) = i.size + addressIn rest number := by
  rw [addressIn, List.take_succ_cons, List.map_cons, List.sum_cons, addressIn]

/-! ## The sweep -/

/-- The bytes that a line covers are skipped. -/
theorem sweep_of_covered {address covered : Nat} {image : List UInt8}
    (within : covered ≤ image.length) :
    sweep address covered image = sweep (address + covered) 0 (image.drop covered) := by
  induction covered generalizing address image with
  | zero => rfl
  | succ covered ih =>
    cases image with
    | nil => contradiction
    | cons byte rest =>
      rw [sweep, ih (Nat.le_of_succ_le_succ within), Nat.add_assoc, Nat.add_comm 1 covered,
        List.drop_succ_cons]

/-- An instruction is shown by a line of its own, whatever follows it. -/
theorem first_encode (address : Nat) (i : Instruction Register) (rest : List UInt8) :
    ListingLine.first address i.opcode.byte
        (i.operandList.map Instruction.Operand.byte ++ rest) = ⟨address, i.encode, i.text⟩ := by
  have decoded := decode_encode i rest
  rw [Instruction.encode, List.cons_append, List.getElem?_cons_succ,
    List.getElem?_cons_succ] at decoded
  have whole : i.opcode.byte :: (i.operandList.map Instruction.Operand.byte ++ rest) =
      i.encode ++ rest := rfl
  have taken : (i.encode ++ rest).take i.size = i.encode := by
    rw [← i.length_encode, List.take_left]
  have within : i.size ≤ (i.encode ++ rest).length := by
    rw [List.length_append, i.length_encode]
    exact Nat.le_add_right ..
  rw [← whole, List.length_cons] at within
  simp only [ListingLine.first, disassembleBytes, decoded, if_pos within, whole, taken]

theorem sweep_encode_append (address : Nat) (i : Instruction Register) (rest : List UInt8) :
    sweep address 0 (i.encode ++ rest) =
      ⟨address, i.encode, i.text⟩ :: sweep (address + i.size) 0 rest := by
  have operands : (i.operandList.map Instruction.Operand.byte).length + 1 = i.size := i.length_encode
  rw [Instruction.encode, List.cons_append, sweep, first_encode]
  simp only [i.length_encode]
  rw [← operands, Nat.add_sub_cancel, sweep_of_covered, List.drop_left, Nat.add_assoc,
    Nat.add_comm 1]
  · rfl
  · rw [List.length_append]
    exact Nat.le_add_right ..

theorem sweep_encodeAll (address : Nat) (program : List (Instruction Register)) :
    sweep address 0 (encodeAll program) =
      program.mapIdx fun number i => ⟨address + addressIn program number, i.encode, i.text⟩ := by
  induction program generalizing address with
  | nil => rfl
  | cons i rest ih =>
    have step : encodeAll (i :: rest) = i.encode ++ encodeAll rest := List.flatMap_cons
    rw [step, sweep_encode_append, ih, List.mapIdx_cons]
    simp only [addressIn_cons_succ, Nat.add_assoc]
    rfl

/-! ## Streams cut again -/

theorem encode_injective : Function.Injective (Instruction.encode (ρ := Register)) := by
  intro i j same
  have first := decode_encode i []
  have second := decode_encode j []
  have byte : i.opcode.byte = j.opcode.byte := (List.cons.inj same).1
  rw [same, byte, second] at first
  exact (Except.ok.inj first).symm

/-- What the lines show of the instructions alone, in order. -/
theorem map_listing_encodeAll {β : Type} {f : ListingLine → β} {g : Instruction Register → β}
    (shows : ∀ address i, f ⟨address, i.encode, i.text⟩ = g i)
    (program : List (Instruction Register)) :
    (listing (encodeAll program)).map f = program.map g := by
  rw [listing, sweep_encodeAll]
  apply List.ext_getElem
  · rw [List.length_map, List.length_mapIdx, List.length_map]
  · intro number _ _
    rw [List.getElem_map, List.getElem_mapIdx, List.getElem_map, shows]

theorem encodeAll_injective : Function.Injective encodeAll := by
  intro program other same
  have bytes (stream : List (Instruction Register)) :
      (listing (encodeAll stream)).map ListingLine.bytes = stream.map Instruction.encode :=
    map_listing_encodeAll (fun _ _ => rfl) stream
  apply List.map_injective_iff.mpr encode_injective
  rw [← bytes, ← bytes, same]

/-- At the address of an instruction its encoding begins. -/
theorem drop_addressIn {program : List (Instruction Register)} {number : Nat}
    (among : number < program.length) :
    program[number].encode <+: (encodeAll program).drop (addressIn program number) := by
  induction program generalizing number with
  | nil => contradiction
  | cons i rest ih =>
    have step : encodeAll (i :: rest) = i.encode ++ encodeAll rest := List.flatMap_cons
    cases number with
    | zero =>
      rw [step]
      exact List.prefix_append ..
    | succ number =>
      rw [step, addressIn_cons_succ, ← i.length_encode, List.drop_length_add_append]
      exact ih (Nat.lt_of_succ_lt_succ among)

/-- Three bytes that begin as an instruction and go on with anything decode to it. -/
theorem decode_of_encode_append {i : Instruction Register} {more : List UInt8} {ir a b : UInt8}
    (begins : [ir, a, b] <+: i.encode ++ more) : decode ir a b = .ok i := by
  have short : i.encode.length ≤ [ir, a, b].length := by
    rw [i.length_encode]
    exact i.opcode.size_le
  exact decode_eq_ok_iff.mpr
    (List.prefix_of_prefix_length_le (List.prefix_append ..) begins short)

theorem assemble_map_text (program : List (Instruction Register)) :
    assemble (Text.join "\n" (program.map Instruction.text)) =
      let image := encodeAll program
      if image.length ≤ memorySize then .ok image else .error (.programTooLarge image.length) := by
  have contributes : ∀ line ∈ listing (encodeAll program), Contributes line.text line.bytes :=
    fun line member => contributes_of_mem_sweep member
  have assembled := assemble_join contributes
  rwa [map_listing_encodeAll (fun _ _ => rfl), flatMap_bytes_listing] at assembled

/-- A stream of instructions is listed line by line, is the stream of no other instructions, decodes
at the address of each instruction to it, whatever follows, and is what its texts assemble to. -/
theorem stream_read_back (program : List (Instruction Register)) :
    let image := encodeAll program
    listing image =
        program.mapIdx (fun number i => ⟨addressIn program number, i.encode, i.text⟩) ∧
      (∀ other, encodeAll other = image → other = program) ∧
      (∀ (number : Nat) (among : number < program.length) (more : List UInt8) (ir a b : UInt8),
        [ir, a, b] <+: (image.drop (addressIn program number)).take program[number].size ++ more →
          decode ir a b = .ok program[number]) ∧
      (image.length ≤ memorySize →
        assemble (Text.join "\n" (program.map Instruction.text)) = .ok image) := by
  intro image
  refine ⟨?_, ?_, ?_, ?_⟩
  · have lines := sweep_encodeAll 0 program
    simp only [Nat.zero_add] at lines
    exact lines
  · intro other same
    exact encodeAll_injective same
  · intro number among more ir a b begins
    have encoded := List.prefix_iff_eq_take.mp (drop_addressIn among)
    rw [Instruction.length_encode] at encoded
    rw [← encoded] at begins
    exact decode_of_encode_append begins
  · intro fits
    rw [assemble_map_text]
    exact if_pos fits

/-- The program that prints 8. -/
theorem stream_printing :
    let program : List (Instruction Register) := [.ldi 0 8, .prn 0, .hlt]
    encodeAll program = [0x82, 0, 8, 0x47, 0, 1] ∧
      decode 0x47 0 1 = .ok (.prn 0) ∧ decode 1 0xff 0xff = .ok .hlt ∧
      assemble "LDI R0,8\nPRN R0\nHLT" = .ok [0x82, 0, 8, 0x47, 0, 1] := by
  intro program
  obtain ⟨-, -, decoded, assembled⟩ := stream_read_back program
  refine ⟨by decide, decoded 1 (by decide) [1] 0x47 0 1 ?_,
    decoded 2 (by decide) [0xff, 0xff] 1 0xff 0xff ?_, assembled (by decide)⟩
  · exact ⟨[], by decide⟩
  · exact ⟨[], by decide⟩

end Ls8
