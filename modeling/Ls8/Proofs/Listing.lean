import Ls8.Proofs.Assembly.Written
import Ls8.Proofs.Machine.Decoding

/-! # Listings assembled

A listing covers its image: the bytes of its lines, one line after the other, are the image. The
text of each line is read back as the bytes of the line, whether it shows an instruction or a byte
that begins none. So assembling the texts of a listing gives the image back, if it fits. -/

namespace Ls8

open Assembly

/-- A text that stands on a line and adds just some bytes, whatever has been read before it. -/
structure Contributes (text : String) (bytes : List UInt8) : Prop where
  line : Text.IsLine text.toList
  adds : ∀ (d : Draft) (number : Nat),
    d.addLine number text.toList = .ok { d with bytes := d.bytes ++ bytes }

theorem foldl_addItem_byte (d : Draft) (number : Nat) (bytes : List UInt8) :
    (bytes.map Item.byte).foldl (fun d item => d.addItem number item) d =
      { d with bytes := d.bytes ++ bytes } := by
  induction bytes generalizing d with
  | nil => simp
  | cons byte rest ih =>
    rw [List.map_cons, List.foldl_cons, ih, Draft.addItem]
    simp only [List.append_assoc, List.singleton_append]

theorem contributes_of_spell {text : String} {word : List Char} {operands : List (List Char)}
    {bytes : List UInt8} (spelled : text.toList = spell word operands) (first : IsWord word)
    (others : ∀ operand ∈ operands, IsWord operand)
    (read : Statement.ofText text.toList = .ok (.data (bytes.map .byte))) :
    Contributes text bytes where
  line := by
    rw [spelled]
    exact isLine_spell first others
  adds d number := by
    have line : Line.ofText text.toList = ⟨none, some text.toList⟩ := by
      rw [spelled]
      exact Line.ofText_spell first others
    simp only [Draft.addLine, line, read, ok_bind, pure_eq_ok, Draft.addStatement,
      foldl_addItem_byte]

theorem contributes_text (i : Instruction Register) : Contributes i.text i.encode :=
  contributes_of_spell (toList_text i) (isWord_mnemonic i.opcode) (isWord_operands i)
    (ofText_text i)

theorem contributes_dataText (b : UInt8) : Contributes (dataText b) [b] :=
  contributes_of_spell (toList_dataText b) isWord_db
    (List.forall_mem_singleton.mpr (isWord_hexByte b)) (ofText_dataText b)

/-! ## The sweep -/

theorem Opcode.size_le (op : Opcode) : op.size ≤ 3 := by
  cases op <;> decide

theorem take_eq_take_getD {byte : UInt8} {rest : List UInt8} {size : Nat} (short : size ≤ 3)
    (within : size ≤ rest.length + 1) :
    (byte :: rest).take size = [byte, rest[0]?.getD 0, rest[1]?.getD 0].take size := by
  rcases rest with - | ⟨next, - | ⟨last, others⟩⟩
  · rcases size with - | - | size
    · rfl
    · rfl
    · simp at within
  · rcases size with - | - | - | size
    · rfl
    · rfl
    · rfl
    · simp at within
  · rcases size with - | - | - | - | size
    · rfl
    · rfl
    · rfl
    · rfl
    · omega

/-- A line shows an instruction that begins the image, or its first byte. -/
theorem first_cases (address : Nat) (byte : UInt8) (rest : List UInt8) :
    (∃ i : Instruction Register, i.encode <+: byte :: rest ∧
      ListingLine.first address byte rest = ⟨address, i.encode, i.text⟩) ∨
    ListingLine.first address byte rest = ⟨address, [byte], dataText byte⟩ := by
  unfold ListingLine.first disassembleBytes
  cases decoded : decode byte (rest[0]?.getD 0) (rest[1]?.getD 0) with
  | error e => exact .inr (by simp)
  | ok i =>
    have begins := decode_eq_ok_iff.mp decoded
    have short : i.size ≤ 3 := i.opcode.size_le
    by_cases within : i.size ≤ rest.length + 1
    · have taken : (byte :: rest).take i.size = i.encode := by
        rw [take_eq_take_getD short within, ← i.length_encode]
        exact (List.prefix_iff_eq_take.mp begins).symm
      refine .inl ⟨i, ?_, ?_⟩
      · rw [← taken]
        exact List.take_prefix ..
      · simp only [if_pos within, taken]
    · exact .inr (if_neg within)

theorem address_first (address : Nat) (byte : UInt8) (rest : List UInt8) :
    (ListingLine.first address byte rest).address = address := by
  obtain ⟨i, -, line⟩ | line := first_cases address byte rest
  · rw [line]
  · rw [line]

/-- The bytes of a line begin the image, and there is at least one. -/
theorem bytes_first (address : Nat) (byte : UInt8) (rest : List UInt8) :
    ∃ others, (ListingLine.first address byte rest).bytes = byte :: others ∧ others <+: rest := by
  obtain ⟨i, begins, line⟩ | line := first_cases address byte rest
  · rw [line]
    rw [Instruction.encode, List.cons_prefix_cons] at begins
    exact ⟨_, congrArg (· :: _) begins.1, begins.2⟩
  · rw [line]
    exact ⟨[], rfl, List.nil_prefix⟩

/-- The lines from an address on cover the bytes that no earlier line covers. -/
theorem flatMap_bytes_sweep (address covered : Nat) (image : List UInt8) :
    (sweep address covered image).flatMap (·.bytes) = image.drop covered := by
  induction image generalizing address covered with
  | nil => simp [sweep]
  | cons byte rest ih =>
    cases covered with
    | succ covered => rw [sweep, ih, List.drop_succ_cons]
    | zero =>
      obtain ⟨others, bytes, begins⟩ := bytes_first address byte rest
      rw [sweep, List.flatMap_cons, ih, bytes, List.drop_zero, List.cons_append,
        List.length_cons, Nat.add_sub_cancel]
      -- The other bytes of the line begin `rest`, which is what the sweep skips.
      congr 1
      exact List.prefix_iff_eq_append.mp begins

theorem flatMap_bytes_listing (image : List UInt8) :
    (listing image).flatMap (·.bytes) = image :=
  flatMap_bytes_sweep 0 0 image

/-- Every line shows an instruction or a byte, and its text is the text of what it shows. -/
theorem mem_sweep_cases {address covered : Nat} {image : List UInt8} {line : ListingLine}
    (member : line ∈ sweep address covered image) :
    (∃ i : Instruction Register, line.bytes = i.encode ∧ line.text = i.text) ∨
      ∃ b, line.bytes = [b] ∧ line.text = dataText b := by
  induction image generalizing address covered with
  | nil => simp [sweep] at member
  | cons byte rest ih =>
    cases covered with
    | succ covered => exact ih member
    | zero =>
      rw [sweep, List.mem_cons] at member
      rcases member with rfl | later
      · obtain ⟨i, -, line⟩ | line := first_cases address byte rest
        · rw [line]
          exact .inl ⟨i, rfl, rfl⟩
        · rw [line]
          exact .inr ⟨byte, rfl, rfl⟩
      · exact ih later

/-- Every line is made from the bytes that stand at its address. -/
theorem mem_sweep_first {address covered : Nat} {image : List UInt8} {line : ListingLine}
    (member : line ∈ sweep address covered image) :
    address ≤ line.address ∧ ∃ byte rest,
      image.drop (line.address - address) = byte :: rest ∧
        line = ListingLine.first line.address byte rest := by
  induction image generalizing address covered with
  | nil => simp [sweep] at member
  | cons byte rest ih =>
    have later {covered : Nat} (member : line ∈ sweep (address + 1) covered rest) :
        address ≤ line.address ∧ ∃ first others,
          (byte :: rest).drop (line.address - address) = first :: others ∧
            line = ListingLine.first line.address first others := by
      obtain ⟨beyond, first, others, stands, made⟩ := ih member
      refine ⟨Nat.le_of_succ_le beyond, first, others, ?_, made⟩
      have distance : line.address - address = line.address - (address + 1) + 1 := by omega
      rw [distance, List.drop_succ_cons, stands]
    cases covered with
    | succ covered => exact later member
    | zero =>
      rw [sweep, List.mem_cons] at member
      rcases member with rfl | further
      · rw [address_first, Nat.sub_self]
        exact ⟨Nat.le_refl _, byte, rest, rfl, rfl⟩
      · exact later further

theorem mem_listing_first {image : List UInt8} {line : ListingLine}
    (member : line ∈ listing image) :
    ∃ byte rest, image.drop line.address = byte :: rest ∧
      line = ListingLine.first line.address byte rest :=
  (mem_sweep_first member).2

/-- No two lines begin at one address. -/
theorem eq_of_mem_listing {image : List UInt8} {line other : ListingLine}
    (member : line ∈ listing image) (among : other ∈ listing image)
    (same : line.address = other.address) : line = other := by
  obtain ⟨byte, rest, stands, made⟩ := mem_listing_first member
  obtain ⟨first, others, found, alike⟩ := mem_listing_first among
  rw [same] at stands made
  obtain ⟨rfl, rfl⟩ := List.cons.inj (stands.symm.trans found)
  exact made.trans alike.symm

/-- Every line has a text that is read back as its bytes. -/
theorem contributes_of_mem_sweep {address covered : Nat} {image : List UInt8} {line : ListingLine}
    (member : line ∈ sweep address covered image) : Contributes line.text line.bytes := by
  obtain ⟨i, bytes, text⟩ | ⟨b, bytes, text⟩ := mem_sweep_cases member
  · rw [bytes, text]
    exact contributes_text i
  · rw [bytes, text]
    exact contributes_dataText b

/-! ## Assembling -/

theorem addLines_of_contributes {lines : List ListingLine}
    (contributes : ∀ line ∈ lines, Contributes line.text line.bytes) (d : Draft) (number : Nat) :
    d.addLines number (lines.map (·.text.toList)) =
      .ok { d with bytes := d.bytes ++ lines.flatMap (·.bytes) } := by
  induction lines generalizing d number with
  | nil => simp [Draft.addLines]
  | cons line rest ih =>
    have first := (contributes line List.mem_cons_self).adds d number
    rw [List.map_cons, Draft.addLines, first]
    simp only
    rw [ih fun other member => contributes other (List.mem_cons_of_mem line member)]
    simp only [List.flatMap_cons, List.append_assoc]

theorem assemble_join {lines : List ListingLine}
    (contributes : ∀ line ∈ lines, Contributes line.text line.bytes) :
    assemble (Text.join "\n" (lines.map (·.text))) =
      let bytes := lines.flatMap (·.bytes)
      if bytes.length ≤ memorySize then .ok bytes else .error (.programTooLarge bytes.length) := by
  have cut : Text.lines (Text.join "\n" (lines.map (·.text))).toList =
      lines.map (·.text.toList) := by
    rw [Text.lines_join, List.map_map]
    · rfl
    · intro text member
      obtain ⟨line, among, rfl⟩ := List.mem_map.mp member
      exact (contributes line among).line
  rw [assemble, assembleChars, cut, addLines_of_contributes contributes, ok_bind, Draft.image,
    List.nil_append]
  by_cases fits : (lines.flatMap (·.bytes)).length ≤ memorySize
  · rw [if_pos fits, if_neg (Nat.not_lt.mpr fits)]
    rfl
  · rw [if_neg fits, if_pos (Nat.not_le.mp fits)]

/-- Assembling the texts of a listing, each on its line, gives the image back, or says that it does
not fit; and each text by itself gives the bytes of its line. -/
theorem assemble_listing (image : List UInt8) :
    assemble (Text.join "\n" ((listing image).map (·.text))) =
        (if image.length ≤ memorySize then .ok image
          else .error (.programTooLarge image.length)) ∧
      ∀ line ∈ listing image, assemble line.text = .ok line.bytes := by
  have contributes : ∀ line ∈ listing image, Contributes line.text line.bytes :=
    fun line member => contributes_of_mem_sweep member
  refine ⟨?_, fun line member => ?_⟩
  · rw [assemble_join contributes, flatMap_bytes_listing]
  · have alone : ∀ other ∈ [line], Contributes other.text other.bytes :=
      List.forall_mem_singleton.mpr (contributes line member)
    have short : line.bytes.length ≤ memorySize := by
      obtain ⟨i, bytes, -⟩ | ⟨b, bytes, -⟩ := mem_sweep_cases member
      · rw [bytes, i.length_encode]
        exact Nat.le_trans i.opcode.size_le (by decide)
      · rw [bytes, List.length_singleton]
        decide
    have joined : Text.join "\n" [line.text] = line.text := String.intercalate_singleton
    have assembled := assemble_join alone
    rw [List.map_singleton, joined, List.flatMap_singleton] at assembled
    rw [assembled]
    exact if_pos short

/-- An instruction, a byte that begins none, and an instruction that is cut off. -/
theorem assemble_listing_cut_off :
    assemble (Text.join "\n" ["LDI R0,7", "DB 0xff", "DB 0x82"]) = .ok [0x82, 0, 7, 0xff, 0x82] ∧
      ⟨4, [0x82], "DB 0x82"⟩ ∈ listing [0x82, 0, 7, 0xff, 0x82] ∧
      assemble "DB 0x82" = .ok [0x82] := by
  have lines : listing [0x82, 0, 7, 0xff, 0x82] =
      [⟨0, [0x82, 0, 7], "LDI R0,7"⟩, ⟨3, [0xff], "DB 0xff"⟩, ⟨4, [0x82], "DB 0x82"⟩] := by
    decide
  obtain ⟨whole, each⟩ := assemble_listing [0x82, 0, 7, 0xff, 0x82]
  have last : ⟨4, [0x82], "DB 0x82"⟩ ∈ listing [0x82, 0, 7, 0xff, 0x82] := by
    rw [lines]
    simp
  rw [lines] at whole
  exact ⟨whole, last, each _ last⟩

end Ls8
