import Ls8.Proofs.Listing
import Ls8.Proofs.Text.Utf8Lines

/-! # Program files read back

The binary digits at the beginning of a line are read as the number that they write, whatever follows
them. So a program that is written into a file and read back keeps its bytes, as long as its comments
stay on their lines. A comment with a line feed in it goes on in the next line, where it is read like
any other: `bytes_parse_render_eq` says what is read back then, and `bytes_parse_render_eq_iff` when
it is the program. The comments of an annotated image are the texts of its listing, and have no line
feed. -/

namespace Ls8.ProgramFile

/-! ## Binary digits -/

theorem digitValue?_two {c : Char} {digit : Nat} (value : Text.digitValue? 2 c = some digit) :
    (c = '0' ∧ digit = 0) ∨ (c = '1' ∧ digit = 1) := by
  have code (other : Char) : c = other ↔ c.toNat = other.toNat := Char.toNat_inj.symm
  simp only [Text.digitValue?, Option.ite_none_right_eq_some, Option.some.injEq] at value
  obtain ⟨small, rfl⟩ := value
  simp only [code, Char.le_def, UInt32.le_iff_toNat_le] at small ⊢
  split at small
  · next decimal =>
    rw [if_pos decimal]
    change (c.toNat = 48 ∧ c.toNat - 48 = 0) ∨ (c.toNat = 49 ∧ c.toNat - 48 = 1)
    change 48 ≤ c.toNat ∧ c.toNat ≤ 57 at decimal
    change c.toNat - 48 < 2 at small
    omega
  · split at small
    · omega
    · split at small
      · omega
      · omega

/-- One more digit doubles a number, also when only its last eight digits are kept. -/
theorem shiftLeft_or_bit {bit : Nat} (small : bit < 2) (value : Nat) :
    UInt8.ofNat value <<< 1 ||| UInt8.ofNat bit = UInt8.ofNat (value * 2 + bit) := by
  have kept : ((value % 256) <<< 1) % 256 = (value % 128) <<< 1 := by
    rw [Nat.shiftLeft_eq, Nat.shiftLeft_eq]
    omega
  have bound : bit < 2 ^ 1 := small
  apply UInt8.toNat_inj.mp
  rw [UInt8.toNat_or, UInt8.toNat_shiftLeft]
  change ((value % 256) <<< 1) % 256 ||| bit % 256 = (value * 2 + bit) % 256
  rw [kept, Nat.mod_eq_of_lt (show bit < 256 by omega), ← Nat.shiftLeft_add_eq_or_of_lt bound,
    Nat.shiftLeft_eq]
  omega

theorem foldl_bits {bits : List Char} {digits : List Nat}
    (values : bits.mapM (Text.digitValue? 2) = some digits) (value : Nat) :
    bits.foldl (fun (byte : UInt8) bit => byte <<< 1 ||| (if bit = '1' then 1 else 0))
        (UInt8.ofNat value) =
      UInt8.ofNat (digits.foldl (fun value digit => value * 2 + digit) value) := by
  induction bits generalizing digits value with
  | nil =>
    cases values
    rfl
  | cons bit rest ih =>
    obtain ⟨digit, others, first, more, rfl⟩ := mapM_cons_eq_some_iff.mp values
    rw [List.foldl_cons, List.foldl_cons, ← ih more]
    congr 1
    obtain ⟨rfl, rfl⟩ | ⟨rfl, rfl⟩ := digitValue?_two first
    · exact shiftLeft_or_bit (by decide) value
    · exact shiftLeft_or_bit (by decide) value

theorem isBit_of_mem {bits : List Char} {digits : List Nat}
    (values : bits.mapM (Text.digitValue? 2) = some digits) : ∀ c ∈ bits, isBit c = true := by
  induction bits generalizing digits with
  | nil => simp
  | cons bit rest ih =>
    obtain ⟨digit, others, first, more, rfl⟩ := mapM_cons_eq_some_iff.mp values
    rw [List.forall_mem_cons]
    refine ⟨?_, ih more⟩
    obtain ⟨rfl, -⟩ | ⟨rfl, -⟩ := digitValue?_two first
    · rfl
    · rfl

/-! ## Lines -/

section Numeral

variable {bits rest : List Char} {n : Nat}

/-- The numeral that a text begins with gives the byte. -/
theorem leadingByte?_append (read : Text.readNat? 2 bits = some n)
    (ends : ∀ c ∈ rest.head?, isBit c = false) :
    leadingByte? (bits ++ rest) = some (UInt8.ofNat n) := by
  rw [Text.readNat?] at read
  split at read
  · contradiction
  · next filled =>
    obtain ⟨digits, values, number⟩ := Option.map_eq_some_iff.mp read
    have stop : rest.takeWhile isBit = [] := by
      cases rest with
      | nil => rfl
      | cons c rest => exact List.takeWhile_cons_of_neg (by simp [ends c rfl])
    have front : (bits ++ rest).takeWhile isBit = bits := by
      rw [List.takeWhile_append_of_pos (isBit_of_mem values), stop, List.append_nil]
    simp only [leadingByte?, front, if_neg filled, byteOfBits]
    rw [← number]
    exact congrArg some (foldl_bits values 0)

/-- A line that begins with a numeral holds the byte. -/
theorem byteOfLine?_append (read : Text.readNat? 2 bits = some n)
    (ends : ∀ c ∈ rest.head?, isBit c = false) :
    byteOfLine? (bits ++ rest) = some (UInt8.ofNat n) := by
  have leading := leadingByte?_append read ends
  cases bits with
  | nil => contradiction
  | cons c others =>
    have digit : c = '0' ∨ c = '1' := by
      obtain ⟨digits, values, -⟩ : ∃ digits,
          (c :: others).mapM (Text.digitValue? 2) = some digits ∧ Text.ofDigits 2 digits = n :=
        Option.map_eq_some_iff.mp read
      simpa [isBit] using isBit_of_mem values c List.mem_cons_self
    rw [← leading]
    obtain rfl | rfl := digit
    · rfl
    · rfl

end Numeral

theorem bytes_ofLines (lines : List (List Char)) :
    (ofLines lines).bytes = lines.filterMap byteOfLine? := by
  simp only [ofLines, List.map_filterMap]
  congr 1
  funext line
  cases byteOfLine? line <;> rfl

theorem isBlank_of_mem_getLast?_trim {s : List Char} :
    ∀ c ∈ (Text.trim s).getLast?, Text.isBlank c = false := by
  intro c last
  rw [Text.trim, Text.trimEnd, List.getLast?_reverse] at last
  have visible := List.head?_dropWhile_not Text.isBlank (Text.trimStart s).reverse
  rw [Option.mem_def.mp last] at visible
  exact visible

theorem mem_of_mem_trim {s : List Char} {c : Char} (member : c ∈ Text.trim s) : c ∈ s := by
  rw [Text.trim, Text.trimEnd, List.mem_reverse] at member
  have front := (List.dropWhile_suffix Text.isBlank).mem member
  rw [List.mem_reverse] at front
  exact (List.dropWhile_suffix Text.isBlank).mem front

/-- A byte and its comment on a line. -/
def noted (byte : UInt8) (note : List Char) : List Char :=
  let comment := Text.trim note
  (Text.binaryByte byte).toList ++ if comment = [] then [] else " # ".toList ++ comment

theorem toList_renderLine (byte : UInt8) (note : String) :
    (renderLine byte note).toList = noted byte note.toList ++ ['\n'] := by
  rw [renderLine, noted]
  by_cases empty : Text.trim note.toList = []
  · simp [empty]
  · simp [empty]

theorem isBit_of_mem_binaryByte {byte : UInt8} :
    ∀ c ∈ (Text.binaryByte byte).toList, isBit c = true := by
  have read : Text.readNat? 2 (Text.binaryByte byte).toList = some byte.toNat :=
    Text.readNat?_padded (by decide) (by decide) 8 byte.toNat
  rw [Text.readNat?] at read
  split at read
  · contradiction
  · obtain ⟨digits, values, -⟩ := Option.map_eq_some_iff.mp read
    exact isBit_of_mem values

theorem byteOfLine?_binaryByte_append (byte : UInt8) {rest : List Char}
    (ends : ∀ c ∈ rest.head?, isBit c = false) :
    byteOfLine? ((Text.binaryByte byte).toList ++ rest) = some byte := by
  have read : Text.readNat? 2 (Text.binaryByte byte).toList = some byte.toNat :=
    Text.readNat?_padded (by decide) (by decide) 8 byte.toNat
  rw [byteOfLine?_append read ends, UInt8.ofNat_toNat]

/-- A byte with a comment behind it is read as the byte, whatever the comment begins with. -/
theorem byteOfLine?_dropReturn (byte : UInt8) (comment : List Char) :
    byteOfLine? (Text.dropReturn '\r' ((Text.binaryByte byte).toList ++ " # ".toList ++ comment)) =
      some byte := by
  have front : ∃ kept, Text.dropReturn '\r' ((Text.binaryByte byte).toList ++ " # ".toList ++ comment) =
      (Text.binaryByte byte).toList ++ ' ' :: kept := by
    rw [List.append_assoc, Text.dropReturn]
    split
    · rw [List.dropLast_append_of_ne_nil (by simp)]
      exact ⟨_, congrArg _ List.dropLast_cons_cons⟩
    · exact ⟨_, rfl⟩
  obtain ⟨kept, line⟩ := front
  rw [line]
  refine byteOfLine?_binaryByte_append byte fun c first => ?_
  obtain rfl : ' ' = c := Option.some.inj first
  rfl

/-! ## Files -/

/-- The bytes on the lines of a comment after its first line. -/
def strayBytes (note : String) : List UInt8 :=
  (Text.lines (Text.trim note.toList)).tail.filterMap byteOfLine?

/-- The bytes on the lines of a file: each byte of a program, followed by what its comment puts on
further lines. -/
def bytesOnLines : List UInt8 → List String → List UInt8
  | [], _ => []
  | byte :: bytes, [] => byte :: bytesOnLines bytes []
  | byte :: bytes, note :: rest => byte :: (strayBytes note ++ bytesOnLines bytes rest)

theorem strayBytes_eq_nil {note : String} (unbroken : '\n' ∉ note.toList) : strayBytes note = [] := by
  have clean : ∀ c ∈ Text.trim note.toList, (c == '\n') = false := by
    intro c member
    rw [beq_eq_false_iff_ne]
    rintro rfl
    exact unbroken (mem_of_mem_trim member)
  rw [strayBytes, Text.lines, Text.linesBy, Text.pieces_of_all clean, Text.closeLines]
  split <;> rfl

/-- What stands on the line of a byte, and on the further lines of its comment. -/
theorem filterMap_pieces_noted (byte : UInt8) (note : String) :
    ((Text.pieces (· == '\n') (noted byte note.toList)).map (Text.dropReturn '\r')).filterMap
        byteOfLine? =
      byte :: strayBytes note := by
  have bits : ∀ c ∈ (Text.binaryByte byte).toList, (c == '\n') = false := by
    intro c member
    rw [beq_eq_false_iff_ne]
    rintro rfl
    exact absurd (isBit_of_mem_binaryByte _ member) (by decide)
  by_cases empty : Text.trim note.toList = []
  · have bare : noted byte note.toList = (Text.binaryByte byte).toList ++ [] := by
      rw [noted, empty, if_pos rfl]
    have plain : Text.dropReturn '\r' (Text.binaryByte byte).toList = (Text.binaryByte byte).toList :=
      if_neg fun ends => absurd (isBit_of_mem_binaryByte _ (List.mem_of_getLast? ends)) (by decide)
    rw [bare, List.append_nil, Text.pieces_of_all bits, List.map_singleton, plain, strayBytes, empty,
      ← List.append_nil (Text.binaryByte byte).toList, List.filterMap_cons_some
      (byteOfLine?_binaryByte_append byte (by simp))]
    rfl
  · have front : ∀ c ∈ (Text.binaryByte byte).toList ++ " # ".toList, (c == '\n') = false := by
      intro c member
      rcases List.mem_append.mp member with digit | mark
      · exact bits c digit
      · exact (by simp : ∀ c ∈ " # ".toList, (c == '\n') = false) c mark
    have last : ∃ c ∈ (Text.trim note.toList).getLast?, Text.isBlank c = false := by
      obtain ⟨c, ends⟩ := Option.isSome_iff_exists.mp (List.getLast?_isSome.mpr empty)
      exact ⟨c, ends, isBlank_of_mem_getLast?_trim c ends⟩
    have whole : noted byte note.toList =
        (Text.binaryByte byte).toList ++ " # ".toList ++ Text.trim note.toList := by
      rw [noted, if_neg empty, List.append_assoc]
    rw [whole, Text.pieces_append_of_clean front, strayBytes, Text.lines_eq_map_pieces last]
    cases cut : Text.pieces (· == '\n') (Text.trim note.toList) with
    | nil => exact absurd cut (Text.pieces_ne_nil _ _)
    | cons first others =>
      rw [List.modifyHead_cons, List.map_cons,
        List.filterMap_cons_some (byteOfLine?_dropReturn byte first)]
      rfl

theorem filterMap_lines_renderLine (byte : UInt8) (note rest : String) :
    (Text.lines (renderLine byte note ++ rest).toList).filterMap byteOfLine? =
      byte :: (strayBytes note ++ (Text.lines rest.toList).filterMap byteOfLine?) := by
  rw [String.toList_append, toList_renderLine, List.append_assoc, List.singleton_append,
    Text.lines_append_cons, List.filterMap_append, filterMap_pieces_noted, List.cons_append]

theorem filterMap_lines_renderLines (bytes : List UInt8) (notes : List String) :
    (Text.lines (renderLines bytes notes).toList).filterMap byteOfLine? =
      bytesOnLines bytes notes := by
  fun_induction renderLines bytes notes with
  | case1 => rfl
  | case2 byte bytes ih =>
    rw [filterMap_lines_renderLine, ih, strayBytes_eq_nil (by simp), bytesOnLines, List.nil_append]
  | case3 byte bytes note rest ih => rw [filterMap_lines_renderLine, ih, bytesOnLines]

theorem length_le_bytesOnLines (bytes : List UInt8) (notes : List String) :
    bytes.length ≤ (bytesOnLines bytes notes).length := by
  fun_induction bytesOnLines bytes notes with
  | case1 => exact Nat.le_refl _
  | case2 byte bytes ih => exact Nat.succ_le_succ ih
  | case3 byte bytes note rest ih =>
    rw [List.length_cons, List.length_cons, List.length_append]
    omega

/-- The lines hold nothing but the program exactly when no comment puts a byte on a line. -/
theorem bytesOnLines_eq_self_iff (bytes : List UInt8) (notes : List String) :
    bytesOnLines bytes notes = bytes ↔ ∀ note ∈ notes.take bytes.length, strayBytes note = [] := by
  fun_induction bytesOnLines bytes notes with
  | case1 => simp
  | case2 byte bytes ih => simpa using ih
  | case3 byte bytes note rest ih =>
    rw [List.length_cons, List.take_succ_cons, List.forall_mem_cons, ← ih, List.cons_inj_right]
    constructor
    · intro same
      have lengths := congrArg List.length same
      have least := length_le_bytesOnLines bytes rest
      rw [List.length_append] at lengths
      have none : strayBytes note = [] := List.eq_nil_of_length_eq_zero (by omega)
      rw [none, List.nil_append] at same
      exact ⟨none, same⟩
    · rintro ⟨none, same⟩
      rw [none, same, List.nil_append]

/-- A line that begins with a hash sign holds no byte. -/
theorem filterMap_lines_hash {comment : List Char} (unbroken : '\n' ∉ comment) (rest : List Char) :
    (Text.lines ('#' :: comment ++ '\n' :: rest)).filterMap byteOfLine? =
      (Text.lines rest).filterMap byteOfLine? := by
  have clean : '\n' ∉ '#' :: comment := by simp [unbroken]
  have front : ∃ kept, Text.dropReturn '\r' ('#' :: comment) = '#' :: kept := by
    rw [Text.dropReturn]
    split
    · next ends =>
      cases comment with
      | nil => contradiction
      | cons c others => exact ⟨_, List.dropLast_cons_cons⟩
    · exact ⟨comment, rfl⟩
  obtain ⟨kept, line⟩ := front
  rw [Text.lines_append_lineFeed clean, line, List.filterMap_cons_none rfl]

/-- What is read back from the file of a program. -/
theorem bytes_parse_render_eq (program : ProgramFile) :
    (parse program.render).bytes = bytesOnLines program.bytes program.annotations := by
  have title : '\n' ∉ " LS-8 program".toList := by decide
  have count : '\n' ∉ ' ' :: Nat.toDigits 10 program.bytes.length ++ " bytes".toList := by
    intro member
    rw [List.mem_append, List.mem_cons] at member
    rcases member with (space | digit) | word
    · exact absurd space (by decide)
    · exact absurd (Nat.isDigit_of_mem_toDigits (by decide) (by decide) digit) (by decide)
    · exact absurd word (by decide)
  have header : program.render.toList =
      '#' :: " LS-8 program".toList ++ '\n' ::
        ('#' :: (' ' :: Nat.toDigits 10 program.bytes.length ++ " bytes".toList) ++ '\n' ::
          ([] ++ '\n' :: (renderLines program.bytes program.annotations).toList)) := by
    have first : "# LS-8 program\n# ".toList = '#' :: " LS-8 program".toList ++ ['\n', '#', ' '] := by
      decide
    have last : " bytes\n\n".toList = " bytes".toList ++ ['\n', '\n'] := by decide
    have digits : (Nat.repr program.bytes.length).toList = Nat.toDigits 10 program.bytes.length :=
      String.toList_ofList
    unfold render
    simp only [String.toList_append, first, last, digits, List.cons_append, List.nil_append,
      List.append_assoc]
  have blank : byteOfLine? (Text.dropReturn '\r' []) = none := rfl
  rw [parse, bytes_ofLines, header, filterMap_lines_hash title, filterMap_lines_hash count,
    Text.lines_append_lineFeed List.not_mem_nil, List.filterMap_cons_none blank,
    filterMap_lines_renderLines]

/-- A program is read back from its file, if no comment has a line feed in it. -/
theorem bytes_parse_render (program : ProgramFile)
    (unbroken : ∀ note ∈ program.annotations, '\n' ∉ note.toList) :
    (parse program.render).bytes = program.bytes := by
  rw [bytes_parse_render_eq, bytesOnLines_eq_self_iff]
  exact fun note member => strayBytes_eq_nil (unbroken note (List.mem_of_mem_take member))

/-- A program is read back from its file exactly when the comments of its bytes hold no byte on a
line after their first. -/
theorem bytes_parse_render_eq_iff (program : ProgramFile) :
    (parse program.render).bytes = program.bytes ↔
      ∀ note ∈ program.annotations.take program.bytes.length,
        (Text.lines (Text.trim note.toList)).tail.filterMap byteOfLine? = [] := by
  rw [bytes_parse_render_eq]
  exact bytesOnLines_eq_self_iff program.bytes program.annotations

/-- A comment of two lines, the second of which is read as a byte that the program does not have. -/
theorem comment_read_as_byte :
    let program : ProgramFile := ⟨[0xff, 0x00], ["two\n101", "-"]⟩
    (parse program.render).bytes = [0xff, 0x05, 0x00] ∧
      (parse program.render).bytes ≠ program.bytes := by
  intro program
  have read : (parse program.render).bytes = [0xff, 0x05, 0x00] := by
    rw [bytes_parse_render_eq]
    decide
  refine ⟨read, ?_⟩
  rw [read]
  decide

/-- The content of a file is read as the text that has been encoded in it. -/
theorem ofBytes?_encode (text : String) : ofBytes? (Text.Utf8.encode text) = some (parse text) := by
  have decoded (lines : List (List Char)) :
      (lines.map (·.flatMap String.utf8EncodeChar)).mapM Text.Utf8.decode? = some lines := by
    induction lines with
    | nil => rfl
    | cons line rest ih =>
      rw [List.map_cons]
      exact mapM_cons_eq_some_iff.mpr ⟨line, rest, Text.Utf8.decode?_flatMap line, ih, rfl⟩
  rw [ofBytes?, Text.Utf8.encode, Text.Utf8.linesBy_flatMap, decoded]
  rfl

/-- A content is read exactly if it is text as a whole, and then as this text. -/
theorem ofBytes?_eq (content : List UInt8) :
    ofBytes? content =
      (Text.Utf8.decode? content).map fun text => parse (String.ofList text) := by
  rw [ofBytes?, Text.Utf8.mapM_decode?_linesBy, Option.map_map]
  congr 1
  funext text
  rw [Function.comp_apply, parse, String.toList_ofList]

end Ls8.ProgramFile

namespace Ls8

/-! ## Annotated images -/

theorem bytes_annotate (image : List UInt8) : (annotate image).bytes = image :=
  flatMap_bytes_listing image

theorem unbroken_of_mem_annotate {image : List UInt8} {note : String}
    (member : note ∈ (annotate image).annotations) : '\n' ∉ note.toList := by
  obtain ⟨line, among, here⟩ := List.mem_flatMap.mp member
  rw [ListingLine.annotations, List.mem_cons] at here
  rcases here with rfl | other
  · exact (contributes_of_mem_sweep among).line.unbroken
  · rw [List.eq_of_mem_replicate other]
    simp

/-- An annotated image is read back from its file. -/
theorem bytes_parse_annotate (image : List UInt8) :
    (ProgramFile.parse (annotate image).render).bytes = image := by
  rw [ProgramFile.bytes_parse_render _ fun note member => unbroken_of_mem_annotate member,
    bytes_annotate]

end Ls8
