import Ls8.Proofs.ProgramFile

/-! # What the lines of a program file write

A line of a program file counts if it begins with a binary numeral: blanks, at most one sign, and a
run of binary digits that is not empty. `Numeral` has such a line in its parts. The byte of the line is
the integer that the whole run writes, however long it is, modulo 256. So the bytes of a file are those
of its numerals in order, and neither the other lines nor what follows a numeral on its line makes a
difference to them. -/

namespace Ls8.ProgramFile

/-! ## Numerals -/

/-- The signs that a numeral may have. -/
inductive Sign
  | absent
  | plus
  | minus
  deriving DecidableEq, Repr

/-- A sign as it is written. -/
def Sign.text : Sign → List Char
  | absent => []
  | plus => ['+']
  | minus => ['-']

/-- A number with a sign. -/
def Sign.apply (n : Nat) : Sign → Int
  | absent | plus => n
  | minus => -n

/-- A binary digit as it is written. -/
def digit (bit : Bool) : Char := if bit then '1' else '0'

/-- A line that begins with a binary numeral. The digits are a whole run: what follows them does not
begin with a digit. -/
structure Numeral where
  blanks : List Char
  sign : Sign
  bits : List Bool
  rest : List Char
  blank : ∀ c ∈ blanks, Text.isBlank c = true
  filled : bits ≠ []
  ends : ∀ c ∈ rest.head?, c ≠ '0' ∧ c ≠ '1'

namespace Numeral

/-- The line as it is written. -/
def line (n : Numeral) : List Char := n.blanks ++ n.sign.text ++ n.bits.map digit ++ n.rest

/-- The integer that the numeral writes. -/
def value (n : Numeral) : Int := n.sign.apply (Text.ofDigits 2 (n.bits.map Bool.toNat))

/-- What of the line is the numeral. -/
def written (n : Numeral) : Sign × List Bool := (n.sign, n.bits)

/-- The number from 0 to 255 that the integer is modulo 256. -/
def byte (n : Numeral) : UInt8 := UInt8.ofInt n.value

end Numeral

/-- A line begins with a binary numeral. -/
def Counts (line : List Char) : Prop := ∃ n : Numeral, n.line = line

theorem readNat?_digits {bits : List Bool} (filled : bits ≠ []) :
    Text.readNat? 2 (bits.map digit) = some (Text.ofDigits 2 (bits.map Bool.toNat)) := by
  have values : (bits.map digit).mapM (Text.digitValue? 2) = some (bits.map Bool.toNat) := by
    rw [List.mapM_map]
    apply mapM_eq_some_map
    decide
  rw [Text.readNat?, values, if_neg (by simpa using filled)]
  rfl

/-- Every run of binary digits is written from bits. -/
theorem exists_bits {s : List Char} (plain : ∀ c ∈ s, isBit c = true) :
    ∃ bits : List Bool, bits.map digit = s := by
  induction s with
  | nil => exact ⟨[], rfl⟩
  | cons c rest ih =>
    obtain ⟨first, others⟩ := List.forall_mem_cons.mp plain
    obtain ⟨bits, rfl⟩ := ih others
    have choice : c = '0' ∨ c = '1' := by simpa [isBit] using first
    obtain rfl | rfl := choice
    · exact ⟨false :: bits, rfl⟩
    · exact ⟨true :: bits, rfl⟩

theorem isBit_eq_false_iff {c : Char} : isBit c = false ↔ c ≠ '0' ∧ c ≠ '1' := by
  simp [isBit]

theorem isBlank_digit (bit : Bool) : Text.isBlank (digit bit) = false := by
  cases bit <;> rfl

/-- The text after the blanks of a line is not changed by the removal of blanks. -/
theorem trimStart_append {blanks s : List Char} (blank : ∀ c ∈ blanks, Text.isBlank c = true)
    (visible : ∀ c ∈ s.head?, Text.isBlank c = false) : Text.trimStart (blanks ++ s) = s := by
  rw [Text.trimStart, List.dropWhile_append_of_pos blank]
  cases s with
  | nil => rfl
  | cons c rest => exact Text.trimStart_cons_of_not_blank (visible c rfl)

/-! ## Lines -/

theorem Numeral.toNat_byte (n : Numeral) : (n.byte.toNat : Int) = n.value % 256 := by
  rw [byte, UInt8.ofInt, UInt8.toNat_ofNat']
  omega

theorem ofInt_natCast (n : Nat) : UInt8.ofInt n = UInt8.ofNat n := by
  apply UInt8.toNat_inj.mp
  rw [UInt8.ofInt, UInt8.toNat_ofNat', UInt8.toNat_ofNat']
  omega

/-- The byte of a line that begins with a numeral. -/
theorem byteOfLine?_line (n : Numeral) : byteOfLine? n.line = some n.byte := by
  obtain ⟨blanks, sign, bits, rest, blank, filled, ends⟩ := n
  have leading : leadingByte? (bits.map digit ++ rest) =
      some (UInt8.ofNat (Text.ofDigits 2 (bits.map Bool.toNat))) :=
    leadingByte?_append (readNat?_digits filled) fun c member => isBit_eq_false_iff.mpr (ends c member)
  obtain ⟨bit, others, rfl⟩ := List.exists_cons_of_ne_nil filled
  have trimmed : Text.trimStart (blanks ++ (sign.text ++ ((bit :: others).map digit ++ rest))) =
      sign.text ++ ((bit :: others).map digit ++ rest) := by
    apply trimStart_append blank
    intro c first
    cases sign with
    | absent =>
      obtain rfl : digit bit = c := Option.some.inj first
      exact isBlank_digit bit
    | plus =>
      obtain rfl : '+' = c := Option.some.inj first
      rfl
    | minus =>
      obtain rfl : '-' = c := Option.some.inj first
      rfl
  simp only [Numeral.line, List.append_assoc]
  rw [byteOfLine?, trimmed, Numeral.byte, Numeral.value]
  cases sign with
  | absent =>
    rw [Sign.apply, ofInt_natCast, ← leading]
    cases bit <;> rfl
  | plus =>
    rw [Sign.apply, ofInt_natCast, ← leading]
    rfl
  | minus =>
    rw [Sign.apply, UInt8.ofInt_neg, ofInt_natCast, ← UInt8.zero_sub]
    exact congrArg (Option.map (0 - ·)) leading

theorem exists_run {s : List Char} {byte : UInt8} (held : leadingByte? s = some byte) :
    ∃ bits rest, bits ≠ [] ∧ (∀ c ∈ rest.head?, c ≠ '0' ∧ c ≠ '1') ∧
      s = bits.map digit ++ rest := by
  simp only [leadingByte?] at held
  split at held
  · contradiction
  · next filled =>
    obtain ⟨bits, run⟩ := exists_bits fun c member => List.mem_takeWhile_imp member
    refine ⟨bits, s.dropWhile isBit, ?_, ?_, ?_⟩
    · rintro rfl
      rw [← run] at filled
      contradiction
    · intro c first
      have stops := List.head?_dropWhile_not isBit s
      rw [Option.mem_def.mp first] at stops
      exact isBit_eq_false_iff.mp stops
    · rw [run, List.takeWhile_append_dropWhile]

/-- Only a line that begins with a numeral holds a byte. -/
theorem exists_numeral {line : List Char} {byte : UInt8} (held : byteOfLine? line = some byte) :
    Counts line := by
  have blank : ∀ c ∈ line.takeWhile Text.isBlank, Text.isBlank c = true :=
    fun c member => List.mem_takeWhile_imp member
  have whole : line.takeWhile Text.isBlank ++ Text.trimStart line = line :=
    List.takeWhile_append_dropWhile
  have made (sign : Sign) {s : List Char} {b : UInt8} (begins : Text.trimStart line = sign.text ++ s)
      (run : leadingByte? s = some b) : Counts line := by
    obtain ⟨bits, rest, filled, ends, rfl⟩ := exists_run run
    refine ⟨⟨_, sign, bits, rest, blank, filled, ends⟩, ?_⟩
    simp only [Numeral.line, List.append_assoc]
    rw [← begins]
    exact whole
  unfold byteOfLine? at held
  split at held
  · next s begins =>
    obtain ⟨b, run, -⟩ := Option.map_eq_some_iff.mp held
    exact made .minus begins run
  · next s begins => exact made .plus begins held
  · exact made .absent rfl held

/-- The lines that hold a byte, and the byte that each holds. -/
theorem byteOfLine?_eq_some_iff {line : List Char} {byte : UInt8} :
    byteOfLine? line = some byte ↔ ∃ n : Numeral, n.line = line ∧ n.byte = byte := by
  constructor
  · intro held
    obtain ⟨n, rfl⟩ := exists_numeral held
    exact ⟨n, rfl, Option.some.inj ((byteOfLine?_line n).symm.trans held)⟩
  · rintro ⟨n, rfl, rfl⟩
    exact byteOfLine?_line n

theorem counts_iff {line : List Char} : Counts line ↔ (byteOfLine? line).isSome := by
  simp [Counts, Option.isSome_iff_exists, byteOfLine?_eq_some_iff]

instance : DecidablePred Counts := fun _ => decidable_of_iff' _ counts_iff

/-- The lines of a text that begin with a binary numeral. -/
def countingLines (text : String) : List (List Char) := (Text.lines text.toList).filter (Counts ·)

/-! ## Files -/

theorem ofLines_cons_of_not_counts {line : List Char} (skipped : ¬Counts line)
    (rest : List (List Char)) : ofLines (line :: rest) = ofLines rest := by
  have none : byteOfLine? line = none := by
    rwa [counts_iff, Option.not_isSome_iff_eq_none] at skipped
  simp only [ofLines, List.filterMap_cons, none, Option.map_none]

theorem ofLines_cons (n : Numeral) (rest : List (List Char)) :
    ofLines (n.line :: rest) =
      { bytes := n.byte :: (ofLines rest).bytes
        annotations := String.ofList (Text.trim n.line) :: (ofLines rest).annotations } := by
  simp only [ofLines, List.filterMap_cons, byteOfLine?_line, Option.map_some, List.map_cons]

/-- Lines that do not begin with a numeral make no difference. -/
theorem ofLines_filter (lines : List (List Char)) :
    ofLines (lines.filter (Counts ·)) = ofLines lines := by
  induction lines with
  | nil => rfl
  | cons line rest ih =>
    by_cases counts : Counts line
    · rw [List.filter_cons, if_pos (decide_eq_true counts)]
      obtain ⟨n, rfl⟩ := counts
      rw [ofLines_cons, ofLines_cons, ih]
    · rw [List.filter_cons, if_neg (by simpa using counts), ih, ofLines_cons_of_not_counts counts]

theorem ofLines_numerals (found : List Numeral) :
    ofLines (found.map (·.line)) =
      { bytes := found.map (·.byte)
        annotations := found.map fun n => String.ofList (Text.trim n.line) } := by
  induction found with
  | nil => rfl
  | cons n rest ih => rw [List.map_cons, ofLines_cons, ih, List.map_cons, List.map_cons]

/-- The lines that count are those of numerals. -/
theorem exists_numerals (lines : List (List Char)) :
    ∃ found : List Numeral, lines.filter (Counts ·) = found.map (·.line) := by
  have all : lines.filter (Counts ·) ∈ Set.range (List.map Numeral.line) := by
    rw [Set.range_list_map]
    intro line member
    have counts : Counts line := of_decide_eq_true (List.mem_filter.mp member).2
    exact counts
  obtain ⟨found, same⟩ := all
  exact ⟨found, same.symm⟩

/-- What is read from a text whose numerals are known. -/
theorem parse_of_countingLines {text : String} {found : List Numeral}
    (lines : countingLines text = found.map (·.line)) :
    parse text = { bytes := found.map (·.byte)
                   annotations := found.map fun n => String.ofList (Text.trim n.line) } := by
  rw [parse, ← ofLines_filter, ← countingLines, lines, ofLines_numerals]

/-- The bytes of numerals depend on nothing but the numerals themselves. -/
theorem map_byte_congr {these those : List Numeral}
    (same : these.map (·.written) = those.map (·.written)) :
    these.map (·.byte) = those.map (·.byte) := by
  have bytes (found : List Numeral) : found.map (·.byte) =
      (found.map (·.written)).map fun (sign, bits) =>
        UInt8.ofInt (sign.apply (Text.ofDigits 2 (bits.map Bool.toNat))) := by
    rw [List.map_map]
    rfl
  rw [bytes, bytes, same]

/-- A file has one byte for each line of its text that begins with a binary numeral, in the order of
these lines, and as many annotations. The byte is the integer that the numeral writes modulo 256; the
annotation is the whole line but for the blanks at its ends. Lines that do not begin with a numeral make
no difference, and what stands around the numerals makes none to the bytes: two texts whose numerals
have the same signs and digits give the same bytes. -/
theorem parse_reads_numerals (source : String) :
    (parse source).bytes.length = (parse source).annotations.length ∧
    (∃ found : List Numeral,
      countingLines source = found.map (·.line) ∧
      (parse source).bytes.map (fun byte => (byte.toNat : Int)) = found.map (fun n => n.value % 256) ∧
      (parse source).annotations = found.map (fun n => String.ofList (Text.trim n.line))) ∧
    ∀ other, (countingLines other = countingLines source → parse other = parse source) ∧
      ∀ these those : List Numeral, countingLines source = these.map (·.line) →
        countingLines other = those.map (·.line) → these.map (·.written) = those.map (·.written) →
          (parse other).bytes = (parse source).bytes := by
  obtain ⟨found, lines⟩ : ∃ found : List Numeral, countingLines source = found.map (·.line) :=
    exists_numerals (Text.lines source.toList)
  have whole := parse_of_countingLines lines
  refine ⟨?_, ⟨found, lines, ?_, ?_⟩, fun other => ⟨?_, ?_⟩⟩
  · rw [whole, List.length_map, List.length_map]
  · rw [whole, List.map_map]
    exact List.map_congr_left fun n _ => n.toNat_byte
  · rw [whole]
  · intro same
    rw [whole]
    exact parse_of_countingLines (same.trans lines)
  · intro these those here there same
    rw [parse_of_countingLines here, parse_of_countingLines there]
    exact (map_byte_congr same).symm

/-- Blanks beyond ASCII, both signs, a run of nine digits, and text that follows without a blank. -/
theorem parse_signed_numerals :
    let source := "\u00a0-101 five\nnothing\n+100000001x\r\n11"
    let other := "11\n--1\n"
    parse source = ⟨[0xfb, 1, 3], ["-101 five", "+100000001x", "11"]⟩ ∧
      (parse "11#1\n# 101").bytes = (parse other).bytes := by
  intro source other
  have blank : ∀ c ∈ ([] : List Char), Text.isBlank c = true := by simp
  let bare : Numeral := ⟨[], .absent, [true, true], [], blank, by simp, by simp⟩
  let noted : Numeral := ⟨[], .absent, [true, true], "#1".toList, blank, by simp, by simp⟩
  obtain ⟨-, -, makes⟩ := parse_reads_numerals other
  obtain ⟨-, bytes⟩ := makes "11#1\n# 101"
  have here : countingLines other = ["11".toList] := by decide
  have there : countingLines "11#1\n# 101" = ["11#1".toList] := by decide
  exact ⟨by decide, bytes [bare] [noted] here there rfl⟩

end Ls8.ProgramFile
