import Ls8.Proofs.Assembly.Words

/-! # Numeric literals in source texts

A literal is a decimal numeral with at most one sign, or a mark of a radix and a numeral of this radix.
Literals of 64-bit integers are read exactly, whatever their length, and it is the place that limits them:
a byte lies between -128 and 255, and an origin between the end of the bytes and the end of memory. What
else begins like a number is refused, unless it has a sign behind its mark; and what does not begin so is
never a number, which leaves every name to the labels. -/

namespace Ls8.Assembly

/-! ## Literals -/

/-- A literal of a radix, and the integer that it writes. -/
inductive Literal : Radix → List Char → Int → Prop
  | decimal {s : List Char} {v : Int} (written : Text.SignedDigits 10 s v) : Literal .decimal s v
  | hexadecimal {x : Char} {s : List Char} {n : Nat} (mark : x = 'x' ∨ x = 'X')
      (written : Text.Digits 16 s n) : Literal .hexadecimal ('0' :: x :: s) n
  | binary {b : Char} {s : List Char} {n : Nat} (mark : b = 'b' ∨ b = 'B')
      (written : Text.Digits 2 s n) : Literal .binary ('0' :: b :: s) n

/-- A mark of a radix with a sign and digits behind it, which is no literal. -/
inductive SignBehindMark : List Char → Prop
  | hexadecimal {x sign : Char} {s : List Char} {n : Nat} (mark : x = 'x' ∨ x = 'X')
      (signed : sign = '+' ∨ sign = '-') (written : Text.Digits 16 s n) :
    SignBehindMark ('0' :: x :: sign :: s)
  | binary {b sign : Char} {s : List Char} {n : Nat} (mark : b = 'b' ∨ b = 'B')
      (signed : sign = '+' ∨ sign = '-') (written : Text.Digits 2 s n) :
    SignBehindMark ('0' :: b :: sign :: s)

/-- Whether an operand begins with a digit or a sign. -/
def beginsNumber : List Char → Bool
  | [] => false
  | c :: _ => isDecimalStart c

/-! ## Marks -/

/-- An operand without the mark of a radix. -/
def Unmarked (operand : List Char) : Prop :=
  ∀ mark digits, operand = '0' :: mark :: digits → mark ∉ ['x', 'X', 'b', 'B']

theorem marked_or_unmarked (operand : List Char) :
    (∃ x digits, (x = 'x' ∨ x = 'X') ∧ operand = '0' :: x :: digits) ∨
      (∃ b digits, (b = 'b' ∨ b = 'B') ∧ operand = '0' :: b :: digits) ∨ Unmarked operand := by
  by_cases marked : ∃ mark digits, operand = '0' :: mark :: digits ∧ mark ∈ ['x', 'X', 'b', 'B']
  · obtain ⟨mark, digits, rfl, listed⟩ := marked
    simp only [List.mem_cons, List.not_mem_nil, or_false] at listed
    obtain x | x | b | b := listed
    · exact .inl ⟨mark, digits, .inl x, rfl⟩
    · exact .inl ⟨mark, digits, .inr x, rfl⟩
    · exact .inr (.inl ⟨mark, digits, .inl b, rfl⟩)
    · exact .inr (.inl ⟨mark, digits, .inr b, rfl⟩)
  · exact .inr (.inr fun mark digits same listed => marked ⟨mark, digits, same, listed⟩)

theorem readLiteral_lower_digits (radix : Radix) (operand digits : List Char) :
    readLiteral radix operand (Text.lower digits) = readLiteral radix operand digits := by
  rw [readLiteral, Text.readInt64?_lower, readLiteral]

theorem readNumber_hexadecimal {x : Char} (mark : x = 'x' ∨ x = 'X') (digits : List Char) :
    readNumber ('0' :: x :: digits) = readLiteral .hexadecimal ('0' :: x :: digits) digits := by
  obtain rfl | rfl := mark
  · exact readLiteral_lower_digits .hexadecimal ('0' :: 'x' :: digits) digits
  · exact readLiteral_lower_digits .hexadecimal ('0' :: 'X' :: digits) digits

theorem readNumber_binary {b : Char} (mark : b = 'b' ∨ b = 'B') (digits : List Char) :
    readNumber ('0' :: b :: digits) = readLiteral .binary ('0' :: b :: digits) digits := by
  obtain rfl | rfl := mark
  · exact readLiteral_lower_digits .binary ('0' :: 'b' :: digits) digits
  · exact readLiteral_lower_digits .binary ('0' :: 'B' :: digits) digits

theorem readNumber_unmarked {operand : List Char} (plain : Unmarked operand) :
    readNumber operand = if beginsNumber operand then readLiteral .decimal operand operand else .ok none := by
  have zero (c : Char) : c.toLower = '0' ↔ c = '0' := Text.toLower_eq_iff (by decide) c
  have x (c : Char) : c.toLower = 'x' ↔ c = 'x' ∨ c = 'X' :=
    Text.toLower_eq_letter_iff (by decide) (by decide) (by decide) c
  have b (c : Char) : c.toLower = 'b' ↔ c = 'b' ∨ c = 'B' :=
    Text.toLower_eq_letter_iff (by decide) (by decide) (by decide) c
  unfold readNumber
  split
  · next marked =>
    obtain ⟨first, _, rfl, leading, behind⟩ := List.map_eq_cons_iff.mp marked
    obtain ⟨mark, digits, rfl, marking, -⟩ := List.map_eq_cons_iff.mp behind
    obtain rfl := (zero first).mp leading
    exact absurd (by simp [(x mark).mp marking, ← or_assoc]) (plain mark digits rfl)
  · next marked =>
    obtain ⟨first, _, rfl, leading, behind⟩ := List.map_eq_cons_iff.mp marked
    obtain ⟨mark, digits, rfl, marking, -⟩ := List.map_eq_cons_iff.mp behind
    obtain rfl := (zero first).mp leading
    exact absurd (by simp [(b mark).mp marking]) (plain mark digits rfl)
  · cases operand with
    | nil => rfl
    | cons c rest => rfl

/-- A numeral is a number if it is a 64-bit integer, and otherwise refused. -/
theorem readLiteral_of_signedDigits {radix : Radix} {operand digits : List Char} {v : Int}
    (written : Text.SignedDigits radix.base digits v) :
    readLiteral radix operand digits =
      if Text.IsInt64 v then .ok (some v) else .error (.invalidLiteral radix (String.ofList operand)) := by
  have high : radix.base ≤ 16 := by cases radix <;> decide
  rw [readLiteral]
  by_cases small : Text.IsInt64 v
  · rw [(Text.readInt64?_eq_some_iff high).mpr ⟨written, small⟩, if_pos small]
  · have none : Text.readInt64? radix.base digits = none := by
      rw [Option.eq_none_iff_forall_ne_some]
      intro w read
      obtain ⟨also, fits⟩ := (Text.readInt64?_eq_some_iff high).mp read
      rw [← Text.readInt?_eq_some_iff high] at written also
      obtain rfl := Option.some.inj (written.symm.trans also)
      exact small fits
    rw [none, if_neg small]

theorem readLiteral_of_not_signedDigits {radix : Radix} {operand digits : List Char}
    (malformed : ∀ v, ¬Text.SignedDigits radix.base digits v) :
    readLiteral radix operand digits = .error (.invalidLiteral radix (String.ofList operand)) := by
  have high : radix.base ≤ 16 := by cases radix <;> decide
  have none : Text.readInt64? radix.base digits = none := by
    rw [Option.eq_none_iff_forall_ne_some]
    exact fun v read => malformed v ((Text.readInt64?_eq_some_iff high).mp read).1
  rw [readLiteral, none]

/-! ## What an operand is taken for -/

/-- A decimal numeral has no mark. -/
theorem unmarked_of_signedDigits {s : List Char} {v : Int} (written : Text.SignedDigits 10 s v) :
    Unmarked s := by
  rintro mark digits rfl
  cases written with
  | unsigned written =>
    obtain ⟨digit, isDigit⟩ := written.exists_isDigit_of_mem (List.mem_cons_of_mem '0' List.mem_cons_self)
    obtain ⟨small, rfl⟩ := Text.isDigit_ten_iff.mp isDigit
    have table : ∀ digit < 10, digit.digitChar ∉ ['x', 'X', 'b', 'B'] := by decide
    exact table digit small

theorem beginsNumber_of_signedDigits {s : List Char} {v : Int} (written : Text.SignedDigits 10 s v) :
    beginsNumber s = true := by
  cases written with
  | @unsigned _ _ written =>
    cases s with
    | nil => exact absurd rfl written.ne_nil
    | cons c rest =>
      obtain ⟨digit, isDigit⟩ := written.exists_isDigit_of_mem List.mem_cons_self
      obtain ⟨small, rfl⟩ := Text.isDigit_ten_iff.mp isDigit
      have table : ∀ digit < 10, isDecimalStart digit.digitChar = true := by decide
      exact table digit small
  | plus written => rfl
  | minus written => rfl

/-- A literal is a number if it is a 64-bit integer, and otherwise refused. -/
theorem Literal.readNumber_eq {radix : Radix} {operand : List Char} {v : Int}
    (written : Literal radix operand v) :
    readNumber operand =
      if Text.IsInt64 v then .ok (some v) else .error (.invalidLiteral radix (String.ofList operand)) := by
  cases written with
  | decimal written =>
    rw [readNumber_unmarked (unmarked_of_signedDigits written),
      if_pos (beginsNumber_of_signedDigits written)]
    exact readLiteral_of_signedDigits written
  | hexadecimal mark written =>
    rw [readNumber_hexadecimal mark]
    exact readLiteral_of_signedDigits (.unsigned written)
  | binary mark written =>
    rw [readNumber_binary mark]
    exact readLiteral_of_signedDigits (.unsigned written)

/-- What begins like a number and is no literal is refused, unless it has a sign behind its mark. -/
theorem readNumber_of_not_literal {operand : List Char} (begins : beginsNumber operand = true)
    (malformed : ∀ radix v, ¬Literal radix operand v) (plain : ¬SignBehindMark operand) :
    ∃ radix, readNumber operand = .error (.invalidLiteral radix (String.ofList operand)) := by
  obtain ⟨x, digits, mark, rfl⟩ | ⟨b, digits, mark, rfl⟩ | unmarked := marked_or_unmarked operand
  · refine ⟨.hexadecimal, ?_⟩
    rw [readNumber_hexadecimal mark]
    refine readLiteral_of_not_signedDigits fun v signed => ?_
    cases signed with
    | unsigned written => exact malformed .hexadecimal _ (.hexadecimal mark written)
    | plus written => exact plain (.hexadecimal mark (.inl rfl) written)
    | minus written => exact plain (.hexadecimal mark (.inr rfl) written)
  · refine ⟨.binary, ?_⟩
    rw [readNumber_binary mark]
    refine readLiteral_of_not_signedDigits fun v signed => ?_
    cases signed with
    | unsigned written => exact malformed .binary _ (.binary mark written)
    | plus written => exact plain (.binary mark (.inl rfl) written)
    | minus written => exact plain (.binary mark (.inr rfl) written)
  · refine ⟨.decimal, ?_⟩
    rw [readNumber_unmarked unmarked, if_pos begins]
    exact readLiteral_of_not_signedDigits fun v written => malformed .decimal v (.decimal written)

/-- What does not begin like a number is none. -/
theorem readNumber_of_not_begins {operand : List Char} (begins : beginsNumber operand = false) :
    readNumber operand = .ok none := by
  obtain ⟨x, digits, -, rfl⟩ | ⟨b, digits, -, rfl⟩ | unmarked := marked_or_unmarked operand
  · contradiction
  · contradiction
  · rw [readNumber_unmarked unmarked, begins]
    rfl

/-- The numbers are the literals of 64-bit integers, and what has a sign behind its mark. -/
theorem readNumber_eq_number_iff {operand : List Char} (plain : ¬SignBehindMark operand) {v : Int} :
    readNumber operand = .ok (some v) ↔ ∃ radix, Literal radix operand v ∧ Text.IsInt64 v := by
  constructor
  · intro read
    by_cases literal : ∃ radix w, Literal radix operand w
    · obtain ⟨radix, w, written⟩ := literal
      rw [written.readNumber_eq] at read
      split at read
      · next small =>
        obtain rfl := Option.some.inj (Except.ok.inj read)
        exact ⟨radix, written, small⟩
      · contradiction
    · cases begins : beginsNumber operand with
      | true =>
        have malformed : ∀ radix w, ¬Literal radix operand w := fun radix w written =>
          literal ⟨radix, w, written⟩
        obtain ⟨radix, refused⟩ := readNumber_of_not_literal begins malformed plain
        rw [refused] at read
        contradiction
      | false =>
        rw [readNumber_of_not_begins begins] at read
        exact absurd read (by simp)
  · rintro ⟨radix, written, small⟩
    rw [written.readNumber_eq, if_pos small]

/-- What has the name of a label does not begin like a number. -/
theorem not_begins_of_nameOf_eq {operand label : List Char} (name : nameOf operand = nameOf label)
    (valid : spellsLabel label = true) : beginsNumber operand = false := by
  have upper : Text.upper operand = Text.upper label := String.ofList_injective name
  have spelled : spellsLabel operand = true := by
    rw [← isLabelName_upper, upper, isLabelName_upper, valid]
  cases operand with
  | nil => rfl
  | cons c rest =>
    rw [spellsLabel, Bool.and_eq_true, Bool.or_eq_true] at spelled
    obtain ⟨letter | folding, -⟩ := spelled
    · have table : ∀ code < 128, isLabelStart (Char.ofNat code) = true →
          isDecimalStart (Char.ofNat code) = false := by decide +kernel
      obtain ⟨code, below, rfl⟩ :=
        Text.exists_code (ascii_of_isLabelRest (isLabelRest_of_isLabelStart letter))
      exact table code below letter
    · have table : Text.foldings.all (fun entry => !isDecimalStart entry.1) = true := by decide
      have other := List.all_eq_true.mp table _ (Text.folds_iff.mp folding)
      rwa [Bool.not_eq_true'] at other

/-! ## Immediates and origins -/

/-- A number from -128 to 255 has a byte, which is the number modulo 256. -/
theorem byteOfInt?_of_range {v : Int} (low : -128 ≤ v) (high : v ≤ 255) :
    ∃ byte : UInt8, byteOfInt? v = some byte ∧ (byte.toNat : Int) = v % 256 := by
  refine ⟨UInt8.ofInt v, if_pos ⟨low, high⟩, ?_⟩
  rw [UInt8.ofInt, UInt8.toNat_ofNat']
  omega

/-- How an operand is taken for a byte at an offset of the image. -/
structure ReadAsByte (source : String) (number : Nat) (operand : List Char) (offset : Nat) : Prop where
  /-- A literal from -128 to 255 is its value modulo 256. -/
  fits : ∀ {radix v}, Literal radix operand v → -128 ≤ v → v ≤ 255 →
    ∃ byte : UInt8, (byte.toNat : Int) = v % 256 ∧ readOperand .immediate operand = .ok (.byte byte) ∧
      ∀ bytes, assemble source = .ok bytes → bytes[offset]? = some byte
  /-- Any other literal of a 64-bit integer is out of range. -/
  outOfRange : ∀ {radix v}, Literal radix operand v → Text.IsInt64 v → ¬(-128 ≤ v ∧ v ≤ 255) →
    assemble source = .error (.onLine number (.valueOutOfRange v))
  /-- A literal of a longer integer is refused. -/
  tooLong : ∀ {radix v}, Literal radix operand v → ¬Text.IsInt64 v →
    assemble source = .error (.onLine number (.invalidLiteral radix (String.ofList operand)))
  /-- What begins like a number and is no literal is refused. -/
  malformed : beginsNumber operand = true → (∀ radix v, ¬Literal radix operand v) →
    ¬SignBehindMark operand →
      ∃ radix, assemble source = .error (.onLine number (.invalidLiteral radix (String.ofList operand)))
  /-- Everything else is a reference to a label. -/
  name : beginsNumber operand = false →
    readOperand .immediate operand = .ok (.reference (nameOf operand))

/-- How an operand is taken for the place behind the bytes of a draft where a program goes on. -/
structure ReadAsOrigin (source : String) (number : Nat) (operand : List Char) (d : Draft) : Prop where
  /-- A literal of a 64-bit integer is refused if it lies before the end of the bytes or behind memory,
  and for nothing else. -/
  target : ∀ {radix v}, Literal radix operand v → Text.IsInt64 v → ∀ cause,
    assemble source = .error (.onLine number cause) ↔
      ¬((d.bytes.length : Int) ≤ v ∧ v ≤ 255) ∧ cause = .valueOutOfRange v
  /-- A literal of a longer integer is refused. -/
  tooLong : ∀ {radix v}, Literal radix operand v → ¬Text.IsInt64 v →
    assemble source = .error (.onLine number (.invalidLiteral radix (String.ofList operand)))
  /-- What begins like a number and is no literal is refused. -/
  malformed : beginsNumber operand = true → (∀ radix v, ¬Literal radix operand v) →
    ¬SignBehindMark operand →
      ∃ radix, assemble source = .error (.onLine number (.invalidLiteral radix (String.ofList operand)))
  /-- Everything else is refused as no number. -/
  name : beginsNumber operand = false → assemble source = .error (.onLine number .originNotNumeric)

theorem readOperand_immediate_of_error {operand : List Char} {cause : LineError}
    (failed : readNumber operand = .error cause) : readOperand .immediate operand = .error cause := by
  rw [readOperand, readImmediate, failed, error_bind]

theorem ComesToOperand.readAsByte {source : String} {number : Nat} {operand : List Char} {offset : Nat}
    (comes : ComesToOperand source number .immediate operand offset) :
    ReadAsByte source number operand offset where
  fits := by
    intro radix v written low high
    have small : Text.IsInt64 v := by
      unfold Text.IsInt64 Text.int64Bound
      omega
    obtain ⟨byte, converted, value⟩ := byteOfInt?_of_range low high
    have read : readOperand .immediate operand = .ok (.byte byte) := by
      rw [readOperand, readImmediate, written.readNumber_eq, if_pos small, ok_bind]
      dsimp only
      rw [converted]
      rfl
    exact ⟨byte, value, read, fun bytes done => comes.getElem?_of_assemble read done⟩
  outOfRange := by
    intro radix v written small outside
    apply comes.assemble_of_error
    rw [readOperand, readImmediate, written.readNumber_eq, if_pos small, ok_bind]
    dsimp only
    rw [byteOfInt?, if_neg outside]
    rfl
  tooLong := by
    intro radix v written large
    apply comes.assemble_of_error
    apply readOperand_immediate_of_error
    rw [written.readNumber_eq, if_neg large]
  malformed := by
    intro begins malformed plain
    obtain ⟨radix, refused⟩ := readNumber_of_not_literal begins malformed plain
    exact ⟨radix, comes.assemble_of_error (readOperand_immediate_of_error refused)⟩
  name := by
    intro begins
    rw [readOperand, readImmediate, readNumber_of_not_begins begins]
    rfl

theorem ComesToOrigin.readAsOrigin {source : String} {number : Nat} {operand : List Char} {d : Draft}
    (comes : ComesToOrigin source number operand d) : ReadAsOrigin source number operand d where
  target := by
    intro radix v written small cause
    rw [comes.assemble_eq_onLine_iff, written.readNumber_eq, if_pos small]
    exact and_congr_right fun _ => eq_comm
  tooLong := by
    intro radix v written large
    rw [comes.assemble_eq_onLine_iff, written.readNumber_eq, if_neg large]
  malformed := by
    intro begins malformed plain
    obtain ⟨radix, refused⟩ := readNumber_of_not_literal begins malformed plain
    refine ⟨radix, ?_⟩
    rw [comes.assemble_eq_onLine_iff, refused]
  name := by
    intro begins
    rw [comes.assemble_eq_onLine_iff, readNumber_of_not_begins begins]

/-- Literals are read exactly: the operands that are numbers are the literals of 64-bit integers, besides
what has a sign behind its mark; bytes and origins limit their values; and no operand that has the name of
a label is a number. -/
theorem literals_read_exactly (source : String) (number : Nat) (operand : List Char) :
    (¬SignBehindMark operand → ∀ v, readNumber operand = .ok (some v) ↔
      ∃ radix, Literal radix operand v ∧ Text.IsInt64 v) ∧
    (∀ {offset}, ComesToOperand source number .immediate operand offset →
      ReadAsByte source number operand offset) ∧
    (∀ {d}, ComesToOrigin source number operand d → ReadAsOrigin source number operand d) ∧
    ∀ {label}, isLabelName (Text.upper label) = true → nameOf operand = nameOf label →
      readNumber operand = .ok none := by
  refine ⟨fun plain v => readNumber_eq_number_iff plain, ComesToOperand.readAsByte,
    ComesToOrigin.readAsOrigin, fun valid name => ?_⟩
  rw [isLabelName_upper] at valid
  exact readNumber_of_not_begins (not_begins_of_nameOf_eq name valid)

/-- A number that is no byte, and an origin before the end of the bytes. -/
theorem numbers_out_of_range :
    assemble "DB 0x12C" = .error (.onLine 1 (.valueOutOfRange 300)) ∧
    assemble "DB 1\nORG 0" = .error (.onLine 2 (.valueOutOfRange 0)) ∧
    readNumber "x0".toList = .ok none := by
  have hexadecimal : Literal .hexadecimal "0x12C".toList 300 :=
    .hexadecimal (.inl rfl) ((Text.readNat?_eq_some_iff (by decide)).mp (by decide))
  have zero : Literal .decimal "0".toList 0 :=
    .decimal ((Text.readInt?_eq_some_iff (by decide)).mp (by decide))
  have byte : ComesToOperand "DB 0x12C" 1 .immediate "0x12C".toList 0 :=
    @ComesToOperand.intro _ _ _ _ _ "DB 0x12C".toList {} ⟨[], [.immediate]⟩ [] []
      (@ComesTo.intro _ _ _ _ "DB 0x12C".toList {} ⟨Nat.le_refl 1, by decide, rfl⟩ (by decide) (by decide))
      (by decide) (by decide) (by simp) rfl
  have origin : ComesToOrigin "DB 1\nORG 0" 2 "0".toList { bytes := [1] } :=
    @ComesToOrigin.intro _ _ _ _ "ORG 0".toList
      (@ComesTo.intro _ _ _ _ "ORG 0".toList { bytes := [1] } ⟨Nat.le_succ 1, by decide, by decide⟩
        (by decide) (by decide))
      (by decide) (by decide)
  obtain ⟨-, asByte, -, -⟩ := literals_read_exactly "DB 0x12C" 1 "0x12C".toList
  obtain ⟨-, -, asOrigin, -⟩ := literals_read_exactly "DB 1\nORG 0" 2 "0".toList
  obtain ⟨-, -, -, named⟩ := literals_read_exactly "DB x0" 1 "x0".toList
  refine ⟨(asByte byte).outOfRange hexadecimal (by decide) (by decide), ?_, ?_⟩
  · exact ((asOrigin origin).target zero (by decide) _).mpr ⟨by decide, rfl⟩
  · exact named (by decide : isLabelName (Text.upper "X0".toList) = true) (by decide)

/-- A literal that is longer than 64 bits is no number, and a sign behind a mark is read. -/
theorem long_literal_refused :
    Literal .decimal "9223372036854775808".toList 9223372036854775808 ∧
    assemble "DB 9223372036854775808" =
      .error (.onLine 1 (.invalidLiteral .decimal "9223372036854775808")) ∧
    (∀ radix v, ¬Literal radix ['0', 'x', '-', '1'] v) ∧ assemble "DB 0x-1" = .ok [0xff] := by
  refine ⟨?_, by decide, ?_, by decide⟩
  · exact .decimal ((Text.readInt?_eq_some_iff (by decide)).mp (by decide))
  · rintro radix v (written | ⟨mark, written⟩ | ⟨mark, written⟩)
    · exact unmarked_of_signedDigits written 'x' ['-', '1'] rfl (by decide)
    · exact (written.head_ne (by decide)).2 rfl
    · exact absurd mark (by decide)

end Ls8.Assembly
