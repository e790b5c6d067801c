import Mathlib
import Ls8.Assembly.Image
import Ls8.Listing
import Ls8.Proofs.Basic
import Ls8.Proofs.Text.Lines
import Ls8.Proofs.Text.Numeral

/-! # Instructions written and read back

A statement that is spelled from words, with a blank after the first and commas between the others,
is cut into these words again. So the text of an instruction is read as its encoding, and the text
of a data byte as that byte. -/

namespace Ls8.Assembly

/-! ## Spelling -/

/-- A word of ASCII letters and digits. -/
structure IsWord (s : List Char) : Prop where
  filled : s ≠ []
  plain : ∀ c ∈ s, c.isAlphanum = true

theorem isWord_of_all {s : List Char} (filled : s ≠ []) (plain : s.all Char.isAlphanum = true) :
    IsWord s :=
  ⟨filled, List.all_eq_true.mp plain⟩

/-- A statement with a word and operands. -/
def spell (word : List Char) : List (List Char) → List Char
  | [] => word
  | operands => word ++ ' ' :: [','].intercalate operands

theorem isBlank_of_isAlphanum {c : Char} (plain : c.isAlphanum = true) :
    Text.isBlank c = false := by
  have code : c.toNat = c.val.toNat := rfl
  simp [Char.isAlphanum, Char.isAlpha, Char.isUpper, Char.isLower, Char.isDigit,
    UInt32.le_iff_toNat_le, Text.isBlank] at plain ⊢
  omega

theorem isOperandGap_of_isAlphanum {c : Char} (plain : c.isAlphanum = true) :
    isOperandGap c = false := by
  have visible := isBlank_of_isAlphanum plain
  have comma : c ≠ ',' := by
    rintro rfl
    contradiction
  simp [isOperandGap, visible, comma]

section

variable {word : List Char} {operands : List (List Char)}

/-- A spelled statement is cut into the words that it was spelled from. -/
theorem Statement.ofText_spell (first : IsWord word)
    (others : ∀ operand ∈ operands, IsWord operand) :
    Statement.ofText (spell word operands) = Statement.ofWords (nameOf word) operands := by
  have visible : ∀ c ∈ word, (!Text.isBlank c) = true := by
    intro c member
    rw [isBlank_of_isAlphanum (first.plain c member)]
    rfl
  have fields : Text.fields isOperandGap ([','].intercalate operands) = operands :=
    Text.fields_intercalate (by decide) (fun operand member => (others operand member).filled)
      fun operand member c inside =>
        isOperandGap_of_isAlphanum ((others operand member).plain c inside)
  cases operands with
  | nil =>
    rw [Statement.ofText, spell, List.takeWhile_eq_self_iff.mpr visible,
      List.dropWhile_eq_nil_iff.mpr visible]
    rfl
  | cons operand rest =>
    rw [Statement.ofText, spell, List.takeWhile_append_of_pos visible,
      List.dropWhile_append_of_pos visible, List.takeWhile_cons_of_neg (by decide),
      List.dropWhile_cons_of_neg (by decide), List.append_nil, Text.fields_cons (by decide), fields]
    exact List.cons_ne_nil operand rest

theorem mem_spell (first : IsWord word) (others : ∀ operand ∈ operands, IsWord operand) {c : Char}
    (member : c ∈ spell word operands) : c.isAlphanum = true ∨ c = ' ' ∨ c = ',' := by
  cases operands with
  | nil => exact .inl (first.plain c member)
  | cons operand rest =>
    rw [spell, List.mem_append, List.mem_cons] at member
    · rcases member with inWord | blank | joined
      · exact .inl (first.plain c inWord)
      · exact .inr (.inl blank)
      · obtain comma | ⟨other, among, inside⟩ := Text.mem_intercalate joined
        · exact .inr (.inr comma)
        · exact .inl ((others other among).plain c inside)
    · exact List.cons_ne_nil operand rest

theorem not_mem_spell (first : IsWord word) (others : ∀ operand ∈ operands, IsWord operand)
    {c : Char} (foreign : ¬(c.isAlphanum = true ∨ c = ' ' ∨ c = ',')) :
    c ∉ spell word operands :=
  fun member => foreign (mem_spell first others member)

theorem head?_spell (first : IsWord word) : (spell word operands).head? = word.head? := by
  cases operands with
  | nil => rfl
  | cons operand rest =>
    rw [spell, List.head?_append_of_ne_nil _ first.filled]
    exact List.cons_ne_nil operand rest

theorem isAlphanum_of_mem_head?_spell (first : IsWord word) {c : Char}
    (begins : c ∈ (spell word operands).head?) : c.isAlphanum = true := by
  rw [head?_spell first] at begins
  exact first.plain c (List.mem_of_head? begins)

theorem isAlphanum_of_mem_getLast?_spell (first : IsWord word)
    (others : ∀ operand ∈ operands, IsWord operand) {c : Char}
    (ends : c ∈ (spell word operands).getLast?) : c.isAlphanum = true := by
  cases operands with
  | nil => exact first.plain c (List.mem_of_getLast? ends)
  | cons operand rest =>
    obtain ⟨last, among, same⟩ := Text.getLast?_intercalate (List.cons_ne_nil operand rest)
      fun other member => (others other member).filled
    have joined : [','].intercalate (operand :: rest) ≠ [] := by
      intro empty
      rw [empty] at same
      exact (others last among).filled (List.getLast?_eq_none_iff.mp same.symm)
    rw [spell, ← List.singleton_append, ← List.append_assoc,
      List.getLast?_append_of_ne_nil _ joined, same] at ends
    · exact (others last among).plain c (List.mem_of_getLast? ends)
    · exact List.cons_ne_nil operand rest

theorem isLine_spell (first : IsWord word) (others : ∀ operand ∈ operands, IsWord operand) :
    Text.IsLine (spell word operands) where
  filled := by
    cases operands with
    | nil => exact first.filled
    | cons operand rest => exact List.append_ne_nil_of_left_ne_nil first.filled _
  unbroken := not_mem_spell first others (by decide)
  bare ends := by
    have plain := isAlphanum_of_mem_getLast?_spell first others ends
    contradiction

/-- A spelled statement is all of its line. -/
theorem Line.ofText_spell (first : IsWord word) (others : ∀ operand ∈ operands, IsWord operand) :
    Line.ofText (spell word operands) = ⟨none, some (spell word operands)⟩ := by
  have noted : ∀ c ∈ spell word operands, decide (c ≠ ';' ∧ c ≠ '#') = true := by
    intro c member
    refine decide_eq_true ⟨?_, ?_⟩
    · rintro rfl
      exact not_mem_spell first others (by decide) member
    · rintro rfl
      exact not_mem_spell first others (by decide) member
  have unlabelled : ':' ∉ spell word operands := not_mem_spell first others (by decide)
  have trimmed : Text.trim (spell word operands) = spell word operands :=
    Text.trim_eq_self
      (fun c begins => isBlank_of_isAlphanum (isAlphanum_of_mem_head?_spell first begins))
      (fun c ends => isBlank_of_isAlphanum (isAlphanum_of_mem_getLast?_spell first others ends))
  have filled : (spell word operands).isEmpty = false :=
    List.isEmpty_eq_false_iff.mpr (isLine_spell first others).filled
  rw [Line.ofText, List.takeWhile_eq_self_iff.mpr noted, trimmed]
  simp only [unlabelled, if_false, nonEmpty, filled, Bool.false_eq_true]

end

/-! ## Operands read back -/

/-- A register is read back from its name. -/
theorem readRegister_registerText (r : Register) :
    readRegister (registerText r).toList = .ok r := by
  have name : (registerText r).toList = 'R' :: Nat.toDigits 10 r.toByte.toNat := by
    rw [registerText, String.toList_append, Text.decimalByte, Nat.toList_repr]
    rfl
  have read : Text.readNat? 10 (Nat.toDigits 10 r.toByte.toNat) = some r.toByte.toNat :=
    Text.readNat?_toDigits (by decide) (by decide) _
  have number := Text.readBelow?_of_readNat? read r.toByte.toNat_lt
  rw [name]
  simp [readRegister, registerDigits?, number]

theorem toLower_of_isDigit {c : Char} (digit : c.isDigit = true) : c.toLower = c := by
  simp only [Char.isDigit, Bool.and_eq_true, decide_eq_true_eq] at digit
  rw [Char.toLower, dif_neg]
  rintro ⟨upper, -⟩
  have letter : 'A'.val ≤ '9'.val := UInt32.le_trans upper digit.2
  contradiction

/-- A numeral of decimal digits is read as a decimal number. -/
theorem readNumber_of_digits {operand : List Char} (filled : operand ≠ [])
    (digits : ∀ c ∈ operand, c.isDigit = true) :
    readNumber operand = readLiteral .decimal operand operand := by
  have lower : operand.map Char.toLower = operand := by
    refine (List.map_congr_left fun c member => ?_).trans (List.map_id operand)
    exact toLower_of_isDigit (digits c member)
  cases operand with
  | nil => contradiction
  | cons c rest =>
    have start : isDecimalStart c = true := by
      rw [isDecimalStart, digits c List.mem_cons_self]
      rfl
    rw [readNumber, lower]
    split
    · next mark =>
      have letter := digits 'x' (by rw [mark]; simp)
      contradiction
    · next mark =>
      have letter := digits 'b' (by rw [mark]; simp)
      contradiction
    · exact if_pos start

theorem readLiteral_of_readNat? {radix : Radix} {operand digits : List Char} {n : Nat}
    (read : Text.readNat? radix.base digits = some n) (bound : n < 0x8000000000000000) :
    readLiteral radix operand digits = .ok (some (n : Int)) := by
  rw [readLiteral, Text.readInt64?_of_readNat? read bound]

theorem byteOfInt?_toNat (b : UInt8) : byteOfInt? b.toNat = some b := by
  have bound := b.toNat_lt
  rw [byteOfInt?, if_pos ⟨by omega, by omega⟩, ofInt_toNat]

theorem readImmediate_of_readNumber {operand : List Char} {b : UInt8}
    (read : readNumber operand = .ok (some (b.toNat : Int))) :
    readImmediate operand = .ok (.byte b) := by
  simp only [readImmediate, read, ok_bind, byteOfInt?_toNat, pure_eq_ok]

/-- A byte is read back from its decimal numeral. -/
theorem readImmediate_decimalByte (b : UInt8) :
    readImmediate (Text.decimalByte b).toList = .ok (.byte b) := by
  refine readImmediate_of_readNumber ?_
  rw [Text.decimalByte, Nat.toList_repr, readNumber_of_digits Nat.toDigits_ne_nil
    fun c member => Nat.isDigit_of_mem_toDigits (by decide) (by decide) member]
  exact readLiteral_of_readNat? (Text.readNat?_toDigits (by decide) (by decide) _)
    (Nat.lt_trans b.toNat_lt (by decide))

theorem toLower_digitChar {digit : Nat} (small : digit < 16) :
    digit.digitChar.toLower = digit.digitChar := by
  have table : ∀ digit < 16, digit.digitChar.toLower = digit.digitChar := by decide
  exact table digit small

/-- A byte is read back from its two hexadecimal digits. -/
theorem readImmediate_hexByte (b : UInt8) :
    readImmediate ('0' :: 'x' :: (Text.hexByte b).toList) = .ok (.byte b) := by
  refine readImmediate_of_readNumber ?_
  have lower : (Text.hexByte b).toList.map Char.toLower = (Text.hexByte b).toList := by
    refine (List.map_congr_left fun c member => ?_).trans (List.map_id _)
    obtain ⟨digit, small, rfl⟩ := Text.exists_digitChar_of_mem_padded (by decide) member
    exact toLower_digitChar small
  rw [readNumber, List.map_cons, List.map_cons, lower]
  exact readLiteral_of_readNat? (Text.readNat?_padded (by decide) (by decide) _ _)
    (Nat.lt_trans b.toNat_lt (by decide))

/-! ## Statements read back -/

open Instruction (Operand)

/-- How an operand is read. -/
def kindOf : Operand Register → OperandKind
  | .register .. => .register
  | .immediate .. => .immediate

theorem map_kindOf_operandList (i : Instruction Register) :
    i.operandList.map kindOf = i.opcode.operands := by
  cases i <;> rfl

theorem readOperand_text (operand : Operand Register) :
    readOperand (kindOf operand) operand.text.toList = .ok (.byte operand.byte) := by
  cases operand with
  | register field r =>
    rw [Operand.text, kindOf, readOperand, readRegister_registerText]
    rfl
  | immediate field value => exact readImmediate_decimalByte value

theorem readOperands_text (operands : List (Operand Register)) :
    readOperands (operands.map kindOf) (operands.map (·.text.toList)) =
      .ok (operands.map fun operand => .byte operand.byte) := by
  induction operands with
  | nil => rfl
  | cons operand rest ih =>
    simp only [List.map_cons, readOperands, readOperand_text, ih, ok_bind, pure_eq_ok]

theorem isWord_decimalByte (b : UInt8) : IsWord (Text.decimalByte b).toList where
  filled := by
    rw [Text.decimalByte, Nat.toList_repr]
    exact Nat.toDigits_ne_nil
  plain c member := by
    rw [Text.decimalByte, Nat.toList_repr] at member
    have digit := Nat.isDigit_of_mem_toDigits (by decide) (by decide) member
    rw [Char.isAlphanum, digit, Bool.or_true]

theorem isWord_text (operand : Operand Register) : IsWord operand.text.toList := by
  cases operand with
  | register field r =>
    have name : (registerText r).toList = 'R' :: (Text.decimalByte r.toByte).toList := by
      rw [registerText, String.toList_append]
      rfl
    rw [Operand.text, name]
    refine ⟨List.cons_ne_nil _ _, ?_⟩
    exact List.forall_mem_cons.mpr ⟨by decide, (isWord_decimalByte r.toByte).plain⟩
  | immediate field value => exact isWord_decimalByte value

theorem isWord_mnemonic (op : Opcode) : IsWord op.mnemonic.toList := by
  refine isWord_of_all ?_ ?_
  · cases op <;> decide
  · cases op <;> decide

theorem toList_text (i : Instruction Register) :
    i.text.toList = spell i.opcode.mnemonic.toList (i.operandList.map (·.text.toList)) := by
  cases i <;>
    simp [Instruction.text, Instruction.operandList, spell, String.toList_append]

/-- The mnemonic of an operation is read as this operation. -/
theorem ofWords_mnemonic (op : Opcode) {operands : List (List Char)} {items : List Item}
    (count : operands.length = op.operands.length)
    (read : readOperands op.operands operands = .ok items) :
    Statement.ofWords (nameOf op.mnemonic.toList) operands =
      .ok (.data (.byte op.byte :: items)) := by
  have name : nameOf op.mnemonic.toList = op.mnemonic := by cases op <;> decide
  have origin : op.mnemonic ≠ "ORG" := by cases op <;> decide
  have data : ¬(op.mnemonic = "DB" ∨ op.mnemonic = "DATA") := by cases op <;> decide
  have found : Opcode.ofMnemonic? op.mnemonic = some op := by cases op <;> decide
  unfold Statement.ofWords
  rw [name, if_neg origin, if_neg data, found]
  simp only [count, ne_eq, not_true_eq_false, if_false, read, ok_bind, pure_eq_ok]

theorem isWord_operands (i : Instruction Register) :
    ∀ operand ∈ i.operandList.map (·.text.toList), IsWord operand := by
  intro operand member
  obtain ⟨source, -, rfl⟩ := List.mem_map.mp member
  exact isWord_text source

/-- The text of an instruction is read as its encoding. -/
theorem ofText_text (i : Instruction Register) :
    Statement.ofText i.text.toList = .ok (.data (i.encode.map .byte)) := by
  have count : (i.operandList.map (·.text.toList)).length = i.opcode.operands.length := by
    rw [List.length_map, i.length_operandList]
  have read := readOperands_text i.operandList
  rw [map_kindOf_operandList] at read
  rw [toList_text, Statement.ofText_spell (isWord_mnemonic i.opcode) (isWord_operands i),
    ofWords_mnemonic i.opcode count read, Instruction.encode, List.map_cons, List.map_map]
  rfl

theorem toList_dataText (b : UInt8) :
    (dataText b).toList = spell ['D', 'B'] ['0' :: 'x' :: (Text.hexByte b).toList] := by
  simp [dataText, spell, String.toList_append]

theorem isWord_hexByte (b : UInt8) : IsWord ('0' :: 'x' :: (Text.hexByte b).toList) := by
  have table : ∀ digit < 16, digit.digitChar.isAlphanum = true := by decide
  refine ⟨List.cons_ne_nil _ _, List.forall_mem_cons.mpr ⟨by decide, List.forall_mem_cons.mpr
    ⟨by decide, fun c member => ?_⟩⟩⟩
  obtain ⟨digit, small, rfl⟩ := Text.exists_digitChar_of_mem_padded (by decide) member
  exact table digit small

theorem isWord_db : IsWord ['D', 'B'] := isWord_of_all (by decide) (by decide)

/-- The text of a data byte is read as this byte. -/
theorem ofText_dataText (b : UInt8) :
    Statement.ofText (dataText b).toList = .ok (.data [.byte b]) := by
  have operands : ∀ operand ∈ ['0' :: 'x' :: (Text.hexByte b).toList], IsWord operand := by
    intro operand member
    obtain rfl := List.mem_singleton.mp member
    exact isWord_hexByte b
  have name : nameOf ['D', 'B'] = "DB" := by decide
  rw [toList_dataText, Statement.ofText_spell isWord_db operands, name]
  unfold Statement.ofWords
  rw [if_neg (by decide), if_pos (.inl rfl)]
  simp [readImmediate_hexByte]

end Ls8.Assembly
