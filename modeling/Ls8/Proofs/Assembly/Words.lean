import Ls8.Proofs.Assembly.LetterCase
import Ls8.Proofs.Assembly.Operands
import Ls8.Proofs.Text.Digits
import Ls8.Proofs.Text.Upper

/-! # Words, labels and registers in source texts

Words and labels are compared in upper case, and labels are checked there. So a word is taken for an
operation or a directive if it is the name in either case, and besides with a dotless i for an I and a
long s for an S; and a label is taken if it is an identifier of ASCII, and besides if it has characters
with such an upper-case form in it. A register is an R with a number below eight behind it, which may have
a plus and zeros in front. Whatever else stands in these places is refused, each with its own error. -/

namespace Ls8.Assembly

/-! ## Words -/

/-- The words that statements begin with. -/
def statementWords : List String := ["ORG", "DB", "DATA"] ++ Opcode.all.map Opcode.mnemonic

/-- A text spells a word: letter by letter it is the word in either case of ASCII, a dotless i standing
for an I and a long s for an S. -/
def Spells (text : List Char) (word : String) : Prop := text.map Text.folded = word.toList

instance (text : List Char) (word : String) : Decidable (Spells text word) :=
  inferInstanceAs (Decidable (_ = _))

/-- A text that spells a word is one that has it for its name. -/
theorem nameOf_eq_iff {text : List Char} {word : String} (known : word ∈ statementWords) :
    nameOf text = word ↔ Spells text word := by
  have table : ∀ word ∈ statementWords, word.toList.all (fun c => c.toNat < 128) = true ∧
      Text.ligatures.all (fun pair => !decide (pair <:+: word.toList)) = true := by decide +kernel
  obtain ⟨ascii, plain⟩ := table word known
  rw [Spells, ← Text.upper_eq_iff (by simpa using ascii) (by simpa using plain), nameOf]
  constructor
  · rintro rfl
    exact String.toList_ofList.symm
  · intro same
    rw [same, String.ofList_toList]

theorem ofMnemonic?_mnemonic (op : Opcode) : Opcode.ofMnemonic? op.mnemonic = some op := by
  cases op <;> decide

theorem mnemonic_ne_directive (op : Opcode) :
    op.mnemonic ≠ "ORG" ∧ ¬(op.mnemonic = "DB" ∨ op.mnemonic = "DATA") := by
  cases op <;> decide

theorem mnemonic_mem_statementWords (op : Opcode) : op.mnemonic ∈ statementWords := by
  cases op <;> decide

/-- A name is in upper case already when operations are looked for. -/
theorem spells_of_ofMnemonic? {text : List Char} {op : Opcode}
    (found : Opcode.ofMnemonic? (nameOf text) = some op) : Spells text op.mnemonic := by
  have same := List.find?_some found
  rw [nameOf, String.toList_ofList, Text.map_toUpper_upper, beq_iff_eq] at same
  rw [← nameOf_eq_iff (mnemonic_mem_statementWords op), nameOf, ← same, String.ofList_toList]

theorem ofWords_mnemonic_eq_ok {op : Opcode} {operands : List (List Char)} {statement : Statement}
    (read : Statement.ofWords op.mnemonic operands = .ok statement) :
    ∃ items, statement = .data (.byte op.byte :: items) := by
  obtain ⟨origin, data⟩ := mnemonic_ne_directive op
  unfold Statement.ofWords at read
  rw [if_neg origin, if_neg data, ofMnemonic?_mnemonic] at read
  dsimp only at read
  split at read
  · contradiction
  · obtain ⟨items, -, same⟩ := bind_eq_ok_iff.mp read
    exact ⟨items, (Except.ok.inj same).symm⟩

theorem ofWords_eq_unknownMnemonic_iff {text : List Char} {operands : List (List Char)} {word : String} :
    Statement.ofWords (nameOf text) operands = .error (.unknownMnemonic word) ↔
      word = nameOf text ∧ ∀ known ∈ statementWords, ¬Spells text known := by
  constructor
  · intro failed
    cases statementError_of_ofWords failed with
    | unknown missing plain =>
      refine ⟨rfl, fun known listed spelled => ?_⟩
      rw [← nameOf_eq_iff listed] at spelled
      obtain directive | operation := List.mem_append.mp listed
      · exact plain (spelled ▸ directive)
      · obtain ⟨op, -, rfl⟩ := List.mem_map.mp operation
        rw [spelled, ofMnemonic?_mnemonic] at missing
        contradiction
    | operand wrong => cases wrong
  · rintro ⟨rfl, unknown⟩
    have different : ∀ known ∈ statementWords, nameOf text ≠ known := fun known listed =>
      mt (nameOf_eq_iff listed).mp (unknown known listed)
    have missing : Opcode.ofMnemonic? (nameOf text) = none := by
      rw [Option.eq_none_iff_forall_ne_some]
      exact fun op found => unknown _ (mnemonic_mem_statementWords op) (spells_of_ofMnemonic? found)
    have notData : ¬(nameOf text = "DB" ∨ nameOf text = "DATA") :=
      not_or.mpr ⟨different _ (by decide), different _ (by decide)⟩
    unfold Statement.ofWords
    rw [if_neg (different _ (by decide)), if_neg notData, missing]
    rfl

/-! ## Labels -/

/-- A text spells a label: it is an identifier of ASCII, or becomes one in upper case. -/
def spellsLabel : List Char → Bool
  | [] => false
  | c :: rest =>
    (isLabelStart c || Text.folds c) && rest.all fun d => isLabelRest d || Text.folds d

theorem ascii_of_isLabelRest {c : Char} (part : isLabelRest c = true) : c.toNat < 128 := by
  delta isLabelRest Char.isAlphanum Char.isAlpha Char.isUpper Char.isLower Char.isDigit at part
  simp only [Bool.or_eq_true, Bool.and_eq_true, decide_eq_true_eq, beq_iff_eq, UInt32.le_iff_toNat_le,
    ge_iff_le] at part
  have code : c.toNat = c.val.toNat := rfl
  have largeZ : 'Z'.val.toNat = 90 := rfl
  have smallZ : 'z'.val.toNat = 122 := rfl
  have nine : '9'.val.toNat = 57 := rfl
  obtain letter | rfl := part
  · omega
  · decide

theorem isLabelRest_of_isLabelStart {c : Char} (start : isLabelStart c = true) :
    isLabelRest c = true := by
  rw [isLabelStart, Bool.or_eq_true] at start
  rw [isLabelRest, Char.isAlphanum, Bool.or_eq_true, Bool.or_eq_true]
  exact start.imp .inl id

theorem all_isLabelRest_upper (s : List Char) :
    (Text.upper s).all isLabelRest = s.all fun d => isLabelRest d || Text.folds d := by
  have form (c : Char) : (Text.upperChar c).all isLabelRest = (isLabelRest c || Text.folds c) :=
    @Text.test_upperChar (·.all isLabelRest) isLabelRest (by decide +kernel) (by decide)
      (fun s all d member => ascii_of_isLabelRest (List.all_eq_true.mp all d member))
      (fun c => ascii_of_isLabelRest) c
  rw [Text.upper, List.all_flatMap]
  exact congrArg s.all (funext form)

theorem isLabelName_eq_true_iff {s : List Char} :
    isLabelName s = true ↔
      (∃ c rest, s = c :: rest ∧ isLabelStart c = true) ∧ s.all isLabelRest = true := by
  cases s with
  | nil => simp [isLabelName]
  | cons c rest => simp [isLabelName]

theorem isLabelName_append {s t : List Char} (filled : s ≠ []) :
    isLabelName (s ++ t) = (isLabelName s && t.all isLabelRest) := by
  cases s with
  | nil => contradiction
  | cons c rest =>
    rw [List.cons_append, isLabelName, isLabelName, ← List.cons_append, List.all_append, Bool.and_assoc]

theorem isLabelName_upper (label : List Char) : isLabelName (Text.upper label) = spellsLabel label := by
  have form (c : Char) : isLabelName (Text.upperChar c) = (isLabelStart c || Text.folds c) :=
    Text.test_upperChar (by decide +kernel) (by decide)
      (fun s name d member =>
        ascii_of_isLabelRest (List.all_eq_true.mp (isLabelName_eq_true_iff.mp name).2 d member))
      (fun c start => ascii_of_isLabelRest (isLabelRest_of_isLabelStart start)) c
  cases label with
  | nil => rfl
  | cons c rest =>
    rw [Text.upper, List.flatMap_cons, isLabelName_append (Text.upperChar_ne_nil c), form, spellsLabel,
      ← Text.upper, all_isLabelRest_upper]

theorem define_eq_invalidLabel_iff {d : Draft} {label : List Char} {name : String} :
    d.define label = .error (.invalidLabel name) ↔ name = nameOf label ∧ spellsLabel label = false := by
  rw [Draft.define, isLabelName_upper]
  split
  · next invalid => simp [invalid, eq_comm]
  · next valid =>
    refine iff_of_false ?_ fun refused => valid refused.2
    split
    · simp
    · split
      · simp
      · simp

/-- Only the label of a line is refused as a label. -/
theorem addRest_ne_invalidLabel {d : Draft} {number : Nat} {statement : Option (List Char)}
    {name : String} : d.addRest number statement ≠ .error (.invalidLabel name) := by
  cases statement with
  | none => simp [Draft.addRest]
  | some text =>
    intro failed
    obtain unread | ⟨read, -, refused⟩ := bind_eq_error_iff.mp failed
    · rw [Statement.ofText_eq] at unread
      cases statementError_of_ofWords unread with
      | operand wrong => cases wrong
    · obtain ⟨target, impossible⟩ := addStatement_eq_error refused
      contradiction

theorem addLine_eq_invalidLabel_iff {d : Draft} {number : Nat} {text label : List Char} {name : String}
    (own : (Line.ofText text).label = some label) :
    d.addLine number text = .error (.invalidLabel name) ↔
      name = nameOf label ∧ spellsLabel label = false := by
  rw [Draft.addLine_eq, own, Draft.addLabel, ← define_eq_invalidLabel_iff]
  constructor
  · intro failed
    obtain refused | ⟨labelled, -, impossible⟩ := bind_eq_error_iff.mp failed
    · exact refused
    · exact absurd impossible addRest_ne_invalidLabel
  · intro refused
    rw [refused, error_bind]

/-! ## Registers -/

/-- A text spells a register: the letter in either case and the digit of the register, with a plus and
zeros allowed between them. -/
inductive SpellsRegister (r : Register) : List Char → Prop
  | intro {letter : Char} {sign : List Char} (large : letter = 'R' ∨ letter = 'r')
      (plus : sign = [] ∨ sign = ['+']) (zeros : Nat) :
    SpellsRegister r (letter :: (sign ++ (List.replicate zeros '0' ++ [r.val.digitChar])))

theorem registerDigits?_eq_some_iff {operand digits : List Char} :
    registerDigits? operand = some digits ↔
      ∃ letter, (letter = 'R' ∨ letter = 'r') ∧ operand = letter :: digits := by
  cases operand with
  | nil => simp [registerDigits?]
  | cons c rest => simp [registerDigits?_cons, and_comm]

/-- Below the bound of a byte, the registers are the numbers that they have. -/
theorem ofByte?_ofNat_eq_some_iff {n : Nat} (small : n < 256) {r : Register} :
    Register.ofByte? (UInt8.ofNat n) = some r ↔ n = r.val := by
  rw [Register.ofByte?_eq_some_iff, ← UInt8.toNat_inj, Register.toNat_toByte,
    UInt8.toNat_ofNat_of_lt' small]

theorem readRegister_eq_ok_iff {operand : List Char} {r : Register} :
    readRegister operand = .ok r ↔ SpellsRegister r operand := by
  have found : readRegister operand = .ok r ↔ ∃ digits, registerDigits? operand = some digits ∧
      ∃ n, Text.readBelow? 256 digits = some n ∧ Register.ofByte? (UInt8.ofNat n) = some r := by
    rw [readRegister]
    simp only [Option.bind_eq_bind, ← Option.bind_eq_some_iff]
    split
    · next same => rw [same, Except.ok.injEq, Option.some.injEq]
    · next none => simp [none]
  have digit : r.val < 10 := Nat.lt_trans r.isLt (by decide)
  have byte : r.val < 256 := Nat.lt_trans r.isLt (by decide)
  rw [found]
  constructor
  · rintro ⟨digits, letter, n, number, named⟩
    obtain ⟨letter, large, rfl⟩ := registerDigits?_eq_some_iff.mp letter
    obtain ⟨small, written⟩ := Text.readBelow?_eq_some_iff.mp number
    obtain rfl := (ofByte?_ofNat_eq_some_iff small).mp named
    obtain unsigned | ⟨rest, rfl, unsigned⟩ := written
    · obtain ⟨zeros, rfl⟩ := (Text.digits_ten_iff_of_lt digit).mp unsigned
      exact .intro large (.inl rfl) zeros
    · obtain ⟨zeros, rfl⟩ := (Text.digits_ten_iff_of_lt digit).mp unsigned
      exact .intro large (.inr rfl) zeros
  · rintro @⟨letter, sign, large, plus, zeros⟩
    have unsigned := (Text.digits_ten_iff_of_lt digit).mpr ⟨zeros, rfl⟩
    refine ⟨_, registerDigits?_eq_some_iff.mpr ⟨letter, large, rfl⟩, r.val,
      Text.readBelow?_eq_some_iff.mpr ⟨byte, ?_⟩, (ofByte?_ofNat_eq_some_iff byte).mpr rfl⟩
    obtain rfl | rfl := plus
    · exact .inl unsigned
    · exact .inr ⟨_, rfl, unsigned⟩

instance (r : Register) (operand : List Char) : Decidable (SpellsRegister r operand) :=
  decidable_of_iff _ readRegister_eq_ok_iff

/-- A register operand is refused if it spells no register, and the error quotes it. -/
theorem readOperand_register_eq_error_iff {operand : List Char} {cause : LineError} :
    readOperand .register operand = .error cause ↔
      cause = .invalidRegister (String.ofList operand) ∧ ∀ r, ¬SpellsRegister r operand := by
  cases read : readRegister operand with
  | ok r =>
    have spelled := readRegister_eq_ok_iff.mp read
    refine iff_of_false ?_ fun refused => refused.2 r spelled
    rw [readOperand, read]
    simp
  | error wrong =>
    have refused : readOperand .register operand = .error wrong := by
      rw [readOperand, read]
      rfl
    have none : ∀ r, ¬SpellsRegister r operand := by
      intro r spelled
      rw [readRegister_eq_ok_iff.mpr spelled] at read
      contradiction
    cases operandError_of_readOperand refused with
    | register =>
      rw [refused]
      simp [none, eq_comm]

/-! ## Source texts -/

section

variable {source : String} {number : Nat}

/-- An operation that a statement begins with is in the image. -/
theorem ComesTo.getElem?_of_spells {statement : List Char} {d : Draft}
    (comes : ComesTo source number statement d) {op : Opcode}
    (spelled : Spells (Statement.word statement) op.mnemonic) {bytes : List UInt8}
    (done : assemble source = .ok bytes) : bytes[d.bytes.length]? = some op.byte := by
  obtain ⟨read, written⟩ := comes.exists_ofText done
  have word := (nameOf_eq_iff (mnemonic_mem_statementWords op)).mpr spelled
  have own := written
  rw [Statement.ofText_eq, word] at own
  obtain ⟨items, rfl⟩ := ofWords_mnemonic_eq_ok own
  have first : (Item.byte op.byte :: items)[0]? = some (.byte op.byte) := rfl
  exact comes.getElem?_of_assemble done written first

theorem ComesTo.unknownMnemonic_iff {statement : List Char} {d : Draft}
    (comes : ComesTo source number statement d) {word : String} :
    assemble source = .error (.onLine number (.unknownMnemonic word)) ↔
      word = nameOf (Statement.word statement) ∧
        ∀ known ∈ statementWords, ¬Spells (Statement.word statement) known := by
  rw [comes.assemble_eq_onLine_iff, Statement.ofText_eq, ← ofWords_eq_unknownMnemonic_iff]
  constructor
  · intro failed
    obtain unread | ⟨read, -, refused⟩ := bind_eq_error_iff.mp failed
    · exact unread
    · obtain ⟨target, impossible⟩ := addStatement_eq_error refused
      contradiction
  · intro unread
    rw [unread, error_bind]

theorem ComesToOperand.invalidRegister_iff {operand : List Char} {offset : Nat}
    (comes : ComesToOperand source number .register operand offset) :
    assemble source = .error (.onLine number (.invalidRegister (String.ofList operand))) ↔
      ∀ r, ¬SpellsRegister r operand := by
  constructor
  · intro failed
    obtain ⟨kind, other, refused⟩ := comes.exists_readOperand_eq_error failed
    have same := operandError_of_readOperand refused
    generalize quoted : LineError.invalidRegister (String.ofList operand) = cause at same refused
    cases same with
    | register =>
      obtain rfl := String.ofList_injective (LineError.invalidRegister.inj quoted)
      exact (readOperand_register_eq_error_iff.mp refused).2
    | literal => contradiction
    | range => contradiction
  · intro none
    exact comes.assemble_of_error (readOperand_register_eq_error_iff.mpr ⟨rfl, none⟩)

/-- What is accepted in front of a colon, as the word of a statement and as a register operand, when reading
comes to it: exactly what spells a label, a word or a register. An operation and a register have their
bytes in the image then; everything else is the error of the text. -/
theorem accepted_iff_spelled (source : String) (number : Nat) :
    (∀ {text label : List Char} {d : Draft}, Reaches source number text d →
      (Line.ofText text).label = some label →
      ∀ name, assemble source = .error (.onLine number (.invalidLabel name)) ↔
        name = nameOf label ∧ spellsLabel label = false) ∧
    (∀ {statement : List Char} {d : Draft}, ComesTo source number statement d →
      (∀ word, assemble source = .error (.onLine number (.unknownMnemonic word)) ↔
        word = nameOf (Statement.word statement) ∧
          ∀ known ∈ statementWords, ¬Spells (Statement.word statement) known) ∧
      ∀ op : Opcode, Spells (Statement.word statement) op.mnemonic →
        ∀ bytes, assemble source = .ok bytes → bytes[d.bytes.length]? = some op.byte) ∧
    (∀ {operand : List Char} {offset : Nat}, ComesToOperand source number .register operand offset →
      (assemble source = .error (.onLine number (.invalidRegister (String.ofList operand))) ↔
        ∀ r, ¬SpellsRegister r operand) ∧
      ∀ r, SpellsRegister r operand →
        ∀ bytes, assemble source = .ok bytes → bytes[offset]? = some r.toByte) := by
  refine ⟨fun reached own name => ?_, fun comes => ⟨fun word => comes.unknownMnemonic_iff, ?_⟩,
    fun comes => ⟨comes.invalidRegister_iff, ?_⟩⟩
  · rw [reached.assemble_eq_onLine_iff]
    exact addLine_eq_invalidLabel_iff own
  · intro op spelled bytes done
    exact comes.getElem?_of_spells spelled done
  · intro r spelled bytes done
    refine comes.getElem?_of_assemble ?_ done
    rw [readOperand, readRegister_eq_ok_iff.mpr spelled]
    rfl

/-- A label and a word that are accepted, and a register that is not. -/
theorem missing_register_refused :
    assemble "L: PRN R8" ≠ .error (.onLine 1 (.invalidLabel "L")) ∧
    assemble "L: PRN R8" ≠ .error (.onLine 1 (.unknownMnemonic "PRN")) ∧
    assemble "L: PRN R8" = .error (.onLine 1 (.invalidRegister "R8")) := by
  have line : Line.ofText "L: PRN R8".toList = ⟨some ['L'], some "PRN R8".toList⟩ := by decide
  have reached : Reaches "L: PRN R8" 1 "L: PRN R8".toList {} := ⟨Nat.le_refl 1, by decide, rfl⟩
  have comes : ComesTo "L: PRN R8" 1 "PRN R8".toList { labels := [("L", 0)] } :=
    ⟨reached, by rw [line]; decide, by rw [line]⟩
  have operand : ComesToOperand "L: PRN R8" 1 .register "R8".toList 1 :=
    @ComesToOperand.intro _ _ _ _ _ _ _ ⟨[0x47], [.register]⟩ [] [] comes (by decide) (by decide)
      (by simp) rfl
  obtain ⟨labels, words, registers⟩ := accepted_iff_spelled "L: PRN R8" 1
  have label : (Line.ofText "L: PRN R8".toList).label = some ['L'] := by rw [line]
  refine ⟨fun refused => ?_, fun refused => ?_, ?_⟩
  · have spelled := ((labels reached label "L").mp refused).2
    contradiction
  · have unspelled := (((words comes).1 "PRN").mp refused).2 "PRN" (by decide)
    exact unspelled (by decide)
  · exact (registers operand).1.mpr (by decide)

/-- A register with more than a digit, a word with a long s and a label with a sharp s. -/
theorem undocumented_spellings_accepted :
    assemble "PRN R+7" = .ok [0x47, 7] ∧ assemble "PRN R007" = .ok [0x47, 7] ∧
    (∀ known ∈ statementWords, "PUſH".toList.map Char.toUpper ≠ known.toList.map Char.toUpper) ∧
    assemble "PUſH R0" = .ok [0x45, 0] ∧
    isLabelName "ß".toList = false ∧ assemble "ß: HLT" = .ok [1] := by
  decide +kernel

end

end Ls8.Assembly
