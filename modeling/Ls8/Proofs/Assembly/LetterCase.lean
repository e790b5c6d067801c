import Ls8.Proofs.Assembly.Errors
import Ls8.Proofs.Text.LetterCase

/-! # Letter case in source texts

Letters may stand in either case anywhere in a source text. Labels and words are compared in upper case,
registers and the marks of radixes are read in both cases, and everything else that the assembler looks
for is no letter. So a text in lower case is assembled as the text is; only the text that an error quotes
is in lower case then. -/

namespace Ls8.Assembly

/-! ## Errors -/

/-- The quoted text of an error in lower case. -/
def lowerQuote (quote : String) : String := String.ofList (Text.lower quote.toList)

/-- An error on a line with what it quotes in lower case. -/
def LineError.lower : LineError → LineError
  | invalidLabel name => invalidLabel (lowerQuote name)
  | labelPastEnd => labelPastEnd
  | invalidLiteral radix operand => invalidLiteral radix (lowerQuote operand)
  | originNotNumeric => originNotNumeric
  | unknownMnemonic word => unknownMnemonic (lowerQuote word)
  | invalidRegister operand => invalidRegister (lowerQuote operand)
  | operandCount expected found => operandCount expected found
  | duplicateLabel name => duplicateLabel (lowerQuote name)
  | valueOutOfRange value => valueOutOfRange value

/-- An error with what it quotes in lower case. -/
def Error.lower : Error → Error
  | onLine number cause => onLine number cause.lower
  | undefinedLabel number name => undefinedLabel number (lowerQuote name)
  | programTooLarge size => programTooLarge size

theorem lowerQuote_ofList_lower (s : List Char) :
    lowerQuote (String.ofList (Text.lower s)) = lowerQuote (String.ofList s) := by
  rw [lowerQuote, lowerQuote, String.toList_ofList, String.toList_ofList, Text.lower_lower]

section Same

variable {ε ε' α β : Type}

/-- Computations agree up to a view of their errors if they have the same result or errors of the same
view. -/
theorem mapError_eq_mapError_iff {f : ε → ε'} {x y : Except ε α} :
    x.mapError f = y.mapError f ↔
      (∃ a, x = .ok a ∧ y = .ok a) ∨ ∃ e e', x = .error e ∧ y = .error e' ∧ f e = f e' := by
  cases x with
  | error e =>
    cases y with
    | error e' => simp [Except.mapError]
    | ok b => simp [Except.mapError]
  | ok a =>
    cases y with
    | error e' => simp [Except.mapError]
    | ok b => simp [Except.mapError, eq_comm]

/-- Two computations on a line have the same result, or errors that differ only in the letter case of
what they quote. -/
def SameUpToCase (x y : Except LineError α) : Prop :=
  x.mapError LineError.lower = y.mapError LineError.lower

theorem SameUpToCase.of_eq {x y : Except LineError α} (same : x = y) : SameUpToCase x y :=
  congrArg _ same

theorem SameUpToCase.bind {x y : Except LineError α} {f g : α → Except LineError β}
    (first : SameUpToCase x y) (second : ∀ a, SameUpToCase (f a) (g a)) :
    SameUpToCase (x >>= f) (y >>= g) := by
  obtain ⟨a, rfl, rfl⟩ | ⟨e, e', rfl, rfl, same⟩ := mapError_eq_mapError_iff.mp first
  · exact second a
  · exact congrArg Except.error same

theorem SameUpToCase.map {x y : Except LineError α} (same : SameUpToCase x y) (f : α → β) :
    SameUpToCase (f <$> x) (f <$> y) := by
  rw [map_eq_pure_bind, map_eq_pure_bind]
  exact same.bind fun _ => .of_eq rfl

end Same

/-! ## Operands -/

@[simp] theorem nameOf_lower (s : List Char) : nameOf (Text.lower s) = nameOf s := by
  rw [nameOf, Text.upper_lower, nameOf]

theorem readLiteral_lower (radix : Radix) (operand : List Char) {digits written : List Char}
    (same : Text.readInt64? radix.base digits = Text.readInt64? radix.base written) :
    SameUpToCase (readLiteral radix (Text.lower operand) digits)
      (readLiteral radix operand written) := by
  unfold readLiteral
  rw [same]
  split
  · exact .of_eq rfl
  · exact congrArg (fun quote => Except.error (LineError.invalidLiteral radix quote))
      (lowerQuote_ofList_lower operand)

theorem isDecimalStart_toLower (c : Char) : isDecimalStart c.toLower = isDecimalStart c :=
  Text.eq_of_capitals (by decide) c

theorem readNumber_lower (operand : List Char) :
    SameUpToCase (readNumber (Text.lower operand)) (readNumber operand) := by
  -- The marks and the digits behind them are looked for in lower case anyway.
  have marked : (Text.lower operand).map Char.toLower = operand.map Char.toLower :=
    Text.lower_lower operand
  unfold readNumber
  rw [marked]
  split
  · exact readLiteral_lower .hexadecimal operand rfl
  · exact readLiteral_lower .binary operand rfl
  · cases operand with
    | nil => exact .of_eq rfl
    | cons c rest =>
      rw [Text.lower_cons]
      dsimp only
      rw [isDecimalStart_toLower, ← Text.lower_cons]
      split
      · exact readLiteral_lower .decimal (c :: rest) (Text.readInt64?_lower 10 (c :: rest))
      · exact .of_eq rfl

theorem readImmediate_lower (operand : List Char) :
    SameUpToCase (readImmediate (Text.lower operand)) (readImmediate operand) := by
  unfold readImmediate
  rw [nameOf_lower]
  exact (readNumber_lower operand).bind fun _ => .of_eq rfl

theorem registerDigits?_cons (c : Char) (rest : List Char) :
    registerDigits? (c :: rest) = if c = 'R' ∨ c = 'r' then some rest else none := by
  by_cases large : c = 'R'
  · rw [if_pos (.inl large), large, registerDigits?]
  · by_cases small : c = 'r'
    · rw [if_pos (.inr small), small, registerDigits?]
    · simp [registerDigits?, large, small]

theorem registerDigits?_lower (operand : List Char) :
    registerDigits? (Text.lower operand) = (registerDigits? operand).map Text.lower := by
  cases operand with
  | nil => rfl
  | cons c rest =>
    have letter : decide (c.toLower = 'R' ∨ c.toLower = 'r') = decide (c = 'R' ∨ c = 'r') :=
      @Text.eq_of_capitals _ (fun c => decide (c = 'R' ∨ c = 'r')) (by decide) c
    rw [Text.lower_cons, registerDigits?_cons, registerDigits?_cons]
    simp only [decide_eq_decide.mp letter]
    split
    · rfl
    · rfl

theorem readRegister_lower (operand : List Char) :
    SameUpToCase (readRegister (Text.lower operand)) (readRegister operand) := by
  unfold readRegister
  rw [registerDigits?_lower]
  cases registerDigits? operand with
  | none =>
    exact congrArg (fun quote => Except.error (LineError.invalidRegister quote))
      (lowerQuote_ofList_lower operand)
  | some digits =>
    simp only [Option.map_some, Option.bind_eq_bind, Option.bind_some, Text.readBelow?_lower]
    split
    · exact .of_eq rfl
    · exact congrArg (fun quote => Except.error (LineError.invalidRegister quote))
        (lowerQuote_ofList_lower operand)

theorem readOperand_lower (kind : OperandKind) (operand : List Char) :
    SameUpToCase (readOperand kind (Text.lower operand)) (readOperand kind operand) := by
  cases kind with
  | register => exact (readRegister_lower operand).map _
  | immediate => exact readImmediate_lower operand

theorem readOperands_lower (kinds : List OperandKind) (operands : List (List Char)) :
    SameUpToCase (readOperands kinds (operands.map Text.lower)) (readOperands kinds operands) := by
  induction kinds generalizing operands with
  | nil => exact .of_eq rfl
  | cons kind kinds ih =>
    cases operands with
    | nil => exact .of_eq rfl
    | cons operand rest =>
      exact (readOperand_lower kind operand).bind fun _ => (ih rest).bind fun _ => .of_eq rfl

theorem mapM_readImmediate_lower (operands : List (List Char)) :
    SameUpToCase ((operands.map Text.lower).mapM readImmediate) (operands.mapM readImmediate) := by
  induction operands with
  | nil => exact .of_eq rfl
  | cons operand rest ih =>
    rw [List.map_cons, List.mapM_cons, List.mapM_cons]
    exact (readImmediate_lower operand).bind fun _ => ih.bind fun _ => .of_eq rfl

/-! ## Statements and lines -/

theorem ofWords_lower (word : String) (operands : List (List Char)) :
    SameUpToCase (Statement.ofWords word (operands.map Text.lower))
      (Statement.ofWords word operands) := by
  unfold Statement.ofWords
  by_cases origin : word = "ORG"
  · rw [if_pos origin, if_pos origin]
    rcases operands with - | ⟨operand, - | ⟨next, rest⟩⟩
    · exact .of_eq rfl
    · exact (readNumber_lower operand).bind fun _ => .of_eq rfl
    · rw [List.length_map]
      exact .of_eq rfl
  · rw [if_neg origin, if_neg origin]
    by_cases data : word = "DB" ∨ word = "DATA"
    · rw [if_pos data, if_pos data]
      cases operands with
      | nil => exact .of_eq rfl
      | cons operand rest =>
        exact (mapM_readImmediate_lower (operand :: rest)).bind fun _ => .of_eq rfl
    · rw [if_neg data, if_neg data, List.length_map]
      cases Opcode.ofMnemonic? word with
      | none => exact .of_eq rfl
      | some op =>
        dsimp only
        split
        · exact .of_eq rfl
        · exact (readOperands_lower op.operands operands).bind fun _ => .of_eq rfl

theorem isVisible_toLower (c : Char) : (!Text.isBlank c.toLower) = !Text.isBlank c := by
  rw [Text.isBlank_toLower]

theorem ofText_lower (text : List Char) :
    SameUpToCase (Statement.ofText (Text.lower text)) (Statement.ofText text) := by
  have gap : ∀ c : Char, isOperandGap c.toLower = isOperandGap c := Text.eq_of_capitals (by decide)
  unfold Statement.ofText
  rw [Text.takeWhile_lower isVisible_toLower, Text.dropWhile_lower isVisible_toLower, nameOf_lower,
    Text.fields_lower gap]
  exact ofWords_lower _ _

theorem nonEmpty_lower (s : List Char) : nonEmpty (Text.lower s) = (nonEmpty s).map Text.lower := by
  cases s <;> rfl

theorem mem_lower_iff {mark : Char} (plain : mark ∉ Text.capitals ∧ mark ∉ Text.lower Text.capitals)
    (s : List Char) : mark ∈ Text.lower s ↔ mark ∈ s := by
  rw [Text.lower, List.mem_map]
  constructor
  · rintro ⟨c, member, same⟩
    rwa [← (Text.toLower_eq_iff plain c).mp same]
  · intro member
    exact ⟨mark, member, (Text.toLower_eq_iff plain mark).mpr rfl⟩

/-- A line is cut at marks that are no letters. -/
theorem line_ofText_lower (text : List Char) :
    Line.ofText (Text.lower text) =
      ⟨(Line.ofText text).label.map Text.lower, (Line.ofText text).statement.map Text.lower⟩ := by
  have code (s : List Char) : (Text.lower s).takeWhile (fun c => c ≠ ';' ∧ c ≠ '#') =
      Text.lower (s.takeWhile fun c => c ≠ ';' ∧ c ≠ '#') :=
    Text.takeWhile_lower (Text.eq_of_capitals (by decide)) s
  have label (s : List Char) : (Text.lower s).takeWhile (· ≠ ':') = Text.lower (s.takeWhile (· ≠ ':')) :=
    Text.takeWhile_lower (Text.eq_of_capitals (by decide)) s
  have rest (s : List Char) : (Text.lower s).dropWhile (· ≠ ':') = Text.lower (s.dropWhile (· ≠ ':')) :=
    Text.dropWhile_lower (Text.eq_of_capitals (by decide)) s
  have colon (s : List Char) : ':' ∈ Text.lower s ↔ ':' ∈ s := mem_lower_iff (by decide) s
  have drop (s : List Char) : (Text.lower s).drop 1 = Text.lower (s.drop 1) := List.map_drop.symm
  unfold Line.ofText
  simp only [code, Text.trim_lower, colon, label, rest, drop, nonEmpty_lower]
  split
  · rfl
  · rfl

namespace Draft

theorem addLabel_lower (d : Draft) (label : Option (List Char)) :
    d.addLabel (label.map Text.lower) = d.addLabel label := by
  cases label with
  | none => rfl
  | some label =>
    simp only [addLabel, Option.map_some, define, Text.upper_lower, nameOf_lower]

theorem addRest_lower (d : Draft) (number : Nat) (statement : Option (List Char)) :
    SameUpToCase (d.addRest number (statement.map Text.lower)) (d.addRest number statement) := by
  cases statement with
  | none => exact .of_eq rfl
  | some text => exact (ofText_lower text).bind fun _ => .of_eq rfl

theorem addLine_lower (d : Draft) (number : Nat) (text : List Char) :
    SameUpToCase (d.addLine number (Text.lower text)) (d.addLine number text) := by
  rw [addLine_eq, addLine_eq, line_ofText_lower]
  dsimp only
  rw [addLabel_lower]
  exact SameUpToCase.bind (.of_eq rfl) fun labelled => addRest_lower labelled number _

/-- The same lines are read, to the same draft, and the first error is on the same line. -/
theorem addLines_lower (d : Draft) (number : Nat) (texts : List (List Char)) :
    (d.addLines number (texts.map Text.lower)).mapError Error.lower =
      (d.addLines number texts).mapError Error.lower := by
  induction texts generalizing d number with
  | nil => rfl
  | cons text rest ih =>
    rw [List.map_cons, addLines, addLines]
    obtain ⟨next, lowered, plain⟩ | ⟨cause, other, lowered, plain, same⟩ :=
      mapError_eq_mapError_iff.mp (addLine_lower d number text)
    · rw [lowered, plain]
      exact ih next (number + 1)
    · rw [lowered, plain]
      exact congrArg (fun cause => Except.error (Error.onLine number cause)) same

end Draft

/-- A text in lower case is assembled as the text is. -/
theorem assembleChars_lower (source : List Char) :
    (assembleChars (Text.lower source)).mapError Error.lower =
      (assembleChars source).mapError Error.lower := by
  unfold assembleChars
  rw [Text.lines_lower]
  obtain ⟨d, lowered, plain⟩ | ⟨e, e', lowered, plain, same⟩ :=
    mapError_eq_mapError_iff.mp (Draft.addLines_lower {} 1 (Text.lines source))
  · rw [lowered, plain]
  · rw [lowered, plain]
    exact congrArg Except.error same

/-- Two source texts that are one text up to the case of ASCII letters are both assembled, to the same
bytes, or have the same error on the same line with the same numbers, and only what the error quotes may
differ in case. -/
theorem letter_case_makes_no_difference {source other : String}
    (alike : Text.lower source.toList = Text.lower other.toList) :
    (∃ bytes, assemble source = .ok bytes ∧ assemble other = .ok bytes) ∨
      ∃ e e', assemble source = .error e ∧ assemble other = .error e' ∧ e.lower = e'.lower := by
  refine mapError_eq_mapError_iff.mp ?_
  calc (assemble source).mapError Error.lower
    _ = (assembleChars (Text.lower source.toList)).mapError Error.lower :=
      (assembleChars_lower source.toList).symm
    _ = (assembleChars (Text.lower other.toList)).mapError Error.lower := by rw [alike]
    _ = (assemble other).mapError Error.lower := assembleChars_lower other.toList

/-- Labels, words, registers, marks and digits in both cases; and a wrong register, which is quoted as it
is written. -/
theorem mixed_case_assembled :
    let source := "loop: ldi r1,0Xfa ; Load\nLDI R2,LOOP\npush r1"
    let other := "LOOP: LdI R1,0xFA ; loAD\nldi r2,Loop\nPush R1"
    (Text.lower source.toList = Text.lower other.toList ∧
      ∃ bytes, assemble source = .ok bytes ∧ assemble other = .ok bytes) ∧
    (Text.lower "prn Rx".toList = Text.lower "PRN rX".toList ∧
      ∃ e e', assemble "prn Rx" = .error e ∧ assemble "PRN rX" = .error e' ∧ e.lower = e'.lower) := by
  intro source other
  have alike : Text.lower source.toList = Text.lower other.toList := by decide
  have wrong : Text.lower "prn Rx".toList = Text.lower "PRN rX".toList := by decide
  refine ⟨⟨alike, ?_⟩, ⟨wrong, ?_⟩⟩
  · obtain assembled | ⟨e, e', failed, -⟩ := letter_case_makes_no_difference alike
    · exact assembled
    · have bytes : assemble source = .ok [0x82, 1, 0xfa, 0x82, 2, 0, 0x45, 1] := by decide
      rw [bytes] at failed
      contradiction
  · obtain ⟨bytes, assembled, -⟩ | failed := letter_case_makes_no_difference wrong
    · have error : assemble "prn Rx" = .error (.onLine 1 (.invalidRegister "Rx")) := by decide
      rw [error] at assembled
      contradiction
    · exact failed

end Ls8.Assembly
