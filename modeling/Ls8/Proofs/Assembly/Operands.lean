import Ls8.Proofs.Assembly.Errors

/-! # Operands and their turn

Reading a source text comes to the statement on a line if the lines before it and the label in front of it
have no error, and to an operand of the statement if the operands before it have none. What is wrong with
an operand when it is its turn is the error of the text; and an operand that is a byte stands in the
finished image, at the place where the draft ended when it was read. -/

namespace Ls8.Assembly

/-! ## Sequences of readings -/

section MapM

variable {ε α β : Type} {f : α → Except ε β}

theorem mapM_append_cons_eq_error {before after : List α} {a : α} {e : ε}
    (earlier : ∀ b ∈ before, ∃ c, f b = .ok c) (failed : f a = .error e) :
    (before ++ a :: after).mapM f = .error e := by
  induction before with
  | nil => rw [List.nil_append, List.mapM_cons, failed, error_bind]
  | cons b rest ih =>
    obtain ⟨c, read⟩ := earlier b List.mem_cons_self
    have others := ih fun d member => earlier d (List.mem_cons_of_mem b member)
    rw [List.cons_append, List.mapM_cons, read, ok_bind, others, error_bind]

theorem exists_mem_of_mapM_eq_error {s : List α} {e : ε} (failed : s.mapM f = .error e) :
    ∃ a ∈ s, f a = .error e := by
  induction s with
  | nil => contradiction
  | cons a rest ih =>
    rw [List.mapM_cons] at failed
    cases first : f a with
    | error e' =>
      rw [first, error_bind] at failed
      obtain rfl := Except.error.inj failed
      exact ⟨a, List.mem_cons_self, first⟩
    | ok b =>
      cases others : rest.mapM f with
      | error e' =>
        rw [first, ok_bind, others, error_bind] at failed
        obtain rfl := Except.error.inj failed
        obtain ⟨c, member, found⟩ := ih others
        exact ⟨c, List.mem_cons_of_mem a member, found⟩
      | ok bs =>
        rw [first, ok_bind, others] at failed
        contradiction

/-- The results of readings stand in the order of what is read. -/
theorem getElem?_of_mapM_eq_ok {before after : List α} {a : α} {b : β} {results : List β}
    (done : (before ++ a :: after).mapM f = .ok results) (read : f a = .ok b) :
    results[before.length]? = some b := by
  induction before generalizing results with
  | nil =>
    rw [List.nil_append, List.mapM_cons, read, ok_bind, bind_eq_ok_iff] at done
    obtain ⟨others, -, same⟩ := done
    obtain rfl := Except.ok.inj same
    rfl
  | cons c rest ih =>
    rw [List.cons_append, List.mapM_cons, bind_eq_ok_iff] at done
    obtain ⟨first, -, further⟩ := done
    obtain ⟨others, listed, same⟩ := bind_eq_ok_iff.mp further
    obtain rfl := Except.ok.inj same
    exact ih listed

end MapM

/-! ## Errors -/

/-- What can be wrong with an operand. -/
inductive OperandError : OperandKind → List Char → LineError → Prop
  | register (operand : List Char) :
    OperandError .register operand (.invalidRegister (String.ofList operand))
  | literal (radix : Radix) (operand : List Char) :
    OperandError .immediate operand (.invalidLiteral radix (String.ofList operand))
  | range (value : Int) (operand : List Char) : OperandError .immediate operand (.valueOutOfRange value)

/-- What can be wrong with the words of a statement. -/
inductive StatementError (word : String) (operands : List (List Char)) : LineError → Prop
  | unknown (missing : Opcode.ofMnemonic? word = none) (plain : word ∉ ["ORG", "DB", "DATA"]) :
    StatementError word operands (.unknownMnemonic word)
  | count (expected : Nat) : StatementError word operands (.operandCount expected operands.length)
  | origin : StatementError word operands .originNotNumeric
  | operand {kind : OperandKind} {operand : List Char} {cause : LineError}
      (wrong : OperandError kind operand cause) : StatementError word operands cause

theorem readLiteral_eq_error {radix : Radix} {operand digits : List Char} {cause : LineError}
    (failed : readLiteral radix operand digits = .error cause) :
    cause = .invalidLiteral radix (String.ofList operand) := by
  unfold readLiteral at failed
  split at failed
  · contradiction
  · exact (Except.error.inj failed).symm

theorem readNumber_eq_error {operand : List Char} {cause : LineError}
    (failed : readNumber operand = .error cause) :
    ∃ radix, cause = .invalidLiteral radix (String.ofList operand) := by
  unfold readNumber at failed
  split at failed
  · exact ⟨_, readLiteral_eq_error failed⟩
  · exact ⟨_, readLiteral_eq_error failed⟩
  · split at failed
    · split at failed
      · exact ⟨_, readLiteral_eq_error failed⟩
      · contradiction
    · contradiction

theorem operandError_of_readNumber {operand : List Char} {cause : LineError}
    (failed : readNumber operand = .error cause) : OperandError .immediate operand cause := by
  obtain ⟨radix, rfl⟩ := readNumber_eq_error failed
  exact .literal radix operand

theorem operandError_of_readOperand {kind : OperandKind} {operand : List Char} {cause : LineError}
    (failed : readOperand kind operand = .error cause) : OperandError kind operand cause := by
  cases kind with
  | register =>
    rw [readOperand, readRegister, map_eq_pure_bind] at failed
    obtain unread | ⟨r, -, impossible⟩ := bind_eq_error_iff.mp failed
    · split at unread
      · contradiction
      · obtain rfl := Except.error.inj unread
        exact .register operand
    · contradiction
  | immediate =>
    rw [readOperand, readImmediate] at failed
    obtain unread | ⟨number?, -, refused⟩ := bind_eq_error_iff.mp failed
    · exact operandError_of_readNumber unread
    · split at refused
      · split at refused
        · contradiction
        · obtain rfl := Except.error.inj refused
          exact .range _ operand
      · contradiction

theorem statementError_of_ofWords {word : String} {operands : List (List Char)} {cause : LineError}
    (failed : Statement.ofWords word operands = .error cause) : StatementError word operands cause := by
  unfold Statement.ofWords at failed
  split at failed
  · split at failed
    · obtain unread | ⟨number?, -, refused⟩ := bind_eq_error_iff.mp failed
      · exact .operand (operandError_of_readNumber unread)
      · split at refused
        · contradiction
        · obtain rfl := Except.error.inj refused
          exact .origin
    · obtain rfl := Except.error.inj failed
      exact .count 1
  · next notOrigin =>
    split at failed
    · split at failed
      · next empty =>
        obtain rfl := Except.error.inj failed
        obtain rfl := List.isEmpty_iff.mp empty
        exact .count 1
      · obtain unread | ⟨items, -, impossible⟩ := bind_eq_error_iff.mp failed
        · obtain ⟨operand, -, wrong⟩ := exists_mem_of_mapM_eq_error unread
          have read : readOperand .immediate operand = .error cause := wrong
          exact .operand (operandError_of_readOperand read)
        · contradiction
    · next notData =>
      split at failed
      · next missing =>
        obtain rfl := Except.error.inj failed
        refine .unknown missing ?_
        simpa [not_or, notOrigin] using notData
      · next op found =>
        split at failed
        · obtain rfl := Except.error.inj failed
          exact .count _
        · rw [readOperands_eq_mapM] at failed
          obtain unread | ⟨items, -, impossible⟩ := bind_eq_error_iff.mp failed
          · obtain ⟨pair, -, wrong⟩ := exists_mem_of_mapM_eq_error unread
            exact .operand (operandError_of_readOperand wrong)
          · contradiction

theorem addStatement_eq_error {d : Draft} {number : Nat} {statement : Statement} {cause : LineError}
    (failed : d.addStatement number statement = .error cause) :
    ∃ target, cause = .valueOutOfRange target := by
  cases statement with
  | origin target =>
    rw [Draft.addStatement] at failed
    split at failed
    · contradiction
    · exact ⟨target, (Except.error.inj failed).symm⟩
  | data items => contradiction

/-! ## Statements -/

/-- The word of a statement. -/
def Statement.word (statement : List Char) : List Char := statement.takeWhile (!Text.isBlank ·)

/-- The operands of a statement. -/
def Statement.operands (statement : List Char) : List (List Char) :=
  Text.fields isOperandGap (statement.dropWhile (!Text.isBlank ·))

theorem Statement.ofText_eq (statement : List Char) :
    ofText statement = ofWords (nameOf (word statement)) (operands statement) := rfl

/-- Reading a source text comes to a statement on a line: the lines before it and the label in front of
it have no error, and leave the draft. -/
inductive ComesTo (source : String) (number : Nat) (statement : List Char) (d : Draft) : Prop
  | intro {text : List Char} {before : Draft} (reached : Reaches source number text before)
      (labelled : before.addLabel (Line.ofText text).label = .ok d)
      (stands : (Line.ofText text).statement = some statement)

/-- Where reading comes to a statement, the statement decides whether the error is on its line. -/
theorem ComesTo.assemble_eq_onLine_iff {source : String} {number : Nat} {statement : List Char}
    {d : Draft} (comes : ComesTo source number statement d) {cause : LineError} :
    assemble source = .error (.onLine number cause) ↔
      (Statement.ofText statement >>= d.addStatement number) = .error cause := by
  obtain ⟨reached, labelled, stands⟩ := comes
  rw [reached.assemble_eq_onLine_iff, Draft.addLine_eq, labelled, ok_bind, stands, Draft.addRest]

/-- What a statement of bytes is made of: the bytes in front of its operands, and the kinds of these. -/
structure Form where
  opening : List UInt8
  kinds : List OperandKind
  deriving DecidableEq

/-- The form of a statement with a word and a number of operands, if it is one of bytes. -/
def Form.of? (word : String) (count : Nat) : Option Form :=
  if word = "ORG" then none
  else if word = "DB" ∨ word = "DATA" then
    if count = 0 then none else some ⟨[], List.replicate count .immediate⟩
  else match Opcode.ofMnemonic? word with
    | some op => if count = op.operands.length then some ⟨[op.byte], op.operands⟩ else none
    | none => none

theorem zip_replicate_length {α β : Type} (a : α) (s : List β) :
    (List.replicate s.length a).zip s = s.map (a, ·) := by
  induction s with
  | nil => rfl
  | cons b rest ih => rw [List.length_cons, List.replicate_succ, List.zip_cons_cons, ih, List.map_cons]

/-- A statement of bytes is read operand by operand. -/
theorem ofWords_of_form {word : String} {operands : List (List Char)} {form : Form}
    (known : Form.of? word operands.length = some form) :
    Statement.ofWords word operands =
      (form.kinds.zip operands).mapM (fun pair => readOperand pair.1 pair.2) >>= fun items =>
        .ok (.data (form.opening.map .byte ++ items)) := by
  unfold Form.of? at known
  split at known
  · contradiction
  · next origin =>
    split at known
    · next data =>
      split at known
      · contradiction
      · next some =>
        obtain rfl := Option.some.inj known
        have filled : operands.isEmpty = false :=
          List.isEmpty_eq_false_iff.mpr (List.length_eq_zero_iff.not.mp some)
        unfold Statement.ofWords
        rw [if_neg origin, if_pos data, filled, zip_replicate_length, List.mapM_map]
        rfl
    · next data =>
      split at known
      · next op found =>
        split at known
        · next count =>
          obtain rfl := Option.some.inj known
          unfold Statement.ofWords
          rw [if_neg origin, if_neg data, found]
          simp only [count, ne_eq, not_true_eq_false, if_false, readOperands_eq_mapM]
          rfl
        · contradiction
      · contradiction

/-! ## Images -/

section Image

variable {source : String} {number : Nat} {text : List Char} {d : Draft} {bytes : List UInt8}

/-- A line that reading comes to is an entry of the program that the whole text is. -/
theorem Reaches.exists_program (reached : Reaches source number text d)
    (done : assemble source = .ok bytes) :
    ∃ (p : Program) (entry : Entry) (rest : Program), p.draft = d ∧ p.length + 1 = number ∧
      Entry.read? text = some entry ∧ p.Admits entry ∧ Program.image (p ++ entry :: rest) = bytes := by
  obtain ⟨p, read, laid, rfl⟩ : ∃ p : Program,
      ((Text.lines source.toList).take (number - 1)).mapM Entry.read? = some p ∧ p.LaidOut ∧
        p.draft = d :=
    (Program.addLines_draft_eq_ok_iff Program.laidOut_nil).mp reached.before
  obtain ⟨after, lines⟩ := reached.lines_eq
  have length : p.length + 1 = number := by
    rw [length_of_mapM_eq_some read, Nat.add_comm]
    exact reached.length_before
  obtain ⟨final, whole, image⟩ := bind_eq_ok_iff.mp done
  have behind : p.draft.addLines (p.length + 1) (text :: after) = .ok final := by
    rw [lines, Draft.addLines_append, reached.before, ok_bind, reached.length_before] at whole
    rwa [length]
  obtain ⟨q, entries, fits, rfl⟩ := (Program.addLines_draft_eq_ok_iff laid).mp behind
  obtain ⟨entry, rest, first, -, rfl⟩ := mapM_cons_eq_some_iff.mp entries
  refine ⟨p, entry, rest, rfl, length, first, ?_, (Program.image_draft_eq_ok_iff.mp image).2.2⟩
  rw [List.append_cons] at fits
  exact (Program.laidOut_append_singleton_iff.mp (Program.laidOut_of_append fits)).2

namespace Program

theorem cells_prefix (p q : Program) : p.cells <+: cells (p ++ q) := by
  rw [cells, cells, layout, layout, layoutFrom_append, List.flatMap_append]
  exact List.prefix_append _ _

/-- A byte of a program that is known when its entry is read stays in the image. -/
theorem getElem?_image_of_known {p : Program} {entry : Entry} {rest : Program} {sentence : Sentence}
    (own : entry.sentence = some sentence) {place : Nat} {byte : UInt8}
    (known : (sentence.statement.cells (p.length + 1) p.size)[place]? = some (.known byte)) :
    (image (p ++ entry :: rest))[p.size + place]? = some byte := by
  have cell : (cells (p ++ [entry]))[p.size + place]? = some (.known byte) := by
    rw [cells_append_singleton, own, ← length_cells, List.getElem?_append_right (Nat.le_add_right _ _),
      Nat.add_sub_cancel_left]
    rwa [length_cells]
  obtain ⟨behind, whole⟩ := cells_prefix (p ++ [entry]) rest
  rw [List.append_cons, ← map_byte_cells, List.getElem?_map, ← whole,
    List.getElem?_append_left (List.getElem?_eq_some_iff.mp cell).1, cell]
  rfl

end Program

theorem bytes_of_addLabel {d labelled : Draft} {label : Option (List Char)}
    (added : d.addLabel label = .ok labelled) : labelled.bytes = d.bytes := by
  cases label with
  | none =>
    obtain rfl := Except.ok.inj added
    rfl
  | some label =>
    rw [Draft.addLabel, Draft.define] at added
    split at added
    · contradiction
    · split at added
      · contradiction
      · split at added
        · contradiction
        · obtain rfl := Except.ok.inj added
          rfl

theorem exists_sentence_of_read? {text statement : List Char} {entry : Entry}
    (read : Entry.read? text = some entry) (own : (Line.ofText text).statement = some statement) :
    ∃ sentence, entry.sentence = some sentence ∧
      Sentence.read? (nameOf (Statement.word statement)) (Statement.operands statement) =
        some sentence := by
  simp only [Entry.read?, own, Option.bind_eq_bind, Option.bind_eq_some_iff, Option.pure_def,
    Option.some.injEq, readSentence?, Option.map_eq_some_iff] at read
  obtain ⟨label, -, _, ⟨sentence, found, rfl⟩, rfl⟩ := read
  exact ⟨sentence, rfl, found⟩

/-- A statement that reading comes to has no error if the text has none. -/
theorem ComesTo.exists_ofText {statement : List Char} (comes : ComesTo source number statement d)
    (done : assemble source = .ok bytes) : ∃ read, Statement.ofText statement = .ok read := by
  cases read : Statement.ofText statement with
  | ok result => exact ⟨result, rfl⟩
  | error cause =>
    have failed : assemble source = .error (.onLine number cause) := by
      rw [comes.assemble_eq_onLine_iff, read, error_bind]
    rw [failed] at done
    contradiction

/-- The bytes of a statement stand in the image from where the draft ended. -/
theorem ComesTo.getElem?_of_assemble {statement : List Char} (comes : ComesTo source number statement d)
    (done : assemble source = .ok bytes) {items : List Item}
    (read : Statement.ofText statement = .ok (.data items)) {place : Nat} {byte : UInt8}
    (item : items[place]? = some (.byte byte)) : bytes[d.bytes.length + place]? = some byte := by
  obtain ⟨reached, labelled, own⟩ := comes
  obtain ⟨p, entry, rest, rfl, rfl, entryRead, admitted, rfl⟩ := reached.exists_program done
  obtain ⟨sentence, entrySentence, sentenceRead⟩ := exists_sentence_of_read? entryRead own
  have fitting : ∀ term ∈ sentence.terms, term.Fits := by
    have all := admitted.fitting
    rwa [Entry.terms, entrySentence] at all
  -- The statement is read twice, as a sentence and into items.
  have written := (ofWords_eq_ok_iff _ _ _).mpr ⟨sentence, sentenceRead, fitting, rfl⟩
  rw [← Statement.ofText_eq, read] at written
  have length : d.bytes.length = p.size := by
    rw [bytes_of_addLabel labelled, Program.draft, Draft.length_bytes_ofCells, Program.length_cells]
  rw [length]
  apply Program.getElem?_image_of_known entrySentence
  rw [← Except.ok.inj written, Statement.cells, List.getElem?_map, item]
  rfl

end Image

/-! ## Operands -/

/-- Reading a source text comes to an operand of a kind: it comes to a statement of bytes with this
operand, and the operands in front of it have no error. The byte of the operand goes to the offset. -/
inductive ComesToOperand (source : String) (number : Nat) (kind : OperandKind)
    (operand : List Char) (offset : Nat) : Prop
  | intro {statement : List Char} {d : Draft} {form : Form}
      {before after : List (OperandKind × List Char)} (comes : ComesTo source number statement d)
      (known : Form.of? (nameOf (Statement.word statement)) (Statement.operands statement).length =
        some form)
      (stands : form.kinds.zip (Statement.operands statement) = before ++ (kind, operand) :: after)
      (earlier : ∀ pair ∈ before, ∃ item, readOperand pair.1 pair.2 = .ok item)
      (place : d.bytes.length + form.opening.length + before.length = offset)

section Operand

variable {source : String} {number : Nat} {kind : OperandKind} {operand : List Char} {offset : Nat}

/-- What is wrong with an operand when it is its turn is the error of the text. -/
theorem ComesToOperand.assemble_of_error (comes : ComesToOperand source number kind operand offset)
    {cause : LineError} (failed : readOperand kind operand = .error cause) :
    assemble source = .error (.onLine number cause) := by
  obtain ⟨comes, known, stands, earlier, -⟩ := comes
  rw [comes.assemble_eq_onLine_iff, Statement.ofText_eq, ofWords_of_form known, stands,
    mapM_append_cons_eq_error earlier failed, error_bind, error_bind]

/-- An error on the line of an operand that reading comes to is the error of an operand. -/
theorem ComesToOperand.exists_readOperand_eq_error
    (comes : ComesToOperand source number kind operand offset) {cause : LineError}
    (failed : assemble source = .error (.onLine number cause)) :
    ∃ kind operand, readOperand kind operand = .error cause := by
  obtain ⟨comes, known, -, -, -⟩ := comes
  rw [comes.assemble_eq_onLine_iff, Statement.ofText_eq, ofWords_of_form known] at failed
  obtain unread | ⟨statement, read, refused⟩ := bind_eq_error_iff.mp failed
  · obtain inOperands | ⟨items, -, impossible⟩ := bind_eq_error_iff.mp unread
    · obtain ⟨pair, -, found⟩ := exists_mem_of_mapM_eq_error inOperands
      exact ⟨pair.1, pair.2, found⟩
    · contradiction
  · obtain ⟨items, -, same⟩ := bind_eq_ok_iff.mp read
    obtain rfl := Except.ok.inj same
    contradiction

/-- An operand that is a byte is this byte of the image. -/
theorem ComesToOperand.getElem?_of_assemble
    (comes : ComesToOperand source number kind operand offset) {byte : UInt8}
    (read : readOperand kind operand = .ok (.byte byte)) {bytes : List UInt8}
    (done : assemble source = .ok bytes) : bytes[offset]? = some byte := by
  obtain @⟨statement, d, form, before, after, comes, known, stands, -, rfl⟩ := comes
  obtain ⟨whole, written⟩ := comes.exists_ofText done
  have opened := written
  rw [Statement.ofText_eq, ofWords_of_form known, stands, bind_eq_ok_iff] at opened
  obtain ⟨items, listed, same⟩ := opened
  obtain rfl := Except.ok.inj same
  have opening : (form.opening.map Item.byte).length = form.opening.length := List.length_map ..
  rw [Nat.add_assoc]
  apply comes.getElem?_of_assemble done written
  rw [← opening, List.getElem?_append_right (Nat.le_add_right _ _), Nat.add_sub_cancel_left]
  exact getElem?_of_mapM_eq_ok listed read

end Operand

/-! ## Origins -/

/-- Reading a source text comes to the operand of an origin, behind the bytes of the draft. -/
inductive ComesToOrigin (source : String) (number : Nat) (operand : List Char) (d : Draft) : Prop
  | intro {statement : List Char} (comes : ComesTo source number statement d)
      (origin : nameOf (Statement.word statement) = "ORG")
      (single : Statement.operands statement = [operand])

section Origin

variable {source : String} {number : Nat} {operand : List Char} {d : Draft}

/-- Where reading comes to the operand of an origin, it decides whether the error is on its line. -/
theorem ComesToOrigin.assemble_eq_onLine_iff (comes : ComesToOrigin source number operand d)
    {cause : LineError} :
    assemble source = .error (.onLine number cause) ↔
      match readNumber operand with
      | .error e => e = cause
      | .ok none => .originNotNumeric = cause
      | .ok (some target) =>
        ¬((d.bytes.length : Int) ≤ target ∧ target ≤ 255) ∧ .valueOutOfRange target = cause := by
  obtain ⟨comes, origin, single⟩ := comes
  rw [comes.assemble_eq_onLine_iff, Statement.ofText_eq, origin, single, Statement.ofWords, if_pos rfl]
  cases readNumber operand with
  | error e => simp
  | ok number? =>
    cases number? with
    | none => simp
    | some target =>
      have bound : target < memorySize ↔ target ≤ 255 := by
        rw [memorySize]
        omega
      simp only [ok_bind, pure_eq_ok, Draft.addStatement, bound]
      split
      · next within => simp [within]
      · next outside => simp [outside]

end Origin

end Ls8.Assembly
