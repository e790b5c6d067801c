import Ls8.Proofs.Assembly.Source
import Ls8.Proofs.Basic

/-! # Statements and sentences

The assembler reads a statement and checks its numbers in one go. Here this is taken apart: it
succeeds exactly when the statement is a sentence whose numbers fit, and gives the items of that
sentence. -/

namespace Ls8.Assembly

/-- The item that a term stands for. -/
def Term.item : Term → Item
  | .register r => .byte r.toByte
  | .number value => .byte (.ofInt value)
  | .label name => .reference name

/-- The statement that a sentence stands for. -/
def Sentence.statement : Sentence → Statement
  | .origin target => .origin target
  | .instruction op terms => .data (.byte op.byte :: terms.map Term.item)
  | .data terms => .data (terms.map Term.item)

/-- A reader that checks what it has read is a reader followed by the check, and so are the two
over lists. -/
theorem mapM_eq_ok_iff {ε α β γ : Type} {check : α → Except ε β} {read : α → Option γ}
    {fits : γ → Prop} {view : γ → β}
    (each : ∀ a b, check a = .ok b ↔ ∃ c, read a = some c ∧ fits c ∧ view c = b)
    (sources : List α) (results : List β) :
    sources.mapM check = .ok results ↔
      ∃ found, sources.mapM read = some found ∧ (∀ c ∈ found, fits c) ∧
        found.map view = results := by
  induction sources generalizing results with
  | nil => simp [eq_comm]
  | cons source rest ih =>
    rw [List.mapM_cons, bind_eq_ok_iff]
    simp only [bind_eq_ok_iff, pure_eq_ok, Except.ok.injEq, each, ih]
    constructor
    · rintro ⟨result, ⟨c, first, fit, rfl⟩, results, ⟨found, others, fits, rfl⟩, rfl⟩
      exact ⟨c :: found, mapM_cons_eq_some_iff.mpr ⟨c, found, first, others, rfl⟩,
        List.forall_mem_cons.mpr ⟨fit, fits⟩, rfl⟩
    · rintro ⟨_, whole, fits, rfl⟩
      obtain ⟨c, found, first, others, rfl⟩ := mapM_cons_eq_some_iff.mp whole
      obtain ⟨fit, fits⟩ := List.forall_mem_cons.mp fits
      exact ⟨view c, ⟨c, first, fit, rfl⟩, found.map view, ⟨found, others, fits, rfl⟩, rfl⟩

theorem readOperand_eq_ok_iff (kind : OperandKind) (operand : List Char) (item : Item) :
    readOperand kind operand = .ok item ↔
      ∃ term, Term.read? kind operand = some term ∧ term.Fits ∧ term.item = item := by
  cases kind with
  | register =>
    simp only [readOperand, Term.read?]
    cases readRegister operand with
    | error e => simp
    | ok r => simp [Term.Fits, Term.item]
  | immediate =>
    simp only [readOperand, readImmediate, Term.read?]
    cases readNumber operand with
    | error e => simp
    | ok number =>
      cases number with
      | none => simp [Term.Fits, Term.item]
      | some value =>
        by_cases fits : -128 ≤ value ∧ value ≤ 255
        · simp [Term.Fits, Term.item, byteOfInt?, fits]
        · simp [Term.Fits, Term.item, byteOfInt?, fits]

theorem readOperands_eq_mapM {kinds : List OperandKind} {operands : List (List Char)} :
    readOperands kinds operands =
      (kinds.zip operands).mapM fun (kind, operand) => readOperand kind operand := by
  induction kinds generalizing operands with
  | nil => rfl
  | cons kind kinds ih =>
    cases operands with
    | nil => rfl
    | cons operand operands =>
      rw [readOperands, ih, List.zip_cons_cons, List.mapM_cons]

/-- A statement is built from the items that its operands write as its sentence is from terms. -/
private theorem built_eq_ok_iff {items? : Except LineError (List Item)}
    {terms? : Option (List Term)}
    (read : ∀ items, items? = .ok items ↔
      ∃ terms, terms? = some terms ∧ (∀ term ∈ terms, term.Fits) ∧ terms.map Term.item = items)
    {build : List Term → Sentence} {finish : List Item → Statement}
    (own : ∀ terms, (build terms).terms = terms)
    (stands : ∀ terms, (build terms).statement = finish (terms.map Term.item))
    (statement : Statement) :
    (items? >>= fun items => pure (finish items)) = .ok statement ↔
      ∃ sentence, terms?.map build = some sentence ∧ (∀ term ∈ sentence.terms, term.Fits) ∧
        sentence.statement = statement := by
  simp only [bind_eq_ok_iff, pure_eq_ok, Except.ok.injEq, Option.map_eq_some_iff]
  constructor
  · rintro ⟨items, listed, rfl⟩
    obtain ⟨terms, found, fit, rfl⟩ := (read items).mp listed
    refine ⟨build terms, ⟨terms, found, rfl⟩, ?_, stands terms⟩
    rwa [own]
  · rintro ⟨_, ⟨terms, found, rfl⟩, fit, rfl⟩
    rw [own] at fit
    exact ⟨terms.map Term.item, (read _).mpr ⟨terms, found, fit, rfl⟩, (stands terms).symm⟩

/-- A statement is read exactly when it is a sentence whose numbers fit. -/
theorem ofWords_eq_ok_iff (word : String) (operands : List (List Char)) (statement : Statement) :
    Statement.ofWords word operands = .ok statement ↔
      ∃ sentence, Sentence.read? word operands = some sentence ∧
        (∀ term ∈ sentence.terms, term.Fits) ∧ sentence.statement = statement := by
  unfold Statement.ofWords Sentence.read?
  by_cases origin : word = "ORG"
  · rw [if_pos origin, if_pos origin]
    rcases operands with - | ⟨operand, - | ⟨next, rest⟩⟩
    · simp
    · dsimp only
      cases readNumber operand with
      | error e => simp
      | ok number => cases number <;> simp [Sentence.terms, Sentence.statement]
    · simp
  · rw [if_neg origin, if_neg origin]
    by_cases data : word = "DB" ∨ word = "DATA"
    · rw [if_pos data, if_pos data]
      cases operands with
      | nil => simp
      | cons operand rest =>
        have read := mapM_eq_ok_iff (readOperand_eq_ok_iff .immediate) (operand :: rest)
        rw [if_neg (List.cons_ne_nil operand rest), List.isEmpty_cons, if_neg Bool.false_ne_true]
        exact built_eq_ok_iff read (fun _ => rfl) (fun _ => rfl) statement
    · rw [if_neg data, if_neg data]
      cases Opcode.ofMnemonic? word with
      | none => simp
      | some op =>
        by_cases count : operands.length = op.operands.length
        · have read := mapM_eq_ok_iff (fun (pair : OperandKind × List Char) =>
            readOperand_eq_ok_iff pair.1 pair.2) (op.operands.zip operands)
          simp only [count, ne_eq, not_true_eq_false, if_false, if_true, readOperands_eq_mapM]
          exact built_eq_ok_iff read (fun _ => rfl) (fun _ => rfl) statement
        · simp [count]

end Ls8.Assembly
