import Ls8.Proofs.Assembly.Operands
import Ls8.Proofs.Listing
import Ls8.Proofs.Text.Offsets
import Mathlib.Logic.Relation

/-! # The first pass step by step

The first pass as a machine with one draft that it changes and a stack of tasks. A line is cut by places
into a label and a statement; a statement adds its first byte and leaves its operands, which add one byte
each, and the note for a label together with the zero that it is about. What would reach outside of a text
or make the bytes fewer than none is a fault of the machine and not an error of the text. The machine comes
to the draft or to the error that the lines are read to. -/

namespace Ls8.Assembly

/-! ## The machine -/

/-- What stops the machine: an access out of range, or an error of the source text. -/
inductive Fault
  | outOfRange
  | refused (e : Error)
  deriving DecidableEq, Repr

/-- What stands in front of a comment, which begins at the first of its marks. -/
def code? (text : List Char) : Option (List Char) :=
  match Text.offset? (fun c => c = ';' ∨ c = '#') text with
  | some place => Text.upTo? text place
  | none => some text

/-- Code cut into a label and a statement at the place of its first colon. -/
def Line.ofCode? (code : List Char) : Option Line :=
  match Text.offset? (· = ':') code with
  | some place => do
    let label ← Text.upTo? code place
    let rest ← Text.behind? code (place + 1)
    return { label := some (Text.trim label), statement := nonEmpty (Text.trim rest) }
  | none => some { label := none, statement := nonEmpty code }

/-- A line cut by places. -/
def Line.cut? (text : List Char) : Option Line := code? text >>= fun code => ofCode? (Text.trim code)

/-- Work on a line that is still to be done. -/
inductive Task
  | line (number : Nat) (text : List Char)
  | label (number : Nat) (text : List Char)
  | statement (number : Nat) (text : List Char)
  | operand (number : Nat) (kind : OperandKind) (text : List Char)
  deriving DecidableEq, Repr

/-- A reading on a line, with the number of the line in its error. -/
def onLine {α : Type} (number : Nat) (reading : Except LineError α) : Except Fault α :=
  reading.mapError fun cause => .refused (.onLine number cause)

/-- Bytes cut or filled up with zeros to a length, which is not to be negative. -/
def resize (bytes : List UInt8) (length : Int) : Except Fault (List UInt8) :=
  if length < 0 then .error .outOfRange
  else .ok (bytes.take length.toNat ++ List.replicate (length.toNat - bytes.length) 0)

/-- The address that the operands of an origin write. -/
def readOrigin : List (List Char) → Except LineError Int
  | [operand] => do
    match ← readNumber operand with
    | some target => return target
    | none => throw .originNotNumeric
  | operands => throw (.operandCount 1 operands.length)

/-- The form of a statement with a word and a number of operands that is not an origin. -/
def Form.ofWord (word : String) (count : Nat) : Except LineError Form :=
  if word = "DB" ∨ word = "DATA" then
    if count = 0 then throw (.operandCount 1 0) else return ⟨[], List.replicate count .immediate⟩
  else
    match Opcode.ofMnemonic? word with
    | none => throw (.unknownMnemonic word)
    | some op =>
      if count ≠ op.operands.length then throw (.operandCount op.operands.length count)
      else return ⟨[op.byte], op.operands⟩

/-- Moves the bytes on to an address, which is looked at first. -/
def Draft.moveTo (d : Draft) (number : Nat) (target : Int) : Except Fault Draft :=
  if target < d.bytes.length ∨ memorySize ≤ target then
    .error (.refused (.onLine number (.valueOutOfRange target)))
  else do return { d with bytes := ← resize d.bytes target }

/-- Does a task: the draft after it, and the tasks that it leaves. -/
def Task.perform (d : Draft) : Task → Except Fault (Draft × List Task)
  | line number text =>
    match Line.cut? text with
    | some parts =>
      .ok (d, (parts.label.map (label number)).toList ++ (parts.statement.map (statement number)).toList)
    | none => .error .outOfRange
  | label number text => do return (← onLine number (d.define text), [])
  | statement number text => do
    let word := nameOf (Statement.word text)
    let operands := Statement.operands text
    if word = "ORG" then
      return (← d.moveTo number (← onLine number (readOrigin operands)), [])
    else
      let form ← onLine number (Form.ofWord word operands.length)
      return ({ d with bytes := d.bytes ++ form.opening },
        (form.kinds.zip operands).map fun (kind, text) => operand number kind text)
  | operand number kind text => do
    return (d.addItem number (← onLine number (readOperand kind text)), [])

/-- A point of the first pass: the draft, and the tasks from the next one to the last. -/
structure Point where
  draft : Draft
  tasks : List Task
  deriving DecidableEq, Repr

/-- A step does the next task, and puts what it leaves in front of the others. -/
inductive Point.Step : Point → Point → Prop
  | intro {d next : Draft} {task : Task} {left rest : List Task}
      (done : task.perform d = .ok (next, left)) : Step ⟨d, task :: rest⟩ ⟨next, left ++ rest⟩

/-- One point comes after another, by any number of steps. -/
def Point.Leads : Point → Point → Prop := Relation.ReflTransGen Point.Step

/-- The tasks of lines, the first of which has the given number. -/
def lineTasks (number : Nat) : List (List Char) → List Task
  | [] => []
  | text :: rest => .line number text :: lineTasks (number + 1) rest

/-- The point from which a source text is read. -/
def Point.start (source : String) : Point := ⟨{}, lineTasks 1 (Text.lines source.toList)⟩

/-- The first pass over a source text comes to a point. -/
def Visits (source : String) (p : Point) : Prop := (Point.start source).Leads p

/-- From a point on the first pass ends, with a draft or with a fault. -/
inductive Point.Ends : Point → Except Fault Draft → Prop
  | finished (d : Draft) : Ends ⟨d, []⟩ (.ok d)
  | stopped {d : Draft} {task : Task} {rest : List Task} {fault : Fault}
      (failed : task.perform d = .error fault) : Ends ⟨d, task :: rest⟩ (.error fault)
  | step {p q : Point} {result : Except Fault Draft} (step : p.Step q) (ends : q.Ends result) :
      Ends p result

/-! ## Running the machine -/

namespace Point

theorem Step.eq {p q q' : Point} (first : p.Step q) (second : p.Step q') : q = q' := by
  obtain ⟨done⟩ := first
  obtain ⟨also⟩ := second
  obtain ⟨rfl, rfl⟩ := Prod.mk.inj (Except.ok.inj (done.symm.trans also))
  rfl

/-- The first pass ends in one way. -/
theorem Ends.eq {p : Point} {x y : Except Fault Draft} (first : p.Ends x) (second : p.Ends y) :
    x = y := by
  induction first with
  | finished d =>
    cases second with
    | finished => rfl
    | step step ends => contradiction
  | stopped failed =>
    cases second with
    | stopped other =>
      obtain rfl := Except.error.inj (failed.symm.trans other)
      rfl
    | step step ends =>
      obtain ⟨done⟩ := step
      rw [failed] at done
      contradiction
  | step step ends ih =>
    cases second with
    | finished => contradiction
    | stopped failed =>
      obtain ⟨done⟩ := step
      rw [failed] at done
      contradiction
    | step other ends =>
      obtain rfl := step.eq other
      exact ih ends

/-- A point where the pass ends with a draft is visited with no tasks left. -/
theorem Ends.leads {p : Point} {d : Draft} (ends : p.Ends (.ok d)) : p.Leads ⟨d, []⟩ := by
  generalize same : Except.ok d = result at ends
  induction ends with
  | finished d =>
    obtain rfl := Except.ok.inj same
    exact .refl
  | stopped failed => contradiction
  | step step ends ih => exact .head step (ih same)

theorem Ends.append {d : Draft} {tasks more : List Task} {x : Except Fault Draft}
    {f : Draft → Except Fault Draft} (ends : Ends ⟨d, tasks⟩ x)
    (behind : ∀ next, x = .ok next → Ends ⟨next, more⟩ (f next)) :
    Ends ⟨d, tasks ++ more⟩ (x >>= f) := by
  generalize place : Point.mk d tasks = p at ends
  -- By induction on how the first tasks end: what a step leaves stands in front of all that follow.
  induction ends generalizing d tasks with
  | finished d =>
    obtain ⟨rfl, rfl⟩ := Point.mk.inj place
    exact behind d rfl
  | stopped failed =>
    obtain ⟨rfl, rfl⟩ := Point.mk.inj place
    exact .stopped failed
  | step step ends ih =>
    obtain @⟨_, next, task, left, rest, done⟩ := step
    obtain ⟨rfl, rfl⟩ := Point.mk.inj place
    have next := ih behind rfl
    rw [List.append_assoc] at next
    exact .step (.intro done) next

/-- A task that leaves no others ends as it is done. -/
theorem ends_of_perform {d : Draft} {task : Task} {x : Except Fault Draft}
    (done : task.perform d = x >>= fun next => .ok (next, [])) : Ends ⟨d, [task]⟩ x := by
  cases x with
  | error fault => exact .stopped done
  | ok next => exact .step (.intro done) (.finished next)

end Point

/-! ## What the machine comes to -/

section Agreement

variable {α β : Type} {number : Nat}

theorem onLine_bind (x : Except LineError α) (f : α → Except LineError β) :
    onLine number (x >>= f) = onLine number x >>= fun a => onLine number (f a) := by
  cases x <;> rfl

theorem mapError_eq_ok_iff {ε ε' : Type} {f : ε → ε'} {x : Except ε α} {a : α} :
    x.mapError f = .ok a ↔ x = .ok a := by
  cases x <;> simp [Except.mapError]

theorem onLine_eq_ok_iff {x : Except LineError α} {a : α} : onLine number x = .ok a ↔ x = .ok a :=
  mapError_eq_ok_iff

theorem code?_eq (text : List Char) :
    code? text = some (text.takeWhile fun c => c ≠ ';' ∧ c ≠ '#') := by
  have mark : (fun c : Char => decide (c ≠ ';' ∧ c ≠ '#')) = fun c => !decide (c = ';' ∨ c = '#') := by
    funext c
    simp
  rw [mark, code?]
  split
  · next place found => exact Text.upTo?_of_offset? found
  · next none =>
    have clean := Text.offset?_eq_none_iff.mp none
    rw [List.takeWhile_eq_self_iff.mpr]
    intro c member
    rw [clean c member, Bool.not_false]

theorem Line.cut?_eq (text : List Char) : cut? text = some (ofText text) := by
  have colon : (fun c : Char => decide (c ≠ ':')) = fun c => !decide (c = ':') := by
    funext c
    simp
  rw [cut?, code?_eq, Option.bind_eq_bind, Option.bind_some, ofText, colon]
  generalize Text.trim (text.takeWhile fun c => c ≠ ';' ∧ c ≠ '#') = code
  have missing : Text.offset? (· = ':') code = none ↔ ':' ∉ code := by
    simp only [Text.offset?_eq_none_iff, decide_eq_false_iff_not]
    exact ⟨fun clean member => clean ':' member rfl, fun clean c member same => clean (same ▸ member)⟩
  rw [ofCode?]
  split
  · next place found =>
    have inside : ':' ∈ code := by
      by_contra clean
      rw [missing.mpr clean] at found
      contradiction
    have behind := Text.behind?_of_offset? found fun c same => by
      rw [of_decide_eq_true same]
      decide
    rw [if_pos inside, Text.upTo?_of_offset? found, behind]
    rfl
  · next none => rw [if_neg (missing.mp none)]

theorem ofWords_origin (operands : List (List Char)) :
    Statement.ofWords "ORG" operands = readOrigin operands >>= fun target => .ok (.origin target) := by
  unfold Statement.ofWords
  rw [if_pos rfl]
  rcases operands with - | ⟨operand, - | ⟨other, rest⟩⟩
  · rfl
  · simp only [readOrigin]
    cases readNumber operand with
    | error cause => rfl
    | ok number? => cases number? <;> rfl
  · rfl

theorem form_of_ofWord {word : String} (other : word ≠ "ORG") {count : Nat} {form : Form}
    (read : Form.ofWord word count = .ok form) : Form.of? word count = some form := by
  unfold Form.ofWord at read
  unfold Form.of?
  rw [if_neg other]
  by_cases data : word = "DB" ∨ word = "DATA"
  · rw [if_pos data] at read ⊢
    split at read
    · contradiction
    · next filled =>
      rw [if_neg filled]
      exact congrArg some (Except.ok.inj read)
  · rw [if_neg data] at read ⊢
    cases found : Opcode.ofMnemonic? word with
    | none =>
      rw [found] at read
      contradiction
    | some op =>
      rw [found] at read
      simp only at read ⊢
      split at read
      · contradiction
      · next count =>
        rw [if_pos (not_not.mp count)]
        exact congrArg some (Except.ok.inj read)

theorem ofWords_of_ofWord_error {word : String} (other : word ≠ "ORG") {operands : List (List Char)}
    {cause : LineError} (failed : Form.ofWord word operands.length = .error cause) :
    Statement.ofWords word operands = .error cause := by
  unfold Form.ofWord at failed
  unfold Statement.ofWords
  rw [if_neg other]
  by_cases data : word = "DB" ∨ word = "DATA"
  · rw [if_pos data] at failed ⊢
    split at failed
    · next empty =>
      obtain rfl := Except.error.inj failed
      rw [List.length_eq_zero_iff.mp empty]
      rfl
    · contradiction
  · rw [if_neg data] at failed ⊢
    cases found : Opcode.ofMnemonic? word with
    | none =>
      rw [found] at failed
      obtain rfl := Except.error.inj failed
      rfl
    | some op =>
      rw [found] at failed
      simp only at failed ⊢
      by_cases count : operands.length ≠ op.operands.length
      · rw [if_pos count] at failed ⊢
        obtain rfl := Except.error.inj failed
        rfl
      · rw [if_neg count] at failed
        contradiction

/-- A statement that is not an origin is read by its form. -/
theorem ofWords_eq_form {word : String} (other : word ≠ "ORG") (operands : List (List Char)) :
    Statement.ofWords word operands =
      Form.ofWord word operands.length >>= fun form =>
        (form.kinds.zip operands).mapM (fun pair => readOperand pair.1 pair.2) >>= fun items =>
          .ok (.data (form.opening.map .byte ++ items)) := by
  cases read : Form.ofWord word operands.length with
  | ok form => exact ofWords_of_form (form_of_ofWord other read)
  | error cause => exact ofWords_of_ofWord_error other read

theorem moveTo_eq (d : Draft) (number : Nat) (target : Int) :
    d.moveTo number target = onLine number (d.addStatement number (.origin target)) := by
  rw [Draft.moveTo, Draft.addStatement]
  by_cases outside : target < d.bytes.length ∨ memorySize ≤ target
  · rw [if_pos outside, if_neg (by omega)]
    rfl
  · rw [if_neg outside, if_pos (by omega), resize, if_neg (by omega),
      List.take_of_length_le (by omega)]
    rfl

namespace Point

theorem ends_operands (d : Draft) (number : Nat) (operands : List (OperandKind × List Char)) :
    Ends ⟨d, operands.map fun (kind, text) => .operand number kind text⟩
      (onLine number (operands.mapM (fun pair => readOperand pair.1 pair.2) >>= fun items =>
        .ok (items.foldl (fun d item => d.addItem number item) d))) := by
  -- The items are all read before any is added, the machine adds each before it reads the next: the draft
  -- differs from one operand to the next, but not what is read.
  induction operands generalizing d with
  | nil => exact .finished d
  | cons pair rest ih =>
    have first : Ends ⟨d, [.operand number pair.1 pair.2]⟩
        (onLine number (readOperand pair.1 pair.2 >>= fun item => .ok (d.addItem number item))) := by
      refine ends_of_perform ?_
      rw [Task.perform]
      cases readOperand pair.1 pair.2 <;> rfl
    have whole := first.append fun next _ => ih next
    rw [List.mapM_cons]
    cases read : readOperand pair.1 pair.2 with
    | error cause =>
      rw [read] at whole
      exact whole
    | ok item =>
      rw [read] at whole
      cases others : rest.mapM (fun pair => readOperand pair.1 pair.2) with
      | error cause =>
        rw [others] at whole
        exact whole
      | ok items =>
        rw [others] at whole
        exact whole

/-- The first bytes of a statement and its operands are its data. -/
theorem ends_data (d : Draft) (number : Nat) (opening : List UInt8)
    (operands : List (OperandKind × List Char)) :
    Ends ⟨{ d with bytes := d.bytes ++ opening },
        operands.map fun (kind, text) => .operand number kind text⟩
      (onLine number ((operands.mapM (fun pair => readOperand pair.1 pair.2) >>= fun items =>
        .ok (.data (opening.map .byte ++ items))) >>= d.addStatement number)) := by
  have behind := ends_operands { d with bytes := d.bytes ++ opening } number operands
  cases read : operands.mapM (fun pair => readOperand pair.1 pair.2) with
  | error cause =>
    rw [read] at behind
    exact behind
  | ok items =>
    rw [read] at behind
    rw [ok_bind, ok_bind, Draft.addStatement, List.foldl_append, foldl_addItem_byte]
    exact behind

theorem ends_label (d : Draft) (number : Nat) (label : Option (List Char)) :
    Ends ⟨d, (label.map (Task.label number)).toList⟩ (onLine number (d.addLabel label)) := by
  cases label with
  | none => exact .finished d
  | some text => exact ends_of_perform rfl

theorem ends_statement (d : Draft) (number : Nat) (text : List Char) :
    Ends ⟨d, [.statement number text]⟩
      (onLine number (Statement.ofText text >>= d.addStatement number)) := by
  rw [Statement.ofText_eq]
  by_cases origin : nameOf (Statement.word text) = "ORG"
  · refine ends_of_perform ?_
    rw [Task.perform, if_pos origin, origin, ofWords_origin]
    cases readOrigin (Statement.operands text) with
    | error cause => rfl
    | ok target =>
      have moved := moveTo_eq d number target
      rw [ok_bind, ok_bind, ← moved]
      rfl
  · rw [ofWords_eq_form origin]
    cases read : Form.ofWord (nameOf (Statement.word text)) (Statement.operands text).length with
    | error cause =>
      refine .stopped ?_
      rw [Task.perform, if_neg origin, read]
      rfl
    | ok form =>
      have done : (Task.statement number text).perform d =
          .ok ({ d with bytes := d.bytes ++ form.opening },
            (form.kinds.zip (Statement.operands text)).map fun (kind, text) =>
              .operand number kind text) := by
        rw [Task.perform, if_neg origin, read]
        rfl
      refine .step (.intro done) ?_
      rw [List.append_nil, ok_bind]
      exact ends_data d number form.opening _

theorem ends_rest (d : Draft) (number : Nat) (statement : Option (List Char)) :
    Ends ⟨d, (statement.map (Task.statement number)).toList⟩
      (onLine number (d.addRest number statement)) := by
  cases statement with
  | none => exact .finished d
  | some text => exact ends_statement d number text

theorem ends_line (d : Draft) (number : Nat) (text : List Char) :
    Ends ⟨d, [.line number text]⟩ (onLine number (d.addLine number text)) := by
  have done : (Task.line number text).perform d =
      .ok (d, ((Line.ofText text).label.map (Task.label number)).toList ++
        ((Line.ofText text).statement.map (Task.statement number)).toList) := by
    rw [Task.perform, Line.cut?_eq]
  refine .step (.intro done) ?_
  rw [List.append_nil, Draft.addLine_eq, onLine_bind]
  exact (ends_label d number _).append fun next _ => ends_rest next number _

theorem ends_lines (d : Draft) (number : Nat) (texts : List (List Char)) :
    Ends ⟨d, lineTasks number texts⟩ ((d.addLines number texts).mapError .refused) := by
  induction texts generalizing d number with
  | nil => exact .finished d
  | cons text rest ih =>
    have whole := (ends_line d number text).append fun next _ => ih next (number + 1)
    rw [Draft.addLines]
    cases read : d.addLine number text with
    | error cause =>
      rw [read] at whole
      exact whole
    | ok next =>
      rw [read] at whole
      exact whole

/-- The first pass over a source text always ends, as its lines are read. -/
theorem ends_start_iff {source : String} {result : Except Fault Draft} :
    (start source).Ends result ↔
      result = (Draft.addLines {} 1 (Text.lines source.toList)).mapError .refused := by
  have ends := ends_lines {} 1 (Text.lines source.toList)
  refine ⟨fun other => other.eq ends, ?_⟩
  rintro rfl
  exact ends

end Point

end Agreement

end Ls8.Assembly
