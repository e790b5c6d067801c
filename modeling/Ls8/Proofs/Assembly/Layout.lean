import Mathlib.Data.List.Induction
import Ls8.Proofs.Assembly.Reading

/-! # The two passes

The first pass goes through the lines with a draft in which references are zeros with a note. A
draft stands for cells, each known or wanted from a label: its bytes show the wanted cells as zeros
and its notes say where they are. After any lines the draft is the draft of the program that these
lines are, so the first pass succeeds exactly when the lines can be laid out; and filling in is
encoding the cells with all labels at hand. -/

namespace Ls8.Assembly

/-- A byte of an image while its lines are being read. -/
inductive Cell
  | known (byte : UInt8)
  | wanted (label : String) (line : Nat)

namespace Cell

/-- The byte that a draft holds for a cell. -/
def placeholder : Cell → UInt8
  | known byte => byte
  | wanted .. => 0

/-- The notes of a draft for the cells from an offset on. -/
def references : Nat → List Cell → List Reference
  | _, [] => []
  | offset, known _ :: rest => references (offset + 1) rest
  | offset, wanted label line :: rest => ⟨offset, label, line⟩ :: references (offset + 1) rest

theorem references_append (offset : Nat) (first second : List Cell) :
    references offset (first ++ second) =
      references offset first ++ references (offset + first.length) second := by
  induction first generalizing offset with
  | nil => rfl
  | cons cell rest ih =>
    have next : offset + (rest.length + 1) = offset + 1 + rest.length := by omega
    cases cell with
    | known byte =>
      rw [List.cons_append, references, references, ih, List.length_cons, next]
    | wanted label line =>
      rw [List.cons_append, references, references, ih, List.length_cons, next, List.cons_append]

/-- The byte of a cell, given the labels. -/
def resolve (labels : List (String × UInt8)) : Cell → Except Error UInt8
  | known byte => .ok byte
  | wanted label line =>
    match labels.lookup label with
    | some address => .ok address
    | none => .error (.undefinedLabel line label)

end Cell

/-- The cell of an item on a line. -/
def Item.cell (line : Nat) : Item → Cell
  | .byte value => .known value
  | .reference label => .wanted label line

/-- The cells of a statement at its place. -/
def Statement.cells (line offset : Nat) : Statement → List Cell
  | .origin target => List.replicate (target.toNat - offset) (.known 0)
  | .data items => items.map (·.cell line)

theorem Sentence.length_cells (sentence : Sentence) (line offset : Nat) :
    (sentence.statement.cells line offset).length = sentence.size offset := by
  cases sentence with
  | origin target => exact List.length_replicate
  | instruction op terms =>
    simp [statement, Statement.cells, size, Nat.add_comm]
  | data terms => simp [statement, Statement.cells, size]

theorem Sentence.wanted_mem_cells_iff {sentence : Sentence} {line offset : Nat} {name : String}
    {wanting : Nat} :
    .wanted name wanting ∈ sentence.statement.cells line offset ↔
      wanting = line ∧ .label name ∈ sentence.terms := by
  have item {term : Term} :
      term.item.cell line = .wanted name wanting ↔ wanting = line ∧ .label name = term := by
    cases term <;> simp [Term.item, Item.cell, and_comm, eq_comm]
  have items (list : List Term) :
      .wanted name wanting ∈ (list.map Term.item).map (·.cell line) ↔
        wanting = line ∧ .label name ∈ list := by
    simp only [List.mem_map, exists_exists_and_eq_and, item]
    constructor
    · rintro ⟨term, member, same, rfl⟩
      exact ⟨same, member⟩
    · rintro ⟨same, member⟩
      exact ⟨_, member, same, rfl⟩
  cases sentence with
  | origin target => simp [statement, Statement.cells, terms]
  | instruction op list =>
    refine List.mem_cons.trans (Iff.trans ?_ (items list))
    exact or_iff_right (by simp [Item.cell])
  | data list => exact items list

/-- The byte of a cell, given the addresses of all labels. -/
def Cell.byte (address : String → Nat) : Cell → UInt8
  | known byte => byte
  | wanted label _ => .ofNat (address label)

theorem Sentence.map_byte_cells (address : String → Nat) (sentence : Sentence)
    (line offset : Nat) :
    (sentence.statement.cells line offset).map (Cell.byte address) =
      sentence.bytes address offset := by
  have item (term : Term) : (term.item.cell line).byte address = term.byte address := by
    cases term <;> rfl
  cases sentence with
  | origin target => exact List.map_replicate
  | instruction op list =>
    simp only [statement, Statement.cells, bytes, List.map_cons, List.map_map]
    exact congrArg (op.byte :: ·) (List.map_congr_left fun term _ => item term)
  | data list => simp [statement, Statement.cells, bytes, item]

theorem isSome_lookup_iff {β : Type} {labels : List (String × β)} {name : String} :
    (labels.lookup name).isSome ↔ name ∈ labels.map (·.1) := by
  rw [List.lookup_isSome_iff, List.mem_map]
  constructor
  · rintro ⟨definition, member, same⟩
    exact ⟨definition, member, (beq_iff_eq.mp same).symm⟩
  · rintro ⟨definition, member, rfl⟩
    exact ⟨definition, member, beq_self_eq_true _⟩

namespace Draft

/-- The draft that stands for cells, with its labels. -/
def ofCells (labels : List (String × UInt8)) (cells : List Cell) : Draft :=
  { labels, references := Cell.references 0 cells, bytes := cells.map Cell.placeholder }

variable {labels : List (String × UInt8)} {cells : List Cell}

/-- Filling in the notes for some cells resolves them one by one, behind the bytes known before. -/
theorem foldlM_fillIn (d : Draft) (before : List UInt8) (cells : List Cell) :
    (Cell.references before.length cells).foldlM d.fillIn
        (before ++ cells.map Cell.placeholder) =
      (before ++ ·) <$> cells.mapM (Cell.resolve d.labels) := by
  -- The bytes `before` are final: notes for later cells point behind them.
  induction cells generalizing before with
  | nil => simp [Cell.references]
  | cons cell rest ih =>
    have behind (byte : UInt8) := ih (before ++ [byte])
    simp only [List.length_append, List.length_singleton, List.append_assoc,
      List.singleton_append] at behind
    cases cell with
    | known byte =>
      rw [Cell.references, List.map_cons, Cell.placeholder, behind byte, List.mapM_cons]
      cases rest.mapM (Cell.resolve d.labels) <;> rfl
    | wanted label line =>
      rw [Cell.references, List.map_cons, Cell.placeholder, List.foldlM_cons, List.mapM_cons]
      cases found : d.labels.lookup label with
      | none => simp [fillIn, Cell.resolve, found]
      | some address =>
        have placed : (before ++ 0 :: rest.map Cell.placeholder).set before.length address =
            before ++ address :: rest.map Cell.placeholder := by
          rw [List.set_append_right _ _ (Nat.le_refl _), Nat.sub_self, List.set_cons_zero]
        simp only [fillIn, Cell.resolve, found, placed, ok_bind, behind address]
        cases rest.mapM (Cell.resolve d.labels) <;> rfl

theorem image_ofCells (labels : List (String × UInt8)) (cells : List Cell) :
    (ofCells labels cells).image =
      if memorySize < cells.length then .error (.programTooLarge cells.length)
      else cells.mapM (Cell.resolve labels) := by
  have filled := foldlM_fillIn (ofCells labels cells) [] cells
  simp only [List.length_nil, List.nil_append, id_map'] at filled
  rw [image, ← List.length_map Cell.placeholder]
  exact ite_congr rfl (fun _ => rfl) (fun _ => filled)

theorem length_of_foldlM_fillIn {d : Draft} {places : List Reference} {bytes filled : List UInt8}
    (done : places.foldlM d.fillIn bytes = .ok filled) : filled.length = bytes.length := by
  induction places generalizing bytes with
  | nil =>
    obtain rfl := Except.ok.inj done
    rfl
  | cons place rest ih =>
    rw [List.foldlM_cons, bind_eq_ok_iff] at done
    obtain ⟨next, first, further⟩ := done
    rw [ih further]
    unfold fillIn at first
    split at first
    · obtain rfl := Except.ok.inj first
      exact List.length_set
    · contradiction

/-- Every image fits in memory. -/
theorem length_of_image {d : Draft} {bytes : List UInt8} (done : d.image = .ok bytes) :
    bytes.length ≤ memorySize := by
  unfold image at done
  split at done
  · contradiction
  · next fits =>
    rw [length_of_foldlM_fillIn done]
    exact Nat.not_lt.mp fits

theorem addItem_ofCells (line : Nat) (item : Item) :
    (ofCells labels cells).addItem line item = ofCells labels (cells ++ [item.cell line]) := by
  cases item with
  | byte value =>
    simp [addItem, ofCells, Item.cell, Cell.references_append, Cell.references, Cell.placeholder]
  | reference label =>
    simp [addItem, ofCells, Item.cell, Cell.references_append, Cell.references, Cell.placeholder]

theorem foldl_addItem_ofCells (line : Nat) (items : List Item) :
    items.foldl (fun d item => d.addItem line item) (ofCells labels cells) =
      ofCells labels (cells ++ items.map (·.cell line)) := by
  induction items generalizing cells with
  | nil => simp
  | cons item rest ih =>
    rw [List.foldl_cons, addItem_ofCells, ih, List.append_assoc, List.singleton_append,
      List.map_cons]

theorem length_bytes_ofCells : (ofCells labels cells).bytes.length = cells.length :=
  List.length_map ..

theorem ofCells_append_zeros (count : Nat) :
    ofCells labels (cells ++ List.replicate count (.known 0)) =
      { ofCells labels cells with
        bytes := (ofCells labels cells).bytes ++ List.replicate count 0 } := by
  have quiet : ∀ offset, Cell.references offset (List.replicate count (.known 0)) = [] := by
    induction count with
    | zero => exact fun offset => rfl
    | succ count ih =>
      intro offset
      rw [List.replicate_succ, Cell.references, ih]
  simp [ofCells, Cell.references_append, quiet, Cell.placeholder]

theorem addStatement_ofCells_eq_ok_iff {line : Nat} {statement : Statement} {d : Draft} :
    (ofCells labels cells).addStatement line statement = .ok d ↔
      (∀ target, statement = .origin target → cells.length ≤ target ∧ target ≤ 255) ∧
        ofCells labels (cells ++ statement.cells line cells.length) = d := by
  cases statement with
  | origin target =>
    have bound : target < memorySize ↔ target ≤ 255 := by
      rw [memorySize]
      omega
    rw [Statement.cells, ofCells_append_zeros, addStatement, length_bytes_ofCells]
    simp only [bound]
    by_cases within : cells.length ≤ target ∧ target ≤ 255
    · simp [within]
    · simp [within]
  | data items => simp [addStatement, foldl_addItem_ofCells, Statement.cells]

theorem define_ofCells_eq_ok_iff {label : List Char} {d : Draft} :
    (ofCells labels cells).define label = .ok d ↔
      isLabelName (Text.upper label) = true ∧ cells.length ≤ 255 ∧
        nameOf label ∉ labels.map (·.1) ∧
        ofCells (labels ++ [(nameOf label, UInt8.ofNat cells.length)]) cells = d := by
  have room : memorySize ≤ cells.length ↔ ¬cells.length ≤ 255 := by
    rw [memorySize]
    omega
  have known : (labels.lookup (nameOf label)).isSome ↔ nameOf label ∈ labels.map (·.1) :=
    isSome_lookup_iff
  unfold define
  rw [length_bytes_ofCells]
  cases name : isLabelName (Text.upper label) with
  | false => simp
  | true =>
    by_cases within : cells.length ≤ 255
    · by_cases fresh : nameOf label ∈ labels.map (·.1)
      · simp [room, within, known, ofCells, fresh]
      · simp [room, within, known, ofCells, fresh]
    · simp [room, within]

/-- A line is added in two parts: its label, and what stands behind the label. -/
theorem addLine_eq_ok_iff {d next : Draft} {number : Nat} {text : List Char} :
    d.addLine number text = .ok next ↔ ∃ labelled,
      (match (Line.ofText text).label with
        | some label => d.define label
        | none => pure d) = .ok labelled ∧
      (match (Line.ofText text).statement with
        | some rest => Statement.ofText rest >>= labelled.addStatement number
        | none => pure labelled) = .ok next := by
  unfold addLine
  generalize Line.ofText text = line
  rcases line with ⟨- | label, rest⟩
  · refine ⟨fun added => ⟨d, rfl, added⟩, ?_⟩
    rintro ⟨_, same, added⟩
    obtain rfl := Except.ok.inj same
    exact added
  · exact bind_eq_ok_iff

theorem addLabel_ofCells_eq_ok_iff {label : Option (List Char)} {d : Draft} :
    (match label with
      | some label => (ofCells labels cells).define label
      | none => pure (ofCells labels cells)) = .ok d ↔
      ∃ found, readLabel? label = some found ∧
        (∀ name ∈ found, cells.length ≤ 255 ∧ name ∉ labels.map (·.1)) ∧
        ofCells (labels ++ (found.map fun name => (name, UInt8.ofNat cells.length)).toList) cells =
          d := by
  cases label with
  | none => simp [readLabel?]
  | some label =>
    simp only [define_ofCells_eq_ok_iff, readLabel?]
    by_cases name : isLabelName (Text.upper label) = true
    · simp [name, and_assoc]
    · simp [name]

theorem addRest_ofCells_eq_ok_iff {line : Nat} {rest : Option (List Char)} {d : Draft} :
    (match rest with
      | some text => Statement.ofText text >>= (ofCells labels cells).addStatement line
      | none => pure (ofCells labels cells)) = .ok d ↔
      ∃ found, readSentence? rest = some found ∧
        (∀ target, found = some (.origin target) → cells.length ≤ target ∧ target ≤ 255) ∧
        (∀ term ∈ (found.map Sentence.terms).getD [], term.Fits) ∧
        ofCells labels (cells ++ (found.map fun sentence =>
          sentence.statement.cells line cells.length).getD []) = d := by
  cases rest with
  | none => simp [readSentence?]
  | some text =>
    simp only [bind_eq_ok_iff, Statement.ofText, ofWords_eq_ok_iff, addStatement_ofCells_eq_ok_iff,
      readSentence?, Option.map_eq_some_iff]
    constructor
    · rintro ⟨_, ⟨sentence, read, fit, rfl⟩, forward, rfl⟩
      refine ⟨some sentence, ⟨sentence, read, rfl⟩, fun target origin => ?_, fit, rfl⟩
      exact forward target (congrArg Sentence.statement (Option.some.inj origin))
    · rintro ⟨_, ⟨sentence, read, rfl⟩, forward, fit, rfl⟩
      refine ⟨_, ⟨sentence, read, fit, rfl⟩, fun target origin => forward target ?_, rfl⟩
      cases sentence with
      | origin own =>
        cases origin
        rfl
      | instruction op terms => contradiction
      | data terms => contradiction

end Draft

theorem length_of_assemble {source : String} {bytes : List UInt8}
    (done : assemble source = .ok bytes) : bytes.length ≤ memorySize := by
  rw [assemble, assembleChars, bind_eq_ok_iff] at done
  obtain ⟨d, -, filled⟩ := done
  exact Draft.length_of_image filled

namespace Program

theorem sizeFrom_append (offset : Nat) (p q : Program) :
    sizeFrom offset (p ++ q) = sizeFrom (sizeFrom offset p) q := List.foldl_append ..

theorem layoutFrom_append (line offset : Nat) (p q : Program) :
    layoutFrom line offset (p ++ q) =
      layoutFrom line offset p ++ layoutFrom (line + p.length) (sizeFrom offset p) q := by
  induction p generalizing line offset with
  | nil => rfl
  | cons entry rest ih =>
    have next : line + (rest.length + 1) = line + 1 + rest.length := by omega
    rw [List.cons_append, layoutFrom, ih, layoutFrom, List.length_cons, next]
    rfl

theorem layout_append_singleton (p : Program) (entry : Entry) :
    layout (p ++ [entry]) = p.layout ++ [⟨p.length + 1, p.size, entry⟩] := by
  rw [layout, layoutFrom_append, Nat.add_comm 1]
  rfl

theorem labels_append_singleton (p : Program) (entry : Entry) :
    labels (p ++ [entry]) = p.labels ++ (entry.label.map fun name => (name, p.size)).toList := by
  rw [labels, layout_append_singleton, List.filterMap_append]
  rfl

/-- The cells of a program. -/
def cells (p : Program) : List Cell :=
  p.layout.flatMap fun placed =>
    (placed.entry.sentence.map fun sentence =>
      sentence.statement.cells placed.line placed.offset).getD []

theorem cells_append_singleton (p : Program) (entry : Entry) :
    cells (p ++ [entry]) = p.cells ++ (entry.sentence.map fun sentence =>
      sentence.statement.cells (p.length + 1) p.size).getD [] := by
  rw [cells, layout_append_singleton, List.flatMap_append, List.flatMap_singleton]
  rfl

theorem size_append_singleton (p : Program) (entry : Entry) :
    size (p ++ [entry]) = p.size + entry.size p.size := sizeFrom_append ..

theorem length_cells (p : Program) : p.cells.length = p.size := by
  induction p using List.reverseRecOn with
  | nil => rfl
  | append_singleton p entry ih =>
    rw [cells_append_singleton, size_append_singleton, List.length_append, ih, Entry.size]
    cases entry.sentence with
    | none => rfl
    | some sentence =>
      rw [Option.map_some, Option.map_some, Option.getD_some, Option.getD_some,
        Sentence.length_cells]

/-- The labels of a program with their addresses as bytes. -/
def addresses (p : Program) : List (String × UInt8) :=
  p.labels.map fun definition => (definition.1, UInt8.ofNat definition.2)

theorem map_fst_addresses (p : Program) : p.addresses.map (·.1) = p.labels.map (·.1) :=
  List.map_map ..

/-- The draft after the lines of a program have been read. -/
def draft (p : Program) : Draft := .ofCells p.addresses p.cells

theorem draft_append_singleton (p : Program) (entry : Entry) :
    draft (p ++ [entry]) =
      .ofCells (p.addresses ++ (entry.label.map fun name => (name, UInt8.ofNat p.size)).toList)
        (p.cells ++ (entry.sentence.map fun sentence =>
          sentence.statement.cells (p.length + 1) p.size).getD []) := by
  rw [draft, addresses, cells_append_singleton, labels_append_singleton, List.map_append]
  cases entry.label <;> rfl

/-- The entries that can be placed behind a program. -/
structure Admits (p : Program) (entry : Entry) : Prop where
  fresh : ∀ name ∈ entry.label, name ∉ p.labels.map (·.1)
  addressable : ∀ name ∈ entry.label, p.size ≤ 255
  forward : ∀ target, entry.sentence = some (.origin target) → p.size ≤ target ∧ target ≤ 255
  fitting : ∀ term ∈ entry.terms, term.Fits

/-- A line is added to the draft of a program exactly when its entry can be placed behind it. -/
theorem addLine_draft_eq_ok_iff {p : Program} {text : List Char} {d : Draft} :
    p.draft.addLine (p.length + 1) text = .ok d ↔
      ∃ entry, Entry.read? text = some entry ∧ p.Admits entry ∧ draft (p ++ [entry]) = d := by
  rw [Draft.addLine_eq_ok_iff]
  unfold draft
  simp only [Draft.addLabel_ofCells_eq_ok_iff, Entry.read?, Option.bind_eq_bind,
    Option.bind_eq_some_iff, Option.pure_def, Option.some.injEq]
  constructor
  · rintro ⟨_, ⟨label, named, definable, rfl⟩, added⟩
    obtain ⟨sentence, read, forward, fit, rfl⟩ := Draft.addRest_ofCells_eq_ok_iff.mp added
    refine ⟨⟨label, sentence⟩, ⟨label, named, sentence, read, rfl⟩, ⟨?_, ?_, ?_, fit⟩, ?_⟩
    · intro name member
      have fresh := (definable name member).2
      rwa [map_fst_addresses] at fresh
    · intro name member
      have within := (definable name member).1
      rwa [length_cells] at within
    · intro target origin
      have within := forward target origin
      rwa [length_cells] at within
    · rw [length_cells]
      exact draft_append_singleton p _
  · rintro ⟨_, ⟨label, named, sentence, read, rfl⟩, admitted, rfl⟩
    refine ⟨_, ⟨label, named, fun name member => ?_, rfl⟩,
      Draft.addRest_ofCells_eq_ok_iff.mpr ⟨sentence, read, ?_, admitted.fitting, ?_⟩⟩
    · rw [map_fst_addresses, length_cells]
      exact ⟨admitted.addressable name member, admitted.fresh name member⟩
    · rw [length_cells]
      exact admitted.forward
    · rw [length_cells]
      exact (draft_append_singleton p ⟨label, sentence⟩).symm

/-- Lines can be laid out exactly when each can be placed behind those before it. -/
theorem laidOut_append_singleton_iff {p : Program} {entry : Entry} :
    LaidOut (p ++ [entry]) ↔ p.LaidOut ∧ p.Admits entry := by
  have names : (labels (p ++ [entry])).map (·.1) = p.labels.map (·.1) ++ entry.label.toList := by
    rw [labels_append_singleton, List.map_append]
    cases entry.label <;> rfl
  constructor
  · intro laid
    have distinct := laid.distinct
    rw [names, List.nodup_append] at distinct
    have addressable := laid.addressable
    rw [labels_append_singleton, List.forall_mem_append] at addressable
    have forward := laid.forward
    rw [layout_append_singleton, List.forall_mem_append] at forward
    have fitting := laid.fitting
    rw [List.forall_mem_append] at fitting
    refine ⟨⟨distinct.1, addressable.1, forward.1, fitting.1⟩, ?_, ?_, ?_, ?_⟩
    · intro name member known
      exact distinct.2.2 name known name (Option.mem_toList.mpr member) rfl
    · intro name member
      have defined := Option.mem_map_of_mem (fun name => (name, p.size)) member
      exact addressable.2 (name, p.size) (Option.mem_toList.mpr defined)
    · exact forward.2 _ (List.mem_singleton_self _)
    · exact fitting.2 entry (List.mem_singleton_self entry)
  · rintro ⟨laid, admitted⟩
    refine ⟨?_, ?_, ?_, ?_⟩
    · rw [names, List.nodup_append]
      refine ⟨laid.distinct, ?_, fun name known other member same => ?_⟩
      · cases entry.label <;> simp
      · rw [same] at known
        exact admitted.fresh other (Option.mem_toList.mp member) known
    · rw [labels_append_singleton, List.forall_mem_append]
      refine ⟨laid.addressable, fun definition member => ?_⟩
      obtain ⟨name, defined, rfl⟩ := Option.map_eq_some_iff.mp (Option.mem_toList.mp member)
      exact admitted.addressable name defined
    · rw [layout_append_singleton, List.forall_mem_append]
      exact ⟨laid.forward, List.forall_mem_singleton.mpr admitted.forward⟩
    · rw [List.forall_mem_append]
      exact ⟨laid.fitting, List.forall_mem_singleton.mpr admitted.fitting⟩

theorem laidOut_of_append {p q : Program} (laid : LaidOut (p ++ q)) : p.LaidOut := by
  induction q using List.reverseRecOn with
  | nil => rwa [List.append_nil] at laid
  | append_singleton q entry ih =>
    rw [← List.append_assoc] at laid
    exact ih (laidOut_append_singleton_iff.mp laid).1

theorem laidOut_nil : LaidOut [] := by
  refine ⟨List.nodup_nil, ?_, ?_, ?_⟩
  all_goals exact List.forall_mem_nil _

/-- The first pass succeeds exactly when the lines are a program that can be laid out. -/
theorem addLines_draft_eq_ok_iff {p : Program} (laid : p.LaidOut) {texts : List (List Char)}
    {d : Draft} :
    p.draft.addLines (p.length + 1) texts = .ok d ↔
      ∃ q, texts.mapM Entry.read? = some q ∧ LaidOut (p ++ q) ∧ draft (p ++ q) = d := by
  induction texts generalizing p with
  | nil => simp [Draft.addLines, laid]
  | cons text rest ih =>
    -- The program read so far grows at its end while the texts are consumed from the front.
    have behind {entry : Entry} (admitted : p.Admits entry) :=
      ih (laidOut_append_singleton_iff.mpr ⟨laid, admitted⟩)
    simp only [List.length_append, List.length_singleton, List.append_assoc,
      List.singleton_append] at behind
    constructor
    · intro added
      rw [Draft.addLines] at added
      split at added
      · next next first =>
        obtain ⟨entry, read, admitted, rfl⟩ := addLine_draft_eq_ok_iff.mp first
        obtain ⟨q, others, whole, rfl⟩ := (behind admitted).mp added
        exact ⟨entry :: q, mapM_cons_eq_some_iff.mpr ⟨entry, q, read, others, rfl⟩, whole, rfl⟩
      · contradiction
    · rintro ⟨_, read, whole, rfl⟩
      obtain ⟨entry, q, first, others, rfl⟩ := mapM_cons_eq_some_iff.mp read
      have admitted : p.Admits entry := by
        rw [List.append_cons] at whole
        exact (laidOut_append_singleton_iff.mp (laidOut_of_append whole)).2
      rw [Draft.addLines, addLine_draft_eq_ok_iff.mpr ⟨entry, first, admitted, rfl⟩]
      exact (behind admitted).mpr ⟨q, others, whole, rfl⟩

theorem map_entry_layoutFrom (line offset : Nat) (p : Program) :
    (layoutFrom line offset p).map (·.entry) = p := by
  induction p generalizing line offset with
  | nil => rfl
  | cons entry rest ih => rw [layoutFrom, List.map_cons, ih]

/-- The references of a program are its label terms, each with the line that it stands on. -/
theorem wanted_mem_cells_iff {p : Program} {name : String} {line : Nat} :
    .wanted name line ∈ p.cells ↔
      ∃ placed ∈ p.layout, placed.line = line ∧ .label name ∈ placed.entry.terms := by
  rw [cells, List.mem_flatMap]
  refine exists_congr fun placed => and_congr_right fun member => ?_
  rw [Entry.terms]
  cases placed.entry.sentence with
  | none => simp
  | some sentence =>
    exact Sentence.wanted_mem_cells_iff.trans (and_congr_left' eq_comm)

/-- Encoding the cells of a program with all its labels gives its image. -/
theorem map_byte_cells (p : Program) : p.cells.map (Cell.byte p.address) = p.image := by
  rw [cells, image, List.map_flatMap]
  congr 1
  funext placed
  rw [Placed.bytes]
  cases placed.entry.sentence with
  | none => rfl
  | some sentence => exact Sentence.map_byte_cells ..

theorem lookup_addresses (p : Program) (name : String) :
    p.addresses.lookup name = (p.labels.lookup name).map UInt8.ofNat := by
  rw [addresses]
  induction p.labels with
  | nil => rfl
  | cons definition rest ih =>
    rw [List.map_cons, List.lookup_cons, List.lookup_cons, ih]
    split <;> rfl

theorem resolve_eq_ok_iff {p : Program} (cell : Cell) (byte : UInt8) :
    cell.resolve p.addresses = .ok byte ↔
      ∃ found, some cell = some found ∧
        (∀ name line, found = .wanted name line → name ∈ p.labels.map (·.1)) ∧
        found.byte p.address = byte := by
  simp only [Option.some.injEq, exists_eq_left']
  cases cell with
  | known value => simp [Cell.resolve, Cell.byte]
  | wanted label line =>
    have known : (p.labels.lookup label).isSome ↔ label ∈ p.labels.map (·.1) := isSome_lookup_iff
    simp only [Cell.resolve, Cell.byte, lookup_addresses, address]
    cases found : p.labels.lookup label with
    | none =>
      have absent : label ∉ p.labels.map (·.1) := by
        rw [← known, found]
        exact Bool.false_ne_true
      refine ⟨fun failed => ?_, fun ⟨defined, _⟩ => absurd (defined label line rfl) absent⟩
      contradiction
    | some offset =>
      have present : label ∈ p.labels.map (·.1) := by
        rw [← known, found]
        rfl
      constructor
      · intro same
        refine ⟨fun name at? wanted => ?_, Except.ok.inj same⟩
        cases wanted
        exact present
      · rintro ⟨-, rfl⟩
        rfl

/-- The second pass succeeds exactly when all references are defined and the program fits, and then
it gives the image. -/
theorem image_draft_eq_ok_iff {p : Program} {bytes : List UInt8} :
    p.draft.image = .ok bytes ↔
      (∀ entry ∈ p, ∀ name, .label name ∈ entry.terms → name ∈ p.labels.map (·.1)) ∧
        p.size ≤ 256 ∧ p.image = bytes := by
  have all : p.cells.mapM some = some p.cells :=
    List.mapM_pure.trans (congrArg some p.cells.map_id)
  have resolved : p.cells.mapM (Cell.resolve p.addresses) = .ok bytes ↔ _ :=
    mapM_eq_ok_iff resolve_eq_ok_iff p.cells bytes
  simp only [all, Option.some.injEq, exists_eq_left', map_byte_cells] at resolved
  have wanted : (∀ cell ∈ p.cells, ∀ name line, cell = .wanted name line →
      name ∈ p.labels.map (·.1)) ↔
      ∀ entry ∈ p, ∀ name, .label name ∈ entry.terms → name ∈ p.labels.map (·.1) := by
    constructor
    · intro defined entry member name reference
      rw [← map_entry_layoutFrom 1 0 p] at member
      obtain ⟨placed, among, rfl⟩ := List.mem_map.mp member
      exact defined _ (wanted_mem_cells_iff.mpr ⟨placed, among, rfl, reference⟩) name _ rfl
    · rintro defined _ member name line rfl
      obtain ⟨placed, among, -, reference⟩ := wanted_mem_cells_iff.mp member
      refine defined placed.entry ?_ name reference
      rw [← map_entry_layoutFrom 1 0 p]
      exact List.mem_map_of_mem among
  rw [draft, Draft.image_ofCells, length_cells, memorySize]
  by_cases fits : p.size ≤ 256
  · rw [if_neg (Nat.not_lt.mpr fits), resolved, wanted]
    exact and_congr_right fun _ => (and_iff_right fits).symm
  · rw [if_pos (Nat.not_le.mp fits)]
    exact ⟨fun failed => absurd failed (by simp), fun valid => absurd valid.2.1 fits⟩

/-- A source text is assembled exactly when it is a valid program, and then to the image of this
program: in it every reference, forward or backward, is the address of its label. -/
theorem assemble_eq_ok_iff (source : String) (bytes : List UInt8) :
    assemble source = .ok bytes ↔
      ∃ p, Program.read? source = some p ∧ p.Valid ∧ p.image = bytes := by
  have first {d : Draft} : Draft.addLines {} 1 (Text.lines source.toList) = .ok d ↔
      ∃ p, Program.read? source = some p ∧ p.LaidOut ∧ p.draft = d :=
    addLines_draft_eq_ok_iff laidOut_nil
  rw [assemble, assembleChars, bind_eq_ok_iff]
  constructor
  · rintro ⟨d, added, filled⟩
    obtain ⟨p, read, laid, rfl⟩ := first.mp added
    obtain ⟨defined, fits, image⟩ := image_draft_eq_ok_iff.mp filled
    exact ⟨p, read, ⟨laid, defined, fits⟩, image⟩
  · rintro ⟨p, read, valid, image⟩
    exact ⟨p.draft, first.mpr ⟨p, read, valid.toLaidOut, rfl⟩,
      image_draft_eq_ok_iff.mpr ⟨valid.defined, valid.fits, image⟩⟩

end Program

end Ls8.Assembly
