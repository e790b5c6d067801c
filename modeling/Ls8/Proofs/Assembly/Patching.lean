import Ls8.Proofs.Assembly.FirstPass

/-! # Places that wait for labels

While a source text is read its draft only grows, and every place that waits for a label is a zero inside
of it, behind the places that have begun to wait before. So when the labels are known all these places lie
in the image, and as no two of them are the same, the order in which they are filled in makes no
difference. -/

namespace Ls8.Assembly

variable {source : String} {number : Nat}

/-! ## What a task does to a draft -/

/-- What becomes of a draft when a task is done: it gets a label at its end, or bytes, or for an operand that
is no number a place that waits. -/
inductive Task.Effect (task : Task) (d : Draft) : Draft → Prop
  | label (name : String) (room : d.bytes.length < memorySize) :
    Effect task d { d with labels := d.labels ++ [(name, .ofNat d.bytes.length)] }
  | bytes (bytes : List UInt8) : Effect task d { d with bytes := d.bytes ++ bytes }
  | reference {number : Nat} {text : List Char} (operand : task = .operand number .immediate text)
    (symbol : readNumber text = .ok none) : Effect task d (d.addItem number (.reference (nameOf text)))

theorem Task.Effect.unchanged (task : Task) (d : Draft) : task.Effect d d := by
  have none : task.Effect d { d with bytes := d.bytes ++ [] } := .bytes []
  rwa [List.append_nil] at none

theorem exists_of_define {d next : Draft} {text : List Char} (defined : d.define text = .ok next) :
    d.bytes.length < memorySize ∧
      next = { d with labels := d.labels ++ [(nameOf text, .ofNat d.bytes.length)] } := by
  rw [Draft.define] at defined
  split at defined
  · contradiction
  · split at defined
    · contradiction
    · next room =>
      split at defined
      · contradiction
      · exact ⟨Nat.not_le.mp room, (Except.ok.inj defined).symm⟩

theorem eq_of_moveTo {d next : Draft} {target : Int} (moved : d.moveTo number target = .ok next) :
    next = { d with bytes := d.bytes ++ List.replicate (target.toNat - d.bytes.length) 0 } := by
  rw [moveTo_eq, onLine_eq_ok_iff, Draft.addStatement] at moved
  split at moved
  · exact (Except.ok.inj moved).symm
  · contradiction

/-- An item of an operand is a byte, or the operand is an immediate one and no number. -/
theorem readOperand_eq_reference {kind : OperandKind} {text : List Char} {label : String}
    (read : readOperand kind text = .ok (.reference label)) :
    kind = .immediate ∧ readNumber text = .ok none ∧ nameOf text = label := by
  cases kind with
  | register =>
    rw [readOperand, map_eq_pure_bind] at read
    obtain ⟨r, -, made⟩ := bind_eq_ok_iff.mp read
    cases made
  | immediate =>
    rw [readOperand, readImmediate] at read
    obtain ⟨number?, found, made⟩ := bind_eq_ok_iff.mp read
    cases number? with
    | none => exact ⟨rfl, found, Item.reference.inj (Except.ok.inj made)⟩
    | some value =>
      simp only at made
      split at made
      · cases made
      · contradiction

theorem Task.effect_of_perform {task : Task} {d next : Draft} {left : List Task}
    (done : task.perform d = .ok (next, left)) : task.Effect d next := by
  cases task with
  | line number text =>
    rw [perform, Line.cut?_eq] at done
    obtain ⟨rfl, -⟩ := Prod.mk.inj (Except.ok.inj done)
    exact .unchanged _ _
  | label number text =>
    obtain ⟨labelled, defined, same⟩ := bind_eq_ok_iff.mp done
    obtain ⟨rfl, -⟩ := Prod.mk.inj (Except.ok.inj same)
    obtain ⟨room, rfl⟩ := exists_of_define (onLine_eq_ok_iff.mp defined)
    exact .label _ room
  | statement number text =>
    simp only [perform] at done
    split at done
    · obtain ⟨target, -, further⟩ := bind_eq_ok_iff.mp done
      obtain ⟨filled, moved, same⟩ := bind_eq_ok_iff.mp further
      obtain ⟨rfl, -⟩ := Prod.mk.inj (Except.ok.inj same)
      rw [eq_of_moveTo moved]
      exact .bytes _
    · obtain ⟨form, -, same⟩ := bind_eq_ok_iff.mp done
      obtain ⟨rfl, -⟩ := Prod.mk.inj (Except.ok.inj same)
      exact .bytes _
  | operand number kind text =>
    obtain ⟨item, read, same⟩ := bind_eq_ok_iff.mp done
    obtain ⟨rfl, -⟩ := Prod.mk.inj (Except.ok.inj same)
    cases item with
    | byte value => exact .bytes [value]
    | reference label =>
      obtain ⟨rfl, symbol, rfl⟩ := readOperand_eq_reference (onLine_eq_ok_iff.mp read)
      exact .reference rfl symbol

theorem Point.Step.effect {p q : Point} (step : p.Step q) :
    ∃ task ∈ p.tasks.head?, task.Effect p.draft q.draft := by
  obtain @⟨d, next, task, left, rest, done⟩ := step
  exact ⟨task, rfl, Task.effect_of_perform done⟩

/-! ## Drafts that grow -/

/-- A draft is the beginning of another. -/
structure Draft.GrowsInto (d next : Draft) : Prop where
  labels : d.labels <+: next.labels
  references : d.references <+: next.references
  bytes : d.bytes <+: next.bytes

theorem Draft.GrowsInto.refl (d : Draft) : d.GrowsInto d :=
  ⟨List.prefix_rfl, List.prefix_rfl, List.prefix_rfl⟩

theorem Draft.GrowsInto.trans {d next last : Draft} (first : d.GrowsInto next)
    (second : next.GrowsInto last) : d.GrowsInto last where
  labels := first.labels.trans second.labels
  references := first.references.trans second.references
  bytes := first.bytes.trans second.bytes

theorem Task.Effect.growsInto {task : Task} {d next : Draft} (effect : task.Effect d next) :
    d.GrowsInto next := by
  cases effect with
  | label name room => exact ⟨List.prefix_append .., List.prefix_rfl, List.prefix_rfl⟩
  | bytes bytes => exact ⟨List.prefix_rfl, List.prefix_rfl, List.prefix_append ..⟩
  | reference operand symbol => exact ⟨List.prefix_rfl, List.prefix_append .., List.prefix_append ..⟩

theorem Point.Leads.growsInto {p q : Point} (leads : p.Leads q) : p.draft.GrowsInto q.draft := by
  induction leads with
  | refl => exact .refl p.draft
  | tail _ step ih =>
    obtain ⟨task, -, effect⟩ := step.effect
    exact ih.trans effect.growsInto

/-! ## Places that wait -/

/-- The places of a draft that wait for a label are zeros of its bytes, one behind the other, and no label
stands behind the end of the bytes. -/
structure Draft.Sound (d : Draft) : Prop where
  increasing : d.references.Pairwise fun first second => first.offset < second.offset
  zero : ∀ place ∈ d.references, d.bytes[place.offset]? = some 0
  labels : ∀ label ∈ d.labels, label.2.toNat ≤ d.bytes.length

theorem Draft.sound_empty : Draft.Sound {} where
  increasing := .nil
  zero := List.forall_mem_nil _
  labels := List.forall_mem_nil _

section Sound

variable {d next : Draft}

theorem Draft.Sound.within (sound : d.Sound) {place : Reference} (member : place ∈ d.references) :
    place.offset < d.bytes.length := (List.getElem?_eq_some_iff.mp (sound.zero place member)).1

theorem Draft.Sound.append_bytes (sound : d.Sound) (bytes : List UInt8) :
    Sound { d with bytes := d.bytes ++ bytes } where
  increasing := sound.increasing
  zero := fun place member => by
    rw [List.getElem?_append_left (sound.within member)]
    exact sound.zero place member
  labels := fun label member => by
    rw [List.length_append]
    exact (sound.labels label member).trans (Nat.le_add_right ..)

theorem Task.Effect.sound {task : Task} (effect : task.Effect d next) (sound : d.Sound) : next.Sound := by
  cases effect with
  | label name room =>
    refine ⟨sound.increasing, sound.zero, List.forall_mem_append.mpr ⟨sound.labels, ?_⟩⟩
    intro label member
    obtain rfl := List.mem_singleton.mp member
    exact (UInt8.toNat_ofNat_of_lt' room).le
  | bytes bytes => exact sound.append_bytes bytes
  | @reference number text operand symbol =>
    have longer := sound.append_bytes [0]
    refine ⟨List.pairwise_append.mpr ⟨sound.increasing, List.pairwise_singleton _ _, ?_⟩,
      List.forall_mem_append.mpr ⟨longer.zero, ?_⟩, longer.labels⟩
    · intro place earlier last member
      obtain rfl := List.mem_singleton.mp member
      exact sound.within earlier
    · intro last member
      obtain rfl := List.mem_singleton.mp member
      exact List.getElem?_concat_length

end Sound

theorem Visits.sound {p : Point} (visited : Visits source p) : p.draft.Sound := by
  induction visited with
  | refl => exact Draft.sound_empty
  | tail _ step ih =>
    obtain ⟨task, -, effect⟩ := step.effect
    exact effect.sound ih

/-- A place that waits at a point has come from an earlier one, where it was the turn of an immediate
operand that is no number, with a zero for it at the end of the bytes. -/
def Emitted (source : String) (p : Point) (place : Reference) : Prop :=
  ∃ (before after : Point) (text : List Char), Visits source before ∧ before.Step after ∧ after.Leads p ∧
    before.tasks.head? = some (.operand place.line .immediate text) ∧ readNumber text = .ok none ∧
      place.label = nameOf text ∧ place.offset = before.draft.bytes.length ∧
        after.draft = { before.draft with
          references := before.draft.references ++ [place]
          bytes := before.draft.bytes ++ [0] }

theorem Emitted.step {p q : Point} {place : Reference} (emitted : Emitted source p place)
    (step : p.Step q) : Emitted source q place := by
  obtain ⟨before, after, text, visited, first, leads, rest⟩ := emitted
  exact ⟨before, after, text, visited, first, leads.tail step, rest⟩

theorem Visits.emitted {p : Point} (visited : Visits source p) :
    ∀ place ∈ p.draft.references, Emitted source p place := by
  induction visited with
  | refl => exact List.forall_mem_nil _
  | @tail p q visited step ih =>
    obtain ⟨task, turn, effect⟩ := step.effect
    generalize same : q.draft = next at effect
    cases effect with
    | label name room => exact fun place member => (ih place member).step step
    | bytes bytes => exact fun place member => (ih place member).step step
    | @reference number text operand symbol =>
      subst operand
      -- Only this step adds a place, and then it is the step that the place has come from.
      intro place member
      rcases List.mem_append.mp member with earlier | new
      · exact (ih place earlier).step step
      · obtain rfl := List.mem_singleton.mp new
        exact ⟨p, q, text, visited, step, .refl, turn, symbol, rfl, rfl, same⟩

/-! ## Filling in -/

/-- Fills in a waiting place, which is to lie in the image. -/
def Draft.patch (d : Draft) (image : List UInt8) (place : Reference) : Except Fault (List UInt8) :=
  match d.labels.lookup place.label with
  | some address =>
    if place.offset < image.length then .ok (image.set place.offset address) else .error .outOfRange
  | none => .error (.refused (.undefinedLabel place.line place.label))

/-- The image of a draft with waiting places filled in one after the other. -/
def Draft.patched (d : Draft) (places : List Reference) : Except Fault (List UInt8) :=
  if memorySize < d.bytes.length then .error (.refused (.programTooLarge d.bytes.length))
  else places.foldlM d.patch d.bytes

/-- The assembler comes to a result: the first pass ends, and if it has left a draft the places that wait
are filled in in their order. -/
def Assembles (source : String) (result : Except Fault (List UInt8)) : Prop :=
  ∃ first, (Point.start source).Ends first ∧ (first >>= fun d => d.patched d.references) = result

section Patch

variable {d : Draft} {places others : List Reference} {image bytes : List UInt8}

theorem mapError_refused_ne_outOfRange {α : Type} {x : Except Error α} :
    x.mapError Fault.refused ≠ .error .outOfRange := by
  cases x <;> simp [Except.mapError]

/-- Places in the image are filled in as if nothing could go wrong with them. -/
theorem foldlM_patch (within : ∀ place ∈ places, place.offset < image.length) :
    places.foldlM d.patch image = (places.foldlM d.fillIn image).mapError .refused := by
  induction places generalizing image with
  | nil => rfl
  | cons place rest ih =>
    obtain ⟨inside, others⟩ := List.forall_mem_cons.mp within
    rw [List.foldlM_cons, List.foldlM_cons, Draft.patch, Draft.fillIn]
    cases d.labels.lookup place.label with
    | none => rfl
    | some address =>
      simp only [if_pos inside, ok_bind]
      refine ih fun place member => ?_
      rw [List.length_set]
      exact others place member

/-- The bytes with the address of a label at a place. -/
def Draft.written (d : Draft) (image : List UInt8) (place : Reference) : List UInt8 :=
  image.set place.offset ((d.labels.lookup place.label).getD 0)

theorem foldlM_fillIn_eq_ok_iff :
    places.foldlM d.fillIn image = .ok bytes ↔
      (∀ place ∈ places, (d.labels.lookup place.label).isSome) ∧ places.foldl d.written image = bytes := by
  induction places generalizing image with
  | nil => simp
  | cons place rest ih =>
    rw [List.foldlM_cons, List.forall_mem_cons, List.foldl_cons, Draft.fillIn, Draft.written]
    cases d.labels.lookup place.label with
    | none => simp
    | some address => simp [ih]

/-- The order in which places are filled in makes no difference if no two of them are the same. -/
theorem foldlM_fillIn_eq_ok_iff_of_perm
    (increasing : places.Pairwise fun first second => first.offset < second.offset)
    (perm : others.Perm places) :
    others.foldlM d.fillIn image = .ok bytes ↔ places.foldlM d.fillIn image = .ok bytes := by
  have distinct : (places.map (·.offset)).Nodup :=
    List.pairwise_map.mpr (increasing.imp Nat.ne_of_lt)
  have commute : ∀ first ∈ others, ∀ second ∈ others, ∀ image,
      d.written (d.written image first) second = d.written (d.written image second) first := by
    intro first one second other image
    by_cases same : first.offset = second.offset
    · rw [List.inj_on_of_nodup_map distinct (perm.mem_iff.mp one) (perm.mem_iff.mp other) same]
    · exact List.set_comm _ _ same
  rw [foldlM_fillIn_eq_ok_iff, foldlM_fillIn_eq_ok_iff, perm.foldl_eq' commute]
  simp only [perm.mem_iff]

/-- The waiting places of a draft are filled in in any order without reaching outside of the image. -/
theorem Draft.Sound.patched_eq (sound : d.Sound) (perm : places.Perm d.references) :
    d.patched places =
      (if memorySize < d.bytes.length then .error (.programTooLarge d.bytes.length)
        else places.foldlM d.fillIn d.bytes).mapError .refused := by
  have filled : places.foldlM d.patch d.bytes = (places.foldlM d.fillIn d.bytes).mapError .refused :=
    foldlM_patch fun place member => sound.within (perm.mem_iff.mp member)
  rw [Draft.patched, filled]
  split <;> rfl

/-- They are filled in to the image of the draft, or there is none. -/
theorem Draft.Sound.patched_eq_ok_iff (sound : d.Sound) (perm : places.Perm d.references) :
    d.patched places = .ok image ↔ d.image = .ok image := by
  rw [sound.patched_eq perm, mapError_eq_ok_iff, Draft.image]
  split
  · rfl
  · exact foldlM_fillIn_eq_ok_iff_of_perm sound.increasing perm

end Patch

/-! ## The assembler -/

theorem Point.Leads.ends {p q : Point} {result : Except Fault Draft} (leads : p.Leads q)
    (ends : q.Ends result) : p.Ends result := by
  induction leads using Relation.ReflTransGen.head_induction_on with
  | refl => exact ends
  | head step _ ih => exact .step step ih

/-- No task of the first pass reaches out of range. -/
theorem Visits.perform_ne {p : Point} (visited : Visits source p) {task : Task}
    (turn : task ∈ p.tasks.head?) : task.perform p.draft ≠ .error .outOfRange := by
  intro failed
  obtain ⟨d, - | ⟨task, rest⟩⟩ := p
  · contradiction
  · obtain rfl := Option.some.inj turn
    have ends := visited.ends (.stopped failed)
    exact mapError_refused_ne_outOfRange (Point.ends_start_iff.mp ends).symm

/-- A draft with which the first pass ends is the one that the lines are read to. -/
theorem Visits.addLines_eq {d : Draft} (visited : Visits source ⟨d, []⟩) :
    Draft.addLines {} 1 (Text.lines source.toList) = .ok d :=
  mapError_eq_ok_iff.mp (Point.ends_start_iff.mp (visited.ends (.finished d))).symm

/-- The assembler comes to one result, that of the source text. -/
theorem assembles_iff {result : Except Fault (List UInt8)} :
    Assembles source result ↔ (assemble source).mapError .refused = result := by
  have same : ((Draft.addLines {} 1 (Text.lines source.toList)).mapError .refused >>= fun d =>
      d.patched d.references) = (assemble source).mapError .refused := by
    rw [assemble, assembleChars]
    cases read : Draft.addLines {} 1 (Text.lines source.toList) with
    | error e => rfl
    | ok d =>
      have ends : (Point.start source).Ends (.ok d) := by
        rw [Point.ends_start_iff, read]
        rfl
      have sound : d.Sound := Visits.sound ends.leads
      exact sound.patched_eq (List.Perm.refl _)
  rw [← same]
  constructor
  · rintro ⟨first, ends, rfl⟩
    rw [Point.ends_start_iff.mp ends]
  · rintro rfl
    exact ⟨_, Point.ends_start_iff.mpr rfl, rfl⟩

/-- Filling in is always in bounds. At every point of the first pass over any source text the places that wait
stand one behind the other below the end of the bytes, each is a zero that an immediate operand has put
there, no label is behind the end of the bytes, and from there on bytes, places and labels are only added
and the next task reaches nowhere out of range. When the pass has ended the places are filled in, in any
order, without reaching outside of the image, and to the image of the text if it has one. So the assembler
always comes to the image or the error of the text, and to nothing else. -/
theorem patching_in_bounds (source : String) :
    (∀ p, Visits source p →
      p.draft.references.Pairwise (fun first second => first.offset < second.offset) ∧
      (∀ place ∈ p.draft.references, place.offset < p.draft.bytes.length ∧
        p.draft.bytes[place.offset]? = some 0 ∧ Emitted source p place) ∧
      (∀ label ∈ p.draft.labels, label.2.toNat ≤ p.draft.bytes.length) ∧
      (∀ q, p.Leads q → p.draft.GrowsInto q.draft) ∧
      ∀ task ∈ p.tasks.head?, task.perform p.draft ≠ .error .outOfRange) ∧
    (∀ d, Visits source ⟨d, []⟩ → ∀ places, places.Perm d.references →
      d.patched places ≠ .error .outOfRange ∧
      ∀ image, d.patched places = .ok image ↔ assemble source = .ok image) ∧
    ¬Assembles source (.error .outOfRange) ∧
    ∀ result, Assembles source result ↔ (assemble source).mapError .refused = result := by
  refine ⟨fun p visited => ?_, fun d visited places perm => ?_, ?_, fun result => assembles_iff⟩
  · have sound := visited.sound
    exact ⟨sound.increasing,
      fun place member => ⟨sound.within member, sound.zero place member, visited.emitted place member⟩,
      sound.labels, fun q leads => leads.growsInto, fun task turn => visited.perform_ne turn⟩
  · have sound : d.Sound := visited.sound
    refine ⟨?_, fun image => ?_⟩
    · rw [sound.patched_eq perm]
      exact mapError_refused_ne_outOfRange
    · rw [sound.patched_eq_ok_iff perm, assemble, assembleChars, visited.addLines_eq, ok_bind]
  · rw [assembles_iff]
    exact mapError_refused_ne_outOfRange

/-- Two places on both sides of an origin wait for labels behind them, and are filled in from the last to the
first. -/
theorem forward_references_filled_in_backwards :
    let source := "LDI R0,END\nORG 4\nDB END,TAIL\nEND: HLT\nTAIL:"
    let d : Draft :=
      { labels := [("END", 6), ("TAIL", 7)]
        references := [⟨2, "END", 1⟩, ⟨4, "END", 3⟩, ⟨5, "TAIL", 3⟩]
        bytes := [0x82, 0, 0, 0, 0, 0, 1] }
    Visits source ⟨d, []⟩ ∧ d.patched d.references.reverse = .ok [0x82, 0, 6, 0, 6, 7, 1] := by
  intro source d
  have ends : (Point.start source).Ends (.ok d) := Point.ends_start_iff.mpr (by decide)
  obtain ⟨-, filled, -, -⟩ := patching_in_bounds source
  have whole : assemble source = .ok [0x82, 0, 6, 0, 6, 7, 1] := by decide
  exact ⟨ends.leads, ((filled d ends.leads _ (List.reverse_perm _)).2 _).mpr whole⟩

end Ls8.Assembly
