import Mathlib.Data.List.Induction
import Ls8.Proofs.Machine.Cells
import Ls8.Proofs.Machine.Modes

/-! # The stack

The stack of a machine is a list of bytes that grows downwards in memory from where the stack pointer
stood at first. In a wrapping machine it has room for all 256 cells, in a trapping machine for the
cells below the first stack pointer. `ListStack` is a stack that knows nothing of memory; whatever is
pushed and popped, in any order, a machine answers as it does. -/

namespace Ls8

/-- A call on a stack. -/
inductive StackCall
  | push (value : UInt8)
  | pop
  deriving DecidableEq, Repr

/-- Calls one after the other: the answer to each of them, and what is left after them. -/
def StackCall.all {σ α : Type} (answer : σ → StackCall → α × σ) : σ → List StackCall → List α × σ
  | s, [] => ([], s)
  | s, call :: rest =>
    let (first, next) := answer s call
    let (others, last) := all answer next rest
    (first :: others, last)

theorem StackCall.all_append_singleton {σ α : Type} (answer : σ → StackCall → α × σ) (s : σ)
    (calls : List StackCall) (call : StackCall) :
    all answer s (calls ++ [call]) =
      ((all answer s calls).1 ++ [(answer (all answer s calls).2 call).1],
        (answer (all answer s calls).2 call).2) := by
  induction calls generalizing s with
  | nil => rfl
  | cons first rest ih =>
    simp only [List.cons_append, all, ih]

/-! ## Stacks that are lists -/

/-- A stack that is a list, its top first, and the greatest depth that it has had. -/
structure ListStack where
  held : List UInt8 := []
  peak : Nat := 0

namespace ListStack

/-- The number of bytes pushed and not yet popped. -/
def depth (s : ListStack) : Nat := s.held.length

/-- A call on a stack with room for a number of bytes. The answer to a pop is a byte, to a push it is
none; a push for which there is no room and a pop of nothing are refused and change nothing. -/
def answer (room : Nat) (s : ListStack) : StackCall → Option (Option UInt8) × ListStack
  | .push value =>
    if s.depth < room then (some none, ⟨value :: s.held, max s.peak (s.depth + 1)⟩) else (none, s)
  | .pop =>
    match s.held with
    | [] => (none, s)
    | top :: rest => (some (some top), { s with held := rest })

/-- An empty stack after calls. -/
def after (room : Nat) (calls : List StackCall) : ListStack := (StackCall.all (answer room) {} calls).2

end ListStack

/-! ## Stacks in memory -/

namespace Registers

theorem set_set (rs : Registers) (r : Register) (first second : UInt8) :
    (rs.set r first).set r second = rs.set r second := by
  apply ext_get
  · intro other
    simp only [get_set]
    split <;> rfl
  · rfl
  · rfl

theorem set_get (rs : Registers) (r : Register) : rs.set r (rs.get r) = rs := by
  apply ext_get
  · intro other
    rw [get_set]
    split
    · next same => rw [same]
    · rfl
  · rfl
  · rfl

end Registers

namespace Cpu

/-- A call on the stack of a machine. -/
def answer (c : Cpu) : StackCall → Except Overflow (Option UInt8) × Cpu
  | .push value =>
    match (push value).run c with
    | .ok () next => (.ok none, next)
    | .error reason next => (.error reason, next)
  | .pop =>
    match pop.run c with
    | .ok top next => (.ok (some top), next)
    | .error reason next => (.error reason, next)

/-- The number of bytes for which there is room on the stack of a machine. -/
def stackRoom (c : Cpu) : Nat :=
  match c.mode with
  | .wrap => memorySize
  | .trap => c.registers.stackPointer.toNat

/-- A call keeps the depth of the stack within its bounds: nothing is popped from an empty stack, and
where the pointer wraps nothing is pushed on a stack that takes up all cells. -/
def StackAdmits (c : Cpu) (depth : Nat) : StackCall → Prop
  | .push _ => c.mode = .wrap → depth < memorySize
  | .pop => 0 < depth

instance (c : Cpu) (depth : Nat) (call : StackCall) : Decidable (c.StackAdmits depth call) :=
  match call with
  | .push _ => inferInstanceAs (Decidable (_ → _))
  | .pop => inferInstanceAs (Decidable (0 < depth))

/-- The depth stays within its bounds during all calls. -/
def StackStays (c : Cpu) (calls : List StackCall) : Prop :=
  ∀ k, (within : k < calls.length) →
    c.StackAdmits (ListStack.after c.stackRoom (calls.take k)).depth calls[k]

instance (c : Cpu) (calls : List StackCall) : Decidable (c.StackStays calls) :=
  Nat.decidableBallLT ..

/-- A machine differs from `c` by a stack only, which begins below the stack pointer of `c`. -/
structure HoldsStack (c : Cpu) (s : ListStack) (d : Cpu) : Prop where
  rest : d = { c with
    registers := c.registers.setStackPointer (c.registers.stackPointer - UInt8.ofNat s.depth)
    memory := d.memory }
  held : d.memory.slice (c.registers.stackPointer - UInt8.ofNat s.depth) s.depth = s.held
  deepest : s.depth ≤ s.peak
  within : s.depth ≤ c.stackRoom
  kept : ∀ address, (∀ k, 0 < k → k ≤ s.peak →
    address ≠ c.registers.stackPointer - UInt8.ofNat k) →
      d.memory.read address = c.memory.read address

theorem stackRoom_le (c : Cpu) : c.stackRoom ≤ memorySize := by
  rw [stackRoom]
  split
  · exact Nat.le_refl _
  · exact Nat.le_of_lt c.registers.stackPointer.toNat_lt

theorem toNat_pointer_of_trap {c : Cpu} (traps : c.mode = .trap) {depth : Nat}
    (within : depth ≤ c.stackRoom) :
    (c.registers.stackPointer - UInt8.ofNat depth).toNat =
      c.registers.stackPointer.toNat - depth := by
  simp only [stackRoom, traps] at within
  have bound := c.registers.stackPointer.toNat_lt
  have small : (UInt8.ofNat depth).toNat = depth :=
    UInt8.toNat_ofNat_of_lt' (Nat.lt_of_le_of_lt within bound)
  rw [UInt8.toNat_sub_of_le _ _ (UInt8.le_iff_toNat_le.mpr (by omega)), small]

namespace HoldsStack

variable {c d : Cpu} {s : ListStack}

theorem empty (c : Cpu) : c.HoldsStack {} c where
  rest := by
    have pointer : c.registers.setStackPointer (c.registers.stackPointer - UInt8.ofNat 0) =
        c.registers := by
      rw [show c.registers.stackPointer - UInt8.ofNat 0 = c.registers.stackPointer from
        UInt8.sub_zero _]
      exact c.registers.set_get Register.stackPointer
    exact congrArg (fun registers => { c with registers }) pointer.symm
  held := rfl
  deepest := Nat.le_refl 0
  within := Nat.zero_le _
  kept _ _ := rfl

theorem pointer (holds : c.HoldsStack s d) :
    d.registers.stackPointer = c.registers.stackPointer - UInt8.ofNat s.depth := by
  rw [holds.rest]
  exact Registers.get_set_self ..

theorem mode (holds : c.HoldsStack s d) : d.mode = c.mode := by
  rw [holds.rest]

/-- The machine when its stack pointer has moved and its memory has changed. -/
theorem moved (holds : c.HoldsStack s d) (address : UInt8) (memory : Memory) :
    { d with registers := d.registers.setStackPointer address, memory } =
      { c with registers := c.registers.setStackPointer address, memory } := by
  rw [holds.rest]
  simp only [Registers.setStackPointer, Registers.set_set]

theorem pointer_succ (base : UInt8) (depth : Nat) :
    base - UInt8.ofNat (depth + 1) + 1 = base - UInt8.ofNat depth := by
  rw [UInt8.ofNat_add]
  grind

/-- The pointer can go down while there is room. -/
theorem apply_subtract (holds : c.HoldsStack s d) (room : s.depth < c.stackRoom) :
    d.mode.apply .subtract d.registers.stackPointer 1 =
      .ok (c.registers.stackPointer - UInt8.ofNat (s.depth + 1)) := by
  have next : c.registers.stackPointer - UInt8.ofNat s.depth - 1 =
      c.registers.stackPointer - UInt8.ofNat (s.depth + 1) := by
    rw [← pointer_succ _ s.depth, UInt8.add_sub_cancel]
  rw [holds.mode, holds.pointer, ← next]
  cases mode : c.mode with
  | wrap => exact OverflowMode.apply_wrap ..
  | trap =>
    have low := toNat_pointer_of_trap mode (Nat.le_of_lt room)
    simp only [stackRoom, mode] at room
    rw [OverflowMode.apply_trap, if_pos]
    · rfl
    by_contra misfit
    rw [Operation.not_fits_subtract_one.mp misfit, UInt8.toNat_zero] at low
    omega

/-- The pointer of a trapping machine cannot go down when there is no room left. -/
theorem apply_subtract_of_full (holds : c.HoldsStack s d) (traps : c.mode = .trap)
    (full : ¬s.depth < c.stackRoom) :
    d.mode.apply .subtract d.registers.stackPointer 1 = .error ⟨.subtract, 0, 1⟩ := by
  have low := toNat_pointer_of_trap traps holds.within
  have within := holds.within
  simp only [stackRoom, traps] at full within
  have zero : c.registers.stackPointer - UInt8.ofNat s.depth = 0 := by
    apply UInt8.toNat_inj.mp
    rw [low, UInt8.toNat_zero]
    omega
  rw [holds.mode, holds.pointer, zero, traps]
  decide

/-- The pointer can go up again behind every byte that is held. -/
theorem apply_add (holds : c.HoldsStack s d) {depth : Nat} (deeper : s.depth = depth + 1) :
    d.mode.apply .add d.registers.stackPointer 1 =
      .ok (c.registers.stackPointer - UInt8.ofNat depth) := by
  rw [holds.mode, holds.pointer, deeper, ← pointer_succ _ depth]
  cases mode : c.mode with
  | wrap => exact OverflowMode.apply_wrap ..
  | trap =>
    have high := toNat_pointer_of_trap mode holds.within
    have within := holds.within
    have bound := c.registers.stackPointer.toNat_lt
    simp only [stackRoom, mode] at within
    rw [OverflowMode.apply_trap, if_pos]
    · rfl
    by_contra misfit
    rw [deeper, Operation.not_fits_add_one.mp misfit] at high
    change 255 = _ at high
    omega

/-- A byte is pushed while there is room. -/
theorem push (holds : c.HoldsStack s d) (value : UInt8) (room : s.depth < c.stackRoom) :
    ∃ next, (Cpu.push value).run d = .ok () next ∧
      c.HoldsStack ⟨value :: s.held, max s.peak (s.depth + 1)⟩ next := by
  have small : s.depth < memorySize := Nat.lt_of_lt_of_le room c.stackRoom_le
  refine ⟨_, by rw [run_push, holds.apply_subtract room], ?_⟩
  constructor
  case rest => exact holds.moved _ _
  case held =>
    change (d.memory.write _ value).slice (c.registers.stackPointer - UInt8.ofNat (s.depth + 1))
      (s.depth + 1) = value :: s.held
    rw [Memory.slice, Memory.read_write_self, Memory.slice_write, pointer_succ, holds.held]
    intro place within
    rw [add_one_add_ofNat]
    exact add_ofNat_ne_self _ (Nat.zero_lt_succ place) (by omega)
  case deepest => exact Nat.le_max_right ..
  case within => exact room
  case kept =>
    intro address outside
    have other := outside (s.depth + 1) (Nat.zero_lt_succ _) (Nat.le_max_right ..)
    refine (Memory.read_write_of_ne d.memory value other).trans (holds.kept address ?_)
    intro k positive below
    exact outside k positive (Nat.le_trans below (Nat.le_max_left ..))

theorem push_of_full (holds : c.HoldsStack s d) (value : UInt8) (traps : c.mode = .trap)
    (full : ¬s.depth < c.stackRoom) :
    (Cpu.push value).run d = .error ⟨.subtract, 0, 1⟩ d := by
  rw [run_push, holds.apply_subtract_of_full traps full]

/-- The byte that was pushed last is popped. -/
theorem pop (holds : c.HoldsStack s d) {top : UInt8} {others : List UInt8}
    (held : s.held = top :: others) :
    ∃ next, Cpu.pop.run d = .ok top next ∧ c.HoldsStack { s with held := others } next := by
  have deeper : s.depth = others.length + 1 := by rw [ListStack.depth, held, List.length_cons]
  have cells := holds.held
  rw [deeper, held, Memory.slice, ← deeper, ← holds.pointer] at cells
  obtain ⟨read, below⟩ := List.cons.inj cells
  refine ⟨_, by rw [run_pop, holds.apply_add deeper, read], ?_⟩
  constructor
  case rest => exact holds.moved _ d.memory
  case held =>
    rw [holds.pointer, deeper, pointer_succ] at below
    exact below
  case deepest =>
    have deepest := holds.deepest
    change others.length ≤ s.peak
    omega
  case within =>
    have within := holds.within
    change others.length ≤ c.stackRoom
    omega
  case kept => exact holds.kept

/-- A machine answers a call as the stack does that it holds, and goes on holding it. -/
theorem answer (holds : c.HoldsStack s d) (call : StackCall)
    (admits : c.StackAdmits s.depth call) :
    (d.answer call).1 = (match (s.answer c.stackRoom call).1 with
      | some value => .ok value
      | none => .error ⟨.subtract, 0, 1⟩) ∧
    c.HoldsStack (s.answer c.stackRoom call).2 (d.answer call).2 := by
  cases call with
  | push value =>
    by_cases room : s.depth < c.stackRoom
    · obtain ⟨next, pushed, after⟩ := holds.push value room
      simp only [Cpu.answer, pushed, ListStack.answer, if_pos room]
      exact ⟨trivial, after⟩
    · have traps : c.mode = .trap := by
        cases mode : c.mode with
        | wrap =>
          simp only [stackRoom, mode] at room
          exact absurd (admits mode) room
        | trap => rfl
      simp only [Cpu.answer, holds.push_of_full value traps room, ListStack.answer, if_neg room]
      exact ⟨trivial, holds⟩
  | pop =>
    cases held : s.held with
    | nil =>
      rw [ListStack.depth, held] at admits
      contradiction
    | cons top others =>
      obtain ⟨next, popped, after⟩ := holds.pop held
      simp only [Cpu.answer, popped, ListStack.answer, held]
      exact ⟨trivial, after⟩

end HoldsStack

/-! ## Sequences of calls -/

theorem stackStays_append_singleton {c : Cpu} {calls : List StackCall} {call : StackCall}
    (stays : c.StackStays (calls ++ [call])) :
    c.StackStays calls ∧ c.StackAdmits (ListStack.after c.stackRoom calls).depth call := by
  constructor
  · intro k within
    have earlier := stays k (by rw [List.length_append]; exact Nat.lt_add_right _ within)
    rwa [List.take_append_of_le_length (Nat.le_of_lt within),
      List.getElem_append_left within] at earlier
  · have last := stays calls.length (by simp)
    rwa [List.take_left, List.getElem_concat_length rfl] at last

/-- Whatever is pushed and popped, a machine holds the stack that has been built, and has answered
as that stack has. -/
theorem holdsStack_all {c : Cpu} {calls : List StackCall} (stays : c.StackStays calls) :
    (StackCall.all answer c calls).1 =
        (StackCall.all (ListStack.answer c.stackRoom) {} calls).1.map (fun
          | some value => .ok value
          | none => .error ⟨.subtract, 0, 1⟩) ∧
      c.HoldsStack (ListStack.after c.stackRoom calls) (StackCall.all answer c calls).2 := by
  induction calls using List.reverseRecOn with
  | nil => exact ⟨rfl, .empty c⟩
  | append_singleton calls call ih =>
    obtain ⟨earlier, admits⟩ := stackStays_append_singleton stays
    obtain ⟨answers, holds⟩ := ih earlier
    obtain ⟨last, after⟩ := holds.answer call admits
    rw [ListStack.after, StackCall.all_append_singleton, StackCall.all_append_singleton,
      List.map_append, ← answers]
    exact ⟨congrArg (_ ++ [·]) last, after⟩

/-- Where the pointer wraps no call fails, however deep the stack is. -/
theorem answer_of_wrap {c : Cpu} (wraps : c.mode = .wrap) (call : StackCall) :
    (∃ value, (c.answer call).1 = .ok value) ∧ (c.answer call).2.mode = .wrap := by
  cases call with
  | push value =>
    obtain ⟨next, pushed, wrapping⟩ :
        ∃ next, (push value).run c = .ok () next ∧ next.mode = .wrap := by
      refine ⟨_, by rw [run_push, wraps, OverflowMode.apply_wrap], ?_⟩
      exact wraps
    simp only [answer, pushed]
    exact ⟨⟨none, rfl⟩, wrapping⟩
  | pop =>
    obtain ⟨top, next, popped, wrapping⟩ :
        ∃ top next, pop.run c = .ok top next ∧ next.mode = .wrap := by
      refine ⟨_, _, by rw [run_pop, wraps, OverflowMode.apply_wrap], ?_⟩
      exact wraps
    simp only [answer, popped]
    exact ⟨⟨_, rfl⟩, wrapping⟩

theorem all_answer_of_wrap {c : Cpu} (wraps : c.mode = .wrap) (calls : List StackCall) :
    ∀ result ∈ (StackCall.all answer c calls).1, ∃ value, result = .ok value := by
  induction calls generalizing c with
  | nil => nofun
  | cons call rest ih =>
    obtain ⟨answered, wrapping⟩ := answer_of_wrap wraps call
    exact List.forall_mem_cons.mpr ⟨answered, ih wrapping⟩

namespace HoldsStack

variable {c d : Cpu} {s : ListStack}

/-- A push fails only for want of room, and only in a trapping machine. -/
theorem push_fails_iff (holds : c.HoldsStack s d) (value : UInt8) :
    (∃ reason next, (Cpu.push value).run d = .error reason next) ↔
      c.mode = .trap ∧ s.depth = c.registers.stackPointer.toNat := by
  constructor
  · rintro ⟨reason, next, failed⟩
    cases mode : c.mode with
    | wrap =>
      have wraps : d.mode = .wrap := holds.mode.trans mode
      rw [run_push, wraps, OverflowMode.apply_wrap] at failed
      contradiction
    | trap =>
      have within := holds.within
      have full : ¬s.depth < c.stackRoom := by
        intro room
        obtain ⟨next, pushed, -⟩ := holds.push value room
        rw [pushed] at failed
        contradiction
      simp only [stackRoom, mode] at within full
      exact ⟨rfl, by omega⟩
  · rintro ⟨traps, depth⟩
    have full : ¬s.depth < c.stackRoom := by
      simp only [stackRoom, traps]
      omega
    exact ⟨_, _, holds.push_of_full value traps full⟩

theorem exists_pop (holds : c.HoldsStack s d) (filled : 0 < s.depth) :
    ∃ top next, Cpu.pop.run d = .ok top next := by
  obtain ⟨top, others, held⟩ := List.exists_cons_of_length_pos filled
  obtain ⟨next, popped, -⟩ := holds.pop held
  exact ⟨top, next, popped⟩

end HoldsStack

/-- The overflow of a push is found before anything is written. -/
theorem cpu_of_failed_push {c next : Cpu} {value : UInt8} {reason : Overflow}
    (failed : (push value).run c = .error reason next) : next = c := by
  rw [run_push] at failed
  cases applied : c.mode.apply .subtract c.registers.stackPointer 1 with
  | ok top =>
    rw [applied] at failed
    contradiction
  | error overflow =>
    rw [applied] at failed
    cases failed
    rfl

/-- A machine is a stack. As long as the depth stays within its bounds, the machine answers whatever
is pushed and popped as a list does, and its stack pointer stands as far below its first place as the
stack is deep; nothing is changed besides but the cells down to the greatest depth. If the pointer wraps
no call fails. If it traps, a push fails exactly when it stands at zero, which changes nothing, and no
byte that has been pushed fails to be popped. -/
theorem stack_answers_as_list {c : Cpu} {calls : List StackCall} (stays : c.StackStays calls) :
    let base := c.registers.stackPointer
    let stack := ListStack.after c.stackRoom calls
    let results := (StackCall.all answer c calls).1
    let final := (StackCall.all answer c calls).2
    results = (StackCall.all (ListStack.answer c.stackRoom) {} calls).1.map (fun
        | some value => .ok value
        | none => .error ⟨.subtract, 0, 1⟩) ∧
      (c.mode = .wrap → ∀ result ∈ results, ∃ value, result = .ok value) ∧
      (∀ value, ((∃ reason next, (push value).run final = .error reason next) ↔
          c.mode = .trap ∧ stack.depth = base.toNat) ∧
        ∀ reason next, (push value).run final = .error reason next → next = final) ∧
      (0 < stack.depth → ∃ top next, pop.run final = .ok top next) ∧
      stack.depth ≤ c.stackRoom ∧
      final = { c with
        registers := c.registers.setStackPointer (base - UInt8.ofNat stack.depth)
        memory := final.memory } ∧
      ∀ address, (∀ k, 0 < k → k ≤ stack.peak → address ≠ base - UInt8.ofNat k) →
        final.memory.read address = c.memory.read address := by
  intro base stack results final
  obtain ⟨answers, holds⟩ := holdsStack_all stays
  refine ⟨answers, fun wraps => all_answer_of_wrap wraps calls, fun value => ⟨?_, ?_⟩,
    holds.exists_pop, holds.within, holds.rest, holds.kept⟩
  · exact holds.push_fails_iff value
  · exact fun reason next => cpu_of_failed_push

/-- A trapping machine with two cells below its stack, which refuses a third byte. -/
theorem stack_of_two_cells :
    let c : Cpu := (powerOn .trap).point 2
    let calls : List StackCall := [.push 7, .push 8, .push 9, .pop]
    let final := (StackCall.all answer c calls).2
    c.StackStays calls ∧
      (StackCall.all answer c calls).1 =
        [.ok none, .ok none, .error ⟨.subtract, 0, 1⟩, .ok (some 8)] ∧
      final.registers.stackPointer = 1 ∧ final.memory.read 2 = c.memory.read 2 ∧
      ∃ top next, pop.run final = .ok top next := by
  intro c calls final
  have stays : c.StackStays calls := by decide
  obtain ⟨answers, -, -, pops, -, rest, kept⟩ := stack_answers_as_list stays
  refine ⟨stays, answers.trans (by decide), ?_, kept 2 ?_, pops (by decide)⟩
  · have pointer := congrArg (fun machine => machine.registers.stackPointer) rest
    exact pointer.trans (by decide)
  · have peak : (ListStack.after c.stackRoom calls).peak = 2 := by decide
    intro k positive within
    rw [peak] at within
    obtain rfl | rfl : k = 1 ∨ k = 2 := by omega
    · decide
    · decide

end Cpu

end Ls8
