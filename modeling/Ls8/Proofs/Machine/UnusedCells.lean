import Mathlib.Order.BooleanAlgebra.Set
import Ls8.Proofs.Machine.Decoding
import Ls8.Proofs.Machine.History

/-! # Cells that are never used

A step fetches three bytes, but it uses only those that the operation at the program counter has, and
the top of the stack for a pop. Two machines that differ only in cells that no step uses before a push
has written over them go on alike, and a push can only make the difference smaller. -/

namespace Ls8

variable {σ : Type}

namespace Cpu

/-! ## What a step uses and what it writes -/

/-- The addresses of the cells that the next step uses: the bytes of the instruction, as many as its
operation has, and the top of the stack for a pop. -/
def uses (c : Cpu) : List UInt8 :=
  if c.state = .running then
    (List.range (usedBytes (c.memory.read c.counter))).map (c.counter + UInt8.ofNat ·) ++
      match c.fetch with
      | .ok (.pop _) => [c.registers.stackPointer]
      | _ => []
  else []

/-- The address of the cell that the next step writes, if it executes a push. -/
def writes (host : Host σ) (c : Cpu) (s : σ) : Set UInt8 :=
  {address | ∃ r, c.performed? (c.step host s) = some (.push r) ∧
    address = c.registers.stackPointer - 1}

/-- The addresses of the cells that a number of steps write. -/
def written (host : Host σ) (c : Cpu) (s : σ) (n : Nat) : Set UInt8 :=
  {address | ∃ k < n, address ∈ (c.reached host s k).1.writes host (c.reached host s k).2}

/-- The addresses of the bytes that the next step fetches without using them as operands. -/
def idle (c : Cpu) : Set UInt8 :=
  {address | ∃ k < 3, usedBytes (c.memory.read c.counter) ≤ k ∧
    address = c.counter + UInt8.ofNat k}

/-- Two machines that agree in everything but the contents of some cells. -/
structure AgreeOff (cells : Set UInt8) (c d : Cpu) : Prop where
  parts : d = { c with memory := d.memory }
  memory : ∀ address ∉ cells, d.memory.read address = c.memory.read address

theorem written_succ (host : Host σ) (c : Cpu) (s : σ) (n : Nat) :
    c.written host s (n + 1) =
      c.written host s n ∪ (c.reached host s n).1.writes host (c.reached host s n).2 := by
  ext address
  constructor
  · rintro ⟨k, before, writes⟩
    rcases Nat.lt_succ_iff_lt_or_eq.mp before with before | rfl
    · exact .inl ⟨k, before, writes⟩
    · exact .inr writes
  · rintro (⟨k, before, writes⟩ | writes)
    · exact ⟨k, Nat.lt_succ_of_lt before, writes⟩
    · exact ⟨n, Nat.lt_succ_self n, writes⟩

theorem counter_add_mem_uses {c : Cpu} (running : c.state = .running) {k : Nat}
    (within : k < usedBytes (c.memory.read c.counter)) : c.counter + UInt8.ofNat k ∈ c.uses := by
  rw [uses, if_pos running]
  exact List.mem_append_left _ (List.mem_map_of_mem (List.mem_range.mpr within))

theorem stackPointer_mem_uses {c : Cpu} (running : c.state = .running) {r : Register}
    (popping : c.fetch = .ok (.pop r)) : c.registers.stackPointer ∈ c.uses := by
  rw [uses, if_pos running, popping]
  exact List.mem_append_right _ (List.mem_singleton_self _)

/-! ## Machines with other memories -/

/-- The machine with other contents of its cells. -/
def withMemory (c : Cpu) (memory : Memory) : Cpu := { c with memory }

/-- What a memory becomes by an instruction. -/
def stored (c : Cpu) (i : Instruction Register) (m : Memory) : Memory :=
  match i with
  | .push r => m.write (c.registers.stackPointer - 1) (c.get r)
  | _ => m

theorem AgreeOff.exists_withMemory {cells : Set UInt8} {c d : Cpu} (agree : c.AgreeOff cells d) :
    ∃ m, d = c.withMemory m ∧ ∀ address ∉ cells, m.read address = c.memory.read address :=
  ⟨d.memory, agree.parts, agree.memory⟩

section

variable (c : Cpu) (m : Memory) (i : Instruction Register)

theorem counter_withMemory : (c.withMemory m).counter = c.counter := rfl

theorem memory_withMemory : (c.withMemory m).memory = m := rfl

theorem countedOut_withMemory : (c.withMemory m).CountedOut ↔ c.CountedOut := Iff.rfl

theorem overflow?_withMemory : (c.withMemory m).overflow? i = c.overflow? i := by
  cases i <;> rfl

theorem printed_withMemory : (c.withMemory m).printed i = c.printed i := by
  cases i <;> rfl

theorem memory_after : (c.after i).memory = c.stored i c.memory := by
  cases i
  case jeq | jne =>
    simp only [after]
    split <;> rfl
  all_goals rfl

variable {c m i}

/-- An instruction reads memory only to pop. -/
theorem after_withMemory (popped : ∀ r, i = .pop r →
    m.read c.registers.stackPointer = c.memory.read c.registers.stackPointer) :
    (c.withMemory m).after i = (c.after i).withMemory (c.stored i m) := by
  cases i with
  | pop r =>
    have same := popped r rfl
    simp only [after, withMemory, same]
    rfl
  | jeq | jne =>
    simp only [after]
    rw [apply_ite (withMemory · _)]
    rfl
  | _ => rfl

/-- The same instruction is fetched where the bytes that are used are the same. -/
theorem fetch_withMemory (same : ∀ k < usedBytes (c.memory.read c.counter),
    m.read (c.counter + UInt8.ofNat k) = c.memory.read (c.counter + UInt8.ofNat k)) :
    m.read c.counter = c.memory.read c.counter ∧ (c.withMemory m).fetch = c.fetch := by
  have first : m.read c.counter = c.memory.read c.counter := by
    have byte := same 0 (usedBytes_pos _)
    rwa [show c.counter + UInt8.ofNat 0 = c.counter from UInt8.add_zero _] at byte
  refine ⟨first, ?_⟩
  change decode (m.read c.counter) _ _ = decode _ _ _
  rw [first]
  exact decode_congr (same 1) (same 2)

end

/-! ## One step -/

section

variable {host : Host σ} {cells : Set UInt8} {c d : Cpu} {s : σ}

theorem writes_of_error {e : CpuError} (failed : (c.step host s).result = .error e) :
    c.writes host s = ∅ := by
  apply Set.eq_empty_of_forall_notMem
  rintro address ⟨r, pushes, -⟩
  rw [performed?, failed] at pushes
  contradiction

/-- Two steps end alike and leave machines that differ at most in some cells. -/
structure AlikeOff (cells : Set UInt8) (o p : Outcome σ) : Prop where
  result : p.result = o.result
  host : p.host = o.host
  cpu : o.cpu.AgreeOff cells p.cpu

/-- A failed step leaves memory as it is. -/
theorem AlikeOff.fail {m : Memory} (same : ∀ address ∉ cells, m.read address = c.memory.read address)
    {e : CpuError} {t : σ} (failed : c.step host s = c.fail host t e)
    (failed' : (c.withMemory m).step host s = (c.withMemory m).fail host t e) :
    AlikeOff (cells \ c.writes host s) (c.step host s) ((c.withMemory m).step host s) := by
  rw [writes_of_error (e := e) (by rw [failed]; rfl), Set.sdiff_empty, failed, failed']
  exact ⟨rfl, rfl, rfl, same⟩

/-- A push writes the same byte over both memories, whether it is counted or not. -/
theorem AlikeOff.perform {m : Memory}
    (same : ∀ address ∉ cells, m.read address = c.memory.read address) {i : Instruction Register}
    (performed : c.performed? (c.step host s) = some i)
    (memory : (c.step host s).cpu.memory = c.stored i c.memory)
    (other : (c.withMemory m).step host s =
      ⟨(c.step host s).result, (c.step host s).cpu.withMemory (c.stored i m),
        (c.step host s).host⟩) :
    AlikeOff (cells \ c.writes host s) (c.step host s) ((c.withMemory m).step host s) := by
  rw [other]
  refine ⟨rfl, rfl, rfl, fun address kept => ?_⟩
  rw [memory]
  change (c.stored i m).read address = _
  by_cases writes : address ∈ c.writes host s
  · obtain ⟨r, pushes, rfl⟩ := writes
    obtain rfl : i = .push r := Option.some.inj (performed.symm.trans pushes)
    simp only [stored, Memory.read_write_self]
  · have outside : address ∉ cells := fun inside => kept ⟨inside, writes⟩
    cases i with
    | push r =>
      have apart : address ≠ c.registers.stackPointer - 1 := by
        rintro rfl
        exact writes ⟨r, performed, rfl⟩
      simp only [stored, Memory.read_write_of_ne _ _ apart]
      exact same address outside
    | _ => exact same address outside

/-- A step ends alike in two machines that differ only in cells that it does not use. -/
theorem AgreeOff.step (host : Host σ) (s : σ) (agree : c.AgreeOff cells d)
    (unused : ∀ address ∈ c.uses, address ∉ cells) :
    AlikeOff (cells \ c.writes host s) (c.step host s) (d.step host s) := by
  obtain ⟨m, rfl, same⟩ := agree.exists_withMemory
  by_cases running : c.state = .running
  · obtain ⟨ir, fetch⟩ := fetch_withMemory fun k within =>
      same _ (unused _ (counter_add_mem_uses running within))
    -- Both machines fetch the same, so both steps end in the same way.
    have ended := step_of_running host running s
    have ended' := step_of_running host (c := c.withMemory m) running s
    simp only [announce, counter_withMemory, memory_withMemory, ir, fetch, overflow?_withMemory,
      printed_withMemory, countedOut_withMemory] at ended ended'
    cases fetched : c.fetch with
    | error e =>
      simp only [fetched] at ended ended'
      exact .fail same ended ended'
    | ok i =>
      simp only [fetched] at ended ended'
      generalize host.log s (.execute c.counter (c.memory.read c.counter) i) = t at ended ended'
      cases stopped : c.overflow? i with
      | some reason =>
        simp only [stopped] at ended ended'
        exact .fail same ended ended'
      | none =>
        simp only [stopped] at ended ended'
        generalize host.print t (c.printed i) = printed at ended ended'
        obtain ⟨t, - | reason⟩ := printed
        · have popped : ∀ r, i = .pop r →
              m.read c.registers.stackPointer = c.memory.read c.registers.stackPointer := by
            rintro r rfl
            exact same _ (unused _ (stackPointer_mem_uses running fetched))
          simp only [after_withMemory popped] at ended'
          by_cases full : c.CountedOut
          · simp only [if_pos full] at ended ended'
            have performed : c.performed? (c.step host s) = some i := by
              rw [ended, performed?, fetched]
              rfl
            exact .perform same performed (by rw [ended, memory_after]) (by rw [ended, ended'])
          · simp only [if_neg full] at ended ended'
            have performed : c.performed? (c.step host s) = some i := by rw [ended]; rfl
            exact .perform same performed (by rw [ended]; exact memory_after c i)
              (by rw [ended, ended']; rfl)
        · exact .fail same ended ended'
  · have failed := step_of_not_running host s running
    rw [writes_of_error (e := .notRunning c.state) (by rw [failed]), Set.sdiff_empty, failed,
      step_of_not_running host (c := c.withMemory m) s running]
    exact ⟨rfl, rfl, agree⟩

/-! ## Many steps -/

/-- No cell of a set is used by one of the next steps before it has been written over. -/
def Unused (host : Host σ) (c : Cpu) (s : σ) (cells : Set UInt8) (n : Nat) : Prop :=
  ∀ k < n, ∀ address ∈ (c.reached host s k).1.uses, address ∉ cells \ c.written host s k

theorem Unused.of_le {m n : Nat} (unused : c.Unused host s cells n) (earlier : m ≤ n) :
    c.Unused host s cells m := fun k before => unused k (Nat.lt_of_lt_of_le before earlier)

theorem written_zero : c.written host s 0 = ∅ := by
  apply Set.eq_empty_of_forall_notMem
  rintro address ⟨k, before, -⟩
  exact Nat.not_lt_zero k before

/-- The difference between two machines stays in the cells that have not been written over. -/
theorem AgreeOff.reached (agree : c.AgreeOff cells d) {n : Nat} (unused : c.Unused host s cells n) :
    (d.reached host s n).2 = (c.reached host s n).2 ∧
      (c.reached host s n).1.AgreeOff (cells \ c.written host s n) (d.reached host s n).1 := by
  induction n with
  | zero =>
    rw [written_zero, Set.sdiff_empty]
    exact ⟨rfl, agree⟩
  | succ n ih =>
    obtain ⟨same, kept⟩ := ih (unused.of_le (Nat.le_succ n))
    obtain ⟨-, after, next⟩ := kept.step host (c.reached host s n).2
      (unused n (Nat.lt_succ_self n))
    rw [written_succ, ← Set.sdiff_sdiff]
    change (d.attempt host s n).host = (c.attempt host s n).host ∧
      (c.attempt host s n).cpu.AgreeOff _ (d.attempt host s n).cpu
    rw [attempt, attempt, same]
    exact ⟨after, next⟩

theorem AgreeOff.attempt (agree : c.AgreeOff cells d) {n : Nat}
    (unused : c.Unused host s cells (n + 1)) :
    (d.attempt host s n).result = (c.attempt host s n).result := by
  obtain ⟨same, kept⟩ := agree.reached (unused.of_le (Nat.le_succ n))
  obtain ⟨result, -, -⟩ := kept.step host (c.reached host s n).2
    (unused n (Nat.lt_succ_self n))
  rw [Cpu.attempt, Cpu.attempt, same, result]

/-! ## Bytes that are fetched but not used -/

/-- The bytes that are fetched but not used lie behind those that are used. -/
theorem notMem_idle {k : Nat} (within : k < usedBytes (c.memory.read c.counter)) :
    c.counter + UInt8.ofNat k ∉ c.idle := by
  rintro ⟨j, short, behind, place⟩
  have near : k < j := Nat.lt_of_lt_of_le within behind
  -- Fetching may wrap around, but three bytes never come back to the first.
  have byte : j < UInt8.size := Nat.lt_trans short (by decide)
  have code := congrArg UInt8.toNat ((UInt8.add_right_inj c.counter).mp place)
  rw [UInt8.toNat_ofNat_of_lt' (Nat.lt_trans near byte), UInt8.toNat_ofNat_of_lt' byte] at code
  exact Nat.ne_of_lt near code

theorem notMem_of_subset_idle (unused : cells ⊆ c.idle)
    (popped : ∀ r, c.fetch = .ok (.pop r) → c.registers.stackPointer ∉ cells) :
    ∀ address ∈ c.uses, address ∉ cells := by
  intro address used
  rw [uses] at used
  split at used
  · rcases List.mem_append.mp used with operand | top
    · obtain ⟨k, within, rfl⟩ := List.mem_map.mp operand
      exact fun inside => notMem_idle (List.mem_range.mp within) (unused inside)
    · split at top
      · next r popping =>
        obtain rfl := List.mem_singleton.mp top
        exact popped r popping
      · exact absurd top List.not_mem_nil
  · exact absurd used List.not_mem_nil

theorem AgreeOff.fetch (agree : c.AgreeOff cells d) (unused : cells ⊆ c.idle) :
    d.fetch = c.fetch := by
  obtain ⟨m, rfl, same⟩ := agree.exists_withMemory
  exact (fetch_withMemory fun k within =>
    same _ fun inside => notMem_idle within (unused inside)).2

end

/-- Cells that no step uses, before it is written over, make no difference to the steps: they end with
the same results, the surroundings see the same, and the machines still differ at most in the cells
that have not been written over. In particular the bytes that an instruction is too short to use make
no difference to it, unless it pops one of them. -/
theorem unused_cells_make_no_difference (host : Host σ) {c d : Cpu} {cells : Set UInt8}
    (agree : c.AgreeOff cells d) (s : σ) :
    (∀ n, c.Unused host s cells n →
      (∀ k < n, (d.attempt host s k).result = (c.attempt host s k).result) ∧
        (d.reached host s n).2 = (c.reached host s n).2 ∧
        (c.reached host s n).1.AgreeOff (cells \ c.written host s n) (d.reached host s n).1) ∧
      (cells ⊆ c.idle → d.fetch = c.fetch ∧
        ((∀ r, c.fetch = .ok (.pop r) → c.registers.stackPointer ∉ cells) →
          AlikeOff (cells \ c.writes host s) (c.step host s) (d.step host s))) := by
  refine ⟨fun n unused => ⟨fun k before => ?_, agree.reached unused⟩, fun unused => ?_⟩
  · exact agree.attempt (unused.of_le before)
  · exact ⟨agree.fetch unused, fun popped => agree.step host s (notMem_of_subset_idle unused popped)⟩

theorem AgreeOff.write (c : Cpu) (address value : UInt8) :
    c.AgreeOff {address} { c with memory := c.memory.write address value } :=
  ⟨rfl, fun _ apart => Memory.read_write_of_ne _ _ apart⟩

/-- A byte is pushed and popped again. Neither what the stack held before nor the byte that follows
`PUSH R0` makes a difference: the former is written over, the latter is fetched without being used. -/
theorem stale_stack_makes_no_difference :
    let c : Cpu := { powerOn .wrap with memory := Memory.zero.place 0 [0x45, 0, 0x46, 1, 0x01] }
    let d : Cpu := { c with memory := c.memory.write 0xf3 9 }
    let e : Cpu := { c with memory := c.memory.write 2 9 }
    (c.Unused Host.collector #[] {0xf3} 3 ∧
        (d.attempt Host.collector #[] 2).result = (c.attempt Host.collector #[] 2).result ∧
        (c.reached Host.collector #[] 3).1.AgreeOff ({0xf3} \ c.written Host.collector #[] 3)
          (d.reached Host.collector #[] 3).1) ∧
      2 ∈ c.idle ∧ e.fetch = c.fetch ∧
        (e.step Host.collector #[]).result = (c.step Host.collector #[]).result := by
  intro c d e
  have written : 0xf3 ∈ c.writes Host.collector #[] := ⟨0, by decide, by decide⟩
  have unused : c.Unused Host.collector #[] {0xf3} 3 := by
    rintro k - address used ⟨rfl, kept⟩
    cases k with
    | zero => exact absurd used (by decide)
    | succ k => exact kept ⟨0, Nat.succ_pos k, written⟩
  have idle : 2 ∈ c.idle := ⟨2, by decide, by decide, by decide⟩
  obtain ⟨same, -, agree⟩ :=
    (unused_cells_make_no_difference Host.collector (.write c 0xf3 9) #[]).1 3 unused
  obtain ⟨fetch, step⟩ :=
    (unused_cells_make_no_difference Host.collector (.write c 2 9) #[]).2
      (Set.singleton_subset_iff.mpr idle)
  have pushes : ∀ r, c.fetch ≠ .ok (.pop r) := by decide
  obtain ⟨result, -, -⟩ := step fun r popping => absurd popping (pushes r)
  exact ⟨⟨unused, same 2 (by decide), agree⟩, idle, fetch, result⟩

end Cpu

end Ls8
