import Ls8.Proofs.Machine.Lifecycle
import Ls8.Proofs.Machine.Snapshot

/-! # The cycle counter

A step that succeeds has counted its instruction, so the cycle counter is always further on by exactly
the number of these instructions, as an integer. A snapshot can hold any count, the greatest one
included; a machine that stands at it cannot count one instruction more, and a step that would have to
panics. Nothing else panics, and a run that comes back has not: its count, which is the difference of
two counters, is the number of instructions that it has executed. -/

namespace Ls8

variable {σ : Type}

namespace Cpu

section

variable {host : Host σ} {c : Cpu} {s : σ}

/-- A step panics exactly when it has executed an instruction that the counter has no room for. -/
theorem result_step_eq_panicked_iff :
    (c.step host s).result = .panicked ↔
      c.CountedOut ∧ c.state = .running ∧
        ∃ i, c.fetch = .ok i ∧ c.overflow? i = none ∧
          (host.print (c.announce host s i) (c.printed i)).2 = none := by
  constructor
  · intro panicked
    obtain ⟨running, full⟩ := countedOut_of_panicked panicked
    refine ⟨full, running, ?_⟩
    have passage := step_passage host running s
    generalize c.step host s = ended at passage panicked
    cases passage with
    | undecoded | overflowing | refused | finished => contradiction
    | uncounted i t fetched fits printed => exact ⟨i, fetched, fits, congrArg Prod.snd printed⟩
  · rintro ⟨full, running, i, fetched, fits, accepted⟩
    have stepped := step_of_running host running s
    simp only [fetched, fits, if_pos full] at stepped
    rw [stepped]
    generalize host.print (c.announce host s i) (c.printed i) = printed at accepted
    obtain ⟨t, _⟩ := printed
    obtain rfl := accepted
    rfl

/-- Some steps move the counter on by the number of those that succeed. -/
theorem toNat_cycles_steps (host : Host σ) (n : Nat) (c : Cpu) (s : σ) :
    (c.steps host n s).cpu.cycles.toNat = c.cycles.toNat + (c.executed host n s).length := by
  induction n generalizing c s with
  | zero => rfl
  | succ n ih =>
    by_cases running : c.state = .running
    · cases ended : (c.step host s).result with
      | ok i =>
        rw [steps_succ_of_ok ended, executed_succ_of_ok ended, ih, toNat_cycles_of_result_step ended,
          List.length_cons]
        omega
      | error e =>
        rw [steps_succ_of_error running ended, cpu_of_failed_step running ended,
          executed_succ_of_ne_ok (by rw [ended]; nofun)]
        rfl
      | panicked =>
        obtain ⟨i, t, -, stepped⟩ := step_of_panicked ended
        rw [steps_succ_of_panicked ended, executed_succ_of_ne_ok (by rw [ended]; nofun), stepped,
          cycles_after]
        rfl
    · rw [steps_of_not_running running, executed_of_not_running running]
      rfl

/-- The count of a run is the number of its instructions. -/
theorem toNat_count {n : Nat} {count : UInt64}
    (ended : (c.counted (c.steps host n s)).result = .ok count) :
    count.toNat = (c.executed host n s).length := by
  obtain ⟨-, -, rfl⟩ := result_counted_eq_ok_iff.mp ended
  have counts := toNat_cycles_steps host n c s
  have further : c.cycles ≤ (c.steps host n s).cpu.cycles := by
    rw [UInt64.le_iff_toNat_le]
    omega
  rw [UInt64.toNat_sub_of_le _ _ further]
  omega

/-- A run that panics has counted up to the greatest value. -/
theorem countedOut_of_ending {n : Nat} (panicked : (c.steps host n s).ending = .panicked) :
    (c.steps host n s).cpu.CountedOut := by
  have course := c.steps_course host s n
  generalize c.steps host n s = run at course panicked ⊢
  cases course with
  | spent | stopped | failed => contradiction
  | panicked k within succeeds last => exact countedOut_step (countedOut_of_panicked last).2

end

/-- The cycle counter is exact. A step that succeeds makes it one greater, and a step panics exactly
when it has executed an instruction and the counter stands at its greatest value. At the end of a run
the counter is further on by the number of instructions that the run has executed and counted; a run
that comes to its end without an error returns this number, and one that panics has counted up to the
greatest value. A run with a budget takes at most so many steps, counts them in the same way and never
panics. Every count is that of a machine in a snapshot. -/
theorem cycles_count_instructions (host : Host σ) (c : Cpu) (s : σ) :
    (∀ i, (c.step host s).result = .ok i →
      (c.step host s).cpu.cycles.toNat = c.cycles.toNat + 1) ∧
    ((c.step host s).result = .panicked ↔
      c.cycles.toNat = 2 ^ 64 - 1 ∧ c.state = .running ∧
        ∃ i, c.fetch = .ok i ∧ c.overflow? i = none ∧
          (host.print (c.announce host s i) (c.printed i)).2 = none) ∧
    (∀ fuel out, c.run host fuel s = some out →
      let executed := (c.executed host fuel s).length
      out.cpu.cycles.toNat = c.cycles.toNat + executed ∧
        (∀ count, out.result = .ok count → count.toNat = executed) ∧
        (out.result = .panicked → c.cycles.toNat + executed = 2 ^ 64 - 1)) ∧
    (∀ budget,
      let out := c.runLimited host s budget
      out.result ≠ .panicked ∧
        ∃ n ≤ budget.toNat, out = c.counted (c.steps host n s) ∧
          let executed := (c.executed host n s).length
          out.cpu.cycles.toNat = c.cycles.toNat + executed ∧
            ∀ count, out.result = .ok count → count.toNat = executed) ∧
    ∀ cycles : UInt64,
      restore { c with cycles }.toJson.compact = .ok { c with cycles, last := none } := by
  refine ⟨fun i => toNat_cycles_of_result_step, ?_, ?_, ?_, ?_⟩
  · have full : c.CountedOut ↔ c.cycles.toNat = 2 ^ 64 - 1 := by
      have size : UInt64.size = 2 ^ 64 := rfl
      rw [CountedOut]
      omega
    rw [result_step_eq_panicked_iff, full]
  · intro fuel out answered executed
    rw [run] at answered
    split at answered
    · contradiction
    · obtain rfl := Option.some.inj answered
      have counts := toNat_cycles_steps host fuel c s
      refine ⟨counts, fun count => toNat_count, fun panicked => ?_⟩
      have full := countedOut_of_ending (result_counted_eq_panicked_iff.mp panicked)
      rw [CountedOut, counts] at full
      exact Nat.succ.inj full
  · intro budget out
    have counted : out = c.counted (c.steps host (c.allowance budget) s) :=
      runLimited_eq host c s budget
    rw [counted]
    refine ⟨mt result_counted_eq_panicked_iff.mp ending_ne_panicked, _, Nat.min_le_left _ _, rfl, ?_⟩
    exact ⟨toNat_cycles_steps host _ c s, fun count => toNat_count⟩
  · intro cycles
    exact restore_of_parse? { c with cycles } (Json.parse?_compact (isExact_toJson _))

/-- A machine that executes the last two instructions that can be counted and halts with the second of
them. With one more behind it, a run panics; a budget stops it in front of that. -/
theorem counted_to_greatest_value :
    let halts : Cpu := { powerOn .wrap with
      memory := Memory.zero.place 0 [0x82, 0, 8, 0x01], cycles := 0xfffffffffffffffd }
    let goes : Cpu := { halts with memory := Memory.zero.place 0 [0x82, 0, 8, 0x47, 0, 0x01] }
    (halts.step Host.collector #[]).cpu.cycles.toNat = 2 ^ 64 - 2 ∧
      (∃ out, halts.run Host.collector 9 #[] = some out ∧ out.result = .ok 2 ∧
        out.cpu.cycles.toNat = 2 ^ 64 - 1) ∧
      (∃ out, goes.run Host.collector 9 #[] = some out ∧ out.result = .panicked ∧
        (goes.executed Host.collector 9 #[]).length = 2) ∧
      ((goes.runLimited Host.collector #[] 9).result = .ok 2 ∧
        (goes.runLimited Host.collector #[] 9).cpu.cycles.toNat = 2 ^ 64 - 1) := by
  intro halts goes
  obtain ⟨step, -, run, -⟩ := cycles_count_instructions Host.collector halts #[]
  obtain ⟨-, -, beyond, limited, -⟩ := cycles_count_instructions Host.collector goes #[]
  have first : (halts.step Host.collector #[]).result = .ok (.ldi 0 8) := by decide
  have answers : (halts.run Host.collector 9 #[]).map (·.result) = some (.ok 2) := by decide
  have panics : (goes.run Host.collector 9 #[]).map (·.result) = some .panicked := by decide
  obtain ⟨out, answered, counted⟩ := Option.map_eq_some_iff.mp answers
  obtain ⟨other, ended, panicked⟩ := Option.map_eq_some_iff.mp panics
  have total : (halts.executed Host.collector 9 #[]).length = 2 :=
    ((run 9 out answered).2.1 2 counted).symm
  have rest := (beyond 9 other ended).2.2 panicked
  refine ⟨step _ first, ⟨out, answered, counted, ?_⟩, ⟨other, ended, panicked, ?_⟩, by decide, ?_⟩
  · rw [(run 9 out answered).1, total]
    rfl
  · exact Nat.add_left_cancel (rest.trans (by decide : _ = goes.cycles.toNat + 2))
  · obtain ⟨-, n, -, -, counts, total⟩ := limited 9
    rw [counts, ← total 2 (by decide)]
    decide

end Cpu

end Ls8
