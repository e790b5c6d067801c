import Ls8.Proofs.Debugger.Execution

/-! # Continuous execution and breakpoints

Continuous execution looks for a breakpoint behind every instruction that it has executed, and never in
front of the first. So it executes the least number of instructions, one at least, after which the
machine stands at a breakpoint or has stopped, unless it gets fewer ticks than that. -/

namespace Ls8.Debugger.Session

variable {s : Session}

/-- The number of instructions that continuous execution executes if it gets enough ticks: the least
number, one at least, after which the machine does not run any more or stands at a breakpoint. An
instruction that fails is counted, and so is one that panics, which ends the execution. -/
noncomputable def stretch (s : Session) : ℕ∞ := ⨅ n : {n : ℕ // 0 < n ∧ s.Pauses n}, (n.val : ℕ∞)

theorem stretch_le {n : ℕ} (positive : 0 < n) (pauses : s.Pauses n) : s.stretch ≤ n :=
  iInf_le (fun n : {n : ℕ // 0 < n ∧ s.Pauses n} => (n.val : ℕ∞)) ⟨n, positive, pauses⟩

theorem le_stretch {n : ℕ} (free : ∀ k, 0 < k → k < n → ¬s.Pauses k) : (n : ℕ∞) ≤ s.stretch := by
  apply le_iInf
  rintro ⟨k, positive, pauses⟩
  apply Nat.cast_le.mpr
  by_contra before
  exact free k positive (Nat.not_le.mp before) pauses

/-- Continuous execution goes on for all its ticks, or ends with the first pause within them. -/
theorem goes_or_pauses (running : s.cpu.state = .running) (n : ℕ) :
    s.Goes n ∨ ∃ k < n, s.Goes k ∧ s.Pauses (k + 1) := by
  induction n with
  | zero => exact .inl ⟨running, fun k positive within => by omega⟩
  | succ n ih =>
    obtain goes | ⟨k, before, goes, pauses⟩ := ih
    · by_cases pauses : s.Pauses (n + 1)
      · exact .inr ⟨n, Nat.lt_succ_self n, goes, pauses⟩
      · refine .inl ⟨running, fun k positive within => ?_⟩
        rcases Nat.le_succ_iff.mp within with within | rfl
        · exact goes.free k positive within
        · exact pauses
    · exact .inr ⟨k, Nat.lt_succ_of_lt before, goes, pauses⟩

theorem Goes.stretch_eq {n : ℕ} (goes : s.Goes n) (pauses : s.Pauses (n + 1)) :
    s.stretch = (n + 1 : ℕ) := by
  apply le_antisymm
  · exact stretch_le (Nat.zero_lt_succ n) pauses
  · exact le_stretch fun k positive before => goes.free k positive (Nat.le_of_lt_succ before)

/-- The ticks after the last instruction execute none. -/
theorem Goes.executions_eq {m n : ℕ} (goes : s.Goes n) (pauses : s.Pauses (n + 1)) (later : n < m) :
    s.executions (runFor m) = n + 1 := by
  rw [(executions_runFor_of_idle later (goes.idle_of_pauses pauses)).1, goes.next_tick.1]

/-- The instructions executed are as many as the ticks and the stretch allow. -/
theorem executions_runFor (running : s.cpu.state = .running) (n : ℕ) :
    (s.executions (runFor n) : ℕ∞) = min (n : ℕ∞) s.stretch := by
  obtain goes | ⟨k, before, goes, pauses⟩ := goes_or_pauses running n
  · have least : (n : ℕ∞) ≤ s.stretch := le_stretch fun k positive within =>
      goes.free k positive (Nat.le_of_lt within)
    rw [goes.after_runFor.1, min_eq_left least]
  · rw [goes.executions_eq pauses before, goes.stretch_eq pauses,
      min_eq_right (Nat.cast_le.mpr before)]

theorem not_pauses_of_lt_executions {n k : ℕ} (running : s.cpu.state = .running) (positive : 0 < k)
    (before : k < s.executions (runFor n)) : ¬s.Pauses k := by
  intro pauses
  have count := executions_runFor running n
  have least : (s.executions (runFor n) : ℕ∞) ≤ k := by
    rw [count]
    exact (min_le_right _ _).trans (stretch_le positive pauses)
  exact absurd (Nat.cast_le.mp least) (Nat.not_le.mpr before)

/-- Continuous execution that comes to a breakpoint ends there. -/
theorem ends_at_breakpoint {n k : ℕ} (running : s.cpu.state = .running) (positive : 0 < k)
    (within : k ≤ s.executions (runFor n)) (stop : (s.ahead k).1.counter ∈ s.breakpoints) :
    s.executions (runFor n) = k ∧ (s.after (runFor n)).isRunning = false ∧
      (s.cpu.Succeeds Host.collector s.output k →
        (s.after (runFor n)).status = .atBreakpoint (s.ahead k).1.counter) := by
  have pauses : s.Pauses k := .inr (.inl stop)
  obtain goes | ⟨j, before, goes, ends⟩ := goes_or_pauses running n
  · rw [goes.after_runFor.1] at within
    exact absurd pauses (goes.free k positive within)
  · rw [goes.executions_eq ends before] at within ⊢
    rcases Nat.le_succ_iff.mp within with earlier | rfl
    · exact absurd pauses (goes.free k positive earlier)
    · refine ⟨rfl, ?_⟩
      cases ended : (s.cpu.attempt Host.collector s.output j).result with
      | error e =>
        rw [goes.after_failure ended before]
        refine ⟨rfl, fun succeeds => ?_⟩
        obtain ⟨i, succeeded⟩ := succeeds j (Nat.lt_succ_self j)
        rw [ended] at succeeded
        contradiction
      | panicked =>
        rw [goes.after_panic ended before]
        exact ⟨rfl, fun succeeds => absurd ended (succeeds.returns j (Nat.lt_succ_self j))⟩
      | ok i =>
        rw [goes.after_breakpoint ended stop before]
        exact ⟨rfl, fun _ => rfl⟩

/-- Continuous execution stops exactly at breakpoints. It executes as many instructions as its ticks
and the stretch up to the first breakpoint or the end of the machine allow, and does nothing else to
the machine. Only the first of them may have stood at a breakpoint. If the stretch ends at a breakpoint
and there are ticks enough, the status says so; and no breakpoint that is reached is passed over. -/
theorem stops_at_breakpoints (s : Session) (running : s.cpu.state = .running) (n : ℕ) :
    let count := s.executions (runFor n)
    let final := s.after (runFor n)
    (count : ℕ∞) = min (n : ℕ∞) s.stretch ∧
      (final.cpu, final.output) = s.cpu.reached Host.collector s.output count ∧
      (∀ k, 0 < k → k < count →
        (s.cpu.reached Host.collector s.output k).1.counter ∉ s.breakpoints) ∧
      (∀ j : ℕ, s.stretch = j → j ≤ n → s.cpu.Succeeds Host.collector s.output j →
        let counter := (s.cpu.reached Host.collector s.output j).1.counter
        counter ∈ s.breakpoints → final.isRunning = false ∧
          final.status.text = "Breakpoint at PC=" ++ Text.hexByte counter) ∧
      ∀ k, 0 < k → k ≤ count →
        (s.cpu.reached Host.collector s.output k).1.counter ∈ s.breakpoints →
          count = k ∧ final.isRunning = false := by
  intro count final
  refine ⟨executions_runFor running n, s.machine_after kept_of_mem_runFor, ?_, ?_, ?_⟩
  · intro k positive before stop
    exact not_pauses_of_lt_executions running positive before (.inr (.inl stop))
  · intro j stretch enough succeeds counter stop
    have positive : 0 < j := by
      have least : ((1 : ℕ) : ℕ∞) ≤ s.stretch := le_stretch fun k positive before => by omega
      rw [stretch] at least
      exact Nat.cast_le.mp least
    have whole : j ≤ count := by
      have limit := executions_runFor running n
      rw [stretch, min_eq_right (Nat.cast_le.mpr enough)] at limit
      exact (Nat.cast_inj.mp limit).ge
    obtain ⟨-, quiet, status⟩ := ends_at_breakpoint running positive whole stop
    refine ⟨quiet, ?_⟩
    rw [status succeeds]
    rfl
  · intro k positive within stop
    obtain ⟨exactly, quiet, -⟩ := ends_at_breakpoint running positive within stop
    exact ⟨exactly, quiet⟩

/-- A loop of two instructions with a breakpoint at the first, where continuous execution begins. -/
theorem loop_stops_at_breakpoint :
    let s := (start [0x82, 0, 0, 0x54, 0]).after [.act .toggleBreakpoint]
    s.cpu.state = .running ∧ s.cpu.counter ∈ s.breakpoints ∧ s.stretch = (2 : ℕ) ∧
      ((s.executions (runFor 9) : ℕ) : ℕ∞) = min ((9 : ℕ) : ℕ∞) s.stretch ∧
      (s.after (runFor 9)).isRunning = false ∧
      (s.after (runFor 9)).status.text = "Breakpoint at PC=00" := by
  intro s
  have running : s.cpu.state = .running := by decide
  have goes : s.Goes 1 := by
    refine ⟨running, fun k positive within => ?_⟩
    obtain rfl : k = 1 := by omega
    rintro (stopped | stop | ⟨j, same, panicked⟩)
    · exact stopped (by decide)
    · exact absurd stop (by decide)
    · obtain rfl := Nat.succ.inj same
      exact absurd panicked (by decide)
  have stop : (s.cpu.reached Host.collector s.output 2).1.counter ∈ s.breakpoints := by decide
  have stretch : s.stretch = (2 : ℕ) := goes.stretch_eq (.inr (.inl stop))
  obtain ⟨count, -, -, ends, -⟩ := stops_at_breakpoints s running 9
  have succeeds : s.cpu.Succeeds Host.collector s.output 2 :=
    .succ (Cpu.succeeds_of_result (i := .jmp 0) (by decide)) (i := .jmp 0) (by decide)
  obtain ⟨quiet, text⟩ := ends 2 stretch (by decide) succeeds stop
  exact ⟨running, by decide, stretch, count, quiet, text.trans (by decide)⟩

end Ls8.Debugger.Session
