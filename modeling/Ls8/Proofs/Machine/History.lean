import Ls8.Machine.Run
import Ls8.Proofs.Machine.Effect

/-! # Machines after many steps

`reached` is a machine after a number of steps, and `attempt` the step that follows. A machine that
has stopped stays as it is, so the machine at the end of a run of at most `n` steps is the one that
is reached by `n` steps. `steps_course` says what such a run consists of: instructions that succeed,
and then either nothing more, or one that fails and leaves the machine as it was, or one that panics.
The loop of a run with a budget is such a run too: `runLimited_eq` says how many steps it makes at
most, which are never so many that one of them could panic. -/

namespace Ls8

variable {σ : Type}

theorem toNat_saturatingAdd (a b : UInt64) :
    (saturatingAdd a b).toNat = min (a.toNat + b.toNat) (UInt64.size - 1) := by
  have bound : min (a.toNat + b.toNat) (UInt64.size - 1) < UInt64.size := by
    have positive : 0 < UInt64.size := by decide
    omega
  exact UInt64.toNat_ofNat_of_lt' bound

namespace Cpu

/-- The machine and its surroundings after a number of steps, failed ones included. -/
def reached (host : Host σ) (c : Cpu) (s : σ) : Nat → Cpu × σ
  | 0 => (c, s)
  | n + 1 =>
    let (c, s) := c.reached host s n
    let ended := c.step host s
    (ended.cpu, ended.host)

/-- The end of the step that follows a number of steps. -/
def attempt (host : Host σ) (c : Cpu) (s : σ) (n : Nat) : Outcome σ :=
  (c.reached host s n).1.step host (c.reached host s n).2

/-- The first `n` steps succeed. -/
def Succeeds (host : Host σ) (c : Cpu) (s : σ) (n : Nat) : Prop :=
  ∀ k < n, ∃ i, (c.attempt host s k).result = .ok i

/-- The first `n` steps return, with an instruction or with an error. -/
def Returns (host : Host σ) (c : Cpu) (s : σ) (n : Nat) : Prop :=
  ∀ k < n, (c.attempt host s k).result ≠ .panicked

/-- A step panics only where the counter is at its greatest value. -/
theorem countedOut_of_panicked {host : Host σ} {c : Cpu} {s : σ}
    (panicked : (c.step host s).result = .panicked) : c.state = .running ∧ c.CountedOut := by
  by_cases running : c.state = .running
  · refine ⟨running, ?_⟩
    obtain ⟨e, t, ended⟩ | ⟨i, t, -, -, ⟨full, -⟩ | ⟨-, ended⟩⟩ := step_cases host running s
    · rw [ended] at panicked
      contradiction
    · exact full
    · rw [ended] at panicked
      contradiction
  · rw [step_of_not_running host s running] at panicked
    contradiction

/-- A step that panics has executed the instruction that was fetched. -/
theorem step_of_panicked {host : Host σ} {c : Cpu} {s : σ}
    (panicked : (c.step host s).result = .panicked) :
    ∃ i t, c.fetch = .ok i ∧ c.step host s = ⟨.panicked, c.after i, t⟩ := by
  have running := (countedOut_of_panicked panicked).1
  obtain ⟨e, t, ended⟩ | ⟨i, t, fetched, -, ⟨-, ended⟩ | ⟨-, ended⟩⟩ := step_cases host running s
  · rw [ended] at panicked
    contradiction
  · exact ⟨i, t, fetched, ended⟩
  · rw [ended] at panicked
    contradiction

/-- The instruction that a step has executed, whether it was counted or not. -/
def performed? (c : Cpu) (ended : Outcome σ) : Option (Instruction Register) :=
  match ended.result with
  | .ok i => some i
  | .error _ => none
  | .panicked => c.fetch.toOption

/-- A step that leaves a running machine has not failed. -/
theorem result_of_running_step {host : Host σ} {c : Cpu} {s : σ}
    (running : (c.step host s).cpu.state = .running)
    (returns : (c.step host s).result ≠ .panicked) :
    c.state = .running ∧ ∃ i, (c.step host s).result = .ok i := by
  by_cases before : c.state = .running
  · refine ⟨before, ?_⟩
    obtain ⟨e, t, ended⟩ | ⟨i, t, -, -, ⟨-, ended⟩ | ⟨-, ended⟩⟩ := step_cases host before s
    · rw [ended] at running
      contradiction
    · rw [ended] at returns
      contradiction
    · rw [ended]
      exact ⟨i, rfl⟩
  · rw [step_of_not_running host s before] at running
    contradiction

/-- While a machine runs, all its steps so far have succeeded, if they have returned. -/
theorem succeeds_of_running {host : Host σ} {c : Cpu} {s : σ} {n : Nat}
    (running : (c.reached host s n).1.state = .running) (returns : c.Returns host s n) :
    c.Succeeds host s n := by
  induction n with
  | zero => exact fun k before => absurd before (Nat.not_lt_zero k)
  | succ n ih =>
    obtain ⟨earlier, last⟩ := result_of_running_step running (returns n (Nat.lt_succ_self n))
    intro k before
    rcases Nat.lt_succ_iff_lt_or_eq.mp before with before | rfl
    · exact ih earlier (fun j lower => returns j (Nat.lt_succ_of_lt lower)) k before
    · exact last

/-- A failed step of a running machine changes nothing but its state. -/
theorem cpu_of_failed_step {host : Host σ} {c : Cpu} {s : σ} {e : CpuError}
    (running : c.state = .running) (failed : (c.step host s).result = .error e) :
    (c.step host s).cpu = { c with state := .error } := by
  obtain ⟨e, t, ended⟩ | ⟨i, t, -, -, ⟨-, ended⟩ | ⟨-, ended⟩⟩ := step_cases host running s
  · rw [ended]
    rfl
  · rw [ended] at failed
    contradiction
  · rw [ended] at failed
    contradiction

/-- Of the instructions only the last of a program stops a machine. -/
theorem state_after (c : Cpu) (i : Instruction Register) :
    (c.after i).state = if i = .hlt then .halted else c.state := by
  cases i
  case jeq | jne =>
    simp only [after]
    split <;> rfl
  all_goals rfl

theorem state_of_ok {host : Host σ} {c : Cpu} {s : σ} {i : Instruction Register}
    (succeeded : (c.step host s).result = .ok i) :
    (c.step host s).cpu.state = if i = .hlt then .halted else .running := by
  obtain ⟨-, -, t, ended⟩ := step_of_result_eq_ok succeeded
  rw [ended, ← running_of_result_step succeeded]
  exact c.state_after i

theorem last_of_result_step {host : Host σ} {c : Cpu} {s : σ} {i : Instruction Register}
    (succeeded : (c.step host s).result = .ok i) : (c.step host s).cpu.last = some i := by
  obtain ⟨-, -, t, ended⟩ := step_of_result_eq_ok succeeded
  rw [ended]
  rfl

/-- A step that succeeds and stops the machine has halted it. -/
theorem halted_of_result_step {host : Host σ} {c : Cpu} {s : σ} {i : Instruction Register}
    (succeeded : (c.step host s).result = .ok i)
    (stopped : (c.step host s).cpu.state ≠ .running) :
    i = .hlt ∧ (c.step host s).cpu.state = .halted := by
  rw [state_of_ok succeeded] at stopped ⊢
  split at stopped
  · next halts => exact ⟨halts, if_pos halts⟩
  · contradiction

/-- The instruction that halts the machine is still at its program counter afterwards. -/
theorem fetch_of_halt {host : Host σ} {c : Cpu} {s : σ}
    (halts : (c.step host s).result = .ok .hlt) :
    (c.step host s).cpu.counter = c.counter ∧ (c.step host s).cpu.fetch = .ok .hlt := by
  obtain ⟨fetched, -, t, ended⟩ := step_of_result_eq_ok halts
  rw [ended]
  exact ⟨rfl, fetched⟩

/-! ## Step by step -/

theorem reached_of_not_running (host : Host σ) {c : Cpu} (s : σ) (stopped : c.state ≠ .running)
    (n : Nat) : c.reached host s n = (c, s) := by
  induction n with
  | zero => rfl
  | succ n ih => simp only [reached, ih, step_of_not_running host s stopped]

/-- Many steps in two parts. -/
theorem reached_add (host : Host σ) (c : Cpu) (s : σ) (m n : Nat) :
    c.reached host s (m + n) =
      (c.reached host s m).1.reached host (c.reached host s m).2 n := by
  induction n with
  | zero => rfl
  | succ n ih => rw [← Nat.add_assoc, reached, ih, reached]

theorem reached_one_add (host : Host σ) (c : Cpu) (s : σ) (n : Nat) :
    c.reached host s (1 + n) = (c.step host s).cpu.reached host (c.step host s).host n :=
  reached_add host c s 1 n

theorem attempt_one_add (host : Host σ) (c : Cpu) (s : σ) (n : Nat) :
    c.attempt host s (1 + n) = (c.step host s).cpu.attempt host (c.step host s).host n := by
  rw [attempt, attempt, reached_one_add]

/-- A machine that has stopped stays as it is. -/
theorem reached_of_le {host : Host σ} {c : Cpu} {s : σ} {m n : Nat} (later : m ≤ n)
    (stopped : (c.reached host s m).1.state ≠ .running) :
    c.reached host s n = c.reached host s m := by
  obtain ⟨rest, rfl⟩ := Nat.exists_eq_add_of_le later
  rw [reached_add, reached_of_not_running host _ stopped]

theorem running_of_le {host : Host σ} {c : Cpu} {s : σ} {m n : Nat} (earlier : m ≤ n)
    (running : (c.reached host s n).1.state = .running) :
    (c.reached host s m).1.state = .running := by
  by_contra stopped
  rw [reached_of_le earlier stopped] at running
  exact stopped running

/-- A counter at its greatest value stays there. -/
theorem countedOut_step {host : Host σ} {c : Cpu} {s : σ} (full : c.CountedOut) :
    (c.step host s).cpu.CountedOut := by
  by_cases running : c.state = .running
  · obtain ⟨e, t, ended⟩ | ⟨i, t, -, -, ⟨-, ended⟩ | ⟨room, -⟩⟩ := step_cases host running s
    · rw [ended]
      exact full
    · rw [ended, CountedOut, cycles_after]
      exact full
    · exact absurd full room
  · rw [step_of_not_running host s running]
    exact full

theorem countedOut_of_le {host : Host σ} {c : Cpu} {s : σ} {m n : Nat} (later : m ≤ n)
    (full : (c.reached host s m).1.CountedOut) : (c.reached host s n).1.CountedOut := by
  induction later with
  | refl => exact full
  | step later ih => exact countedOut_step ih

/-- As long as there is room in the counter no step has panicked. -/
theorem returns_of_room {host : Host σ} {c : Cpu} {s : σ} {n : Nat}
    (room : ¬(c.reached host s n).1.CountedOut) : c.Returns host s n := fun _ before panicked =>
  room (countedOut_of_le (Nat.le_of_lt before) (countedOut_of_panicked panicked).2)

/-- Before a step that succeeds all steps have succeeded. -/
theorem succeeds_of_result {host : Host σ} {c : Cpu} {s : σ} {n : Nat} {i : Instruction Register}
    (succeeded : (c.attempt host s n).result = .ok i) : c.Succeeds host s n :=
  succeeds_of_running (running_of_result_step succeeded)
    (returns_of_room (step_of_result_eq_ok succeeded).2.1)

namespace Succeeds

variable {host : Host σ} {c : Cpu} {s : σ} {n : Nat}

theorem zero : c.Succeeds host s 0 := fun k before => absurd before (Nat.not_lt_zero k)

theorem returns (succeeds : c.Succeeds host s n) : c.Returns host s n := by
  intro k before panicked
  obtain ⟨i, succeeded⟩ := succeeds k before
  rw [panicked] at succeeded
  contradiction

theorem succ {i : Instruction Register} (succeeds : c.Succeeds host s n)
    (last : (c.attempt host s n).result = .ok i) : c.Succeeds host s (n + 1) := by
  intro k before
  rcases Nat.lt_succ_iff_lt_or_eq.mp before with before | rfl
  · exact succeeds k before
  · exact ⟨i, last⟩

theorem one_add {i : Instruction Register} (first : (c.step host s).result = .ok i)
    (rest : (c.step host s).cpu.Succeeds host (c.step host s).host n) :
    c.Succeeds host s (1 + n) := by
  intro k before
  cases k with
  | zero => exact ⟨i, first⟩
  | succ k =>
    rw [Nat.add_comm k 1, attempt_one_add]
    exact rest k (by omega)

theorem running (succeeds : c.Succeeds host s n) {k : Nat} (before : k < n) :
    (c.reached host s k).1.state = .running := by
  obtain ⟨i, succeeded⟩ := succeeds k before
  exact running_of_result_step succeeded

end Succeeds

/-! ## Runs -/

/-- What a run of at most `n` steps consists of: some instructions that succeed, after which the
steps are spent, or the machine has stopped, or the next instruction fails or panics. -/
inductive Course (host : Host σ) (c : Cpu) (s : σ) (n : Nat) : Run σ → Prop
  | spent (succeeds : c.Succeeds host s n) (running : (c.reached host s n).1.state = .running) :
    Course host c s n ⟨.spent, (c.reached host s n).1, (c.reached host s n).2⟩
  | stopped (k : Nat) (within : k ≤ n) (succeeds : c.Succeeds host s k)
      (stopped : (c.reached host s k).1.state ≠ .running) :
    Course host c s n ⟨.stopped, (c.reached host s k).1, (c.reached host s k).2⟩
  | failed (k : Nat) (e : CpuError) (within : k < n) (succeeds : c.Succeeds host s k)
      (running : (c.reached host s k).1.state = .running)
      (failed : (c.attempt host s k).result = .error e) :
    Course host c s n ⟨.failed e, { (c.reached host s k).1 with state := .error },
      (c.attempt host s k).host⟩
  | panicked (k : Nat) (within : k < n) (succeeds : c.Succeeds host s k)
      (panicked : (c.attempt host s k).result = .panicked) :
    Course host c s n ⟨.panicked, (c.attempt host s k).cpu, (c.attempt host s k).host⟩

/-- A course goes on from where the first step has led. -/
theorem Course.one_add {host : Host σ} {c : Cpu} {s : σ} {n : Nat} {i : Instruction Register}
    (first : (c.step host s).result = .ok i) {run : Run σ}
    (rest : (c.step host s).cpu.Course host (c.step host s).host n run) :
    c.Course host s (1 + n) run := by
  cases rest with
  | spent succeeds running =>
    rw [← reached_one_add] at running ⊢
    exact .spent (succeeds.one_add first) running
  | stopped k within succeeds stopped =>
    rw [← reached_one_add] at stopped ⊢
    exact .stopped (1 + k) (by omega) (succeeds.one_add first) stopped
  | failed k e within succeeds running failed =>
    rw [← reached_one_add] at running ⊢
    rw [← attempt_one_add] at failed ⊢
    exact .failed (1 + k) e (by omega) (succeeds.one_add first) running failed
  | panicked k within succeeds panicked =>
    rw [← attempt_one_add] at panicked ⊢
    exact .panicked (1 + k) (by omega) (succeeds.one_add first) panicked

/-- A run goes on from where its first instruction has led. -/
theorem steps_succ_of_ok {host : Host σ} {c : Cpu} {s : σ} {i : Instruction Register}
    (first : (c.step host s).result = .ok i) (n : Nat) :
    c.steps host (n + 1) s = (c.step host s).cpu.steps host n (c.step host s).host := by
  rw [steps, if_pos (running_of_result_step first)]
  generalize c.step host s = ended at first ⊢
  obtain ⟨_, next, t⟩ := ended
  obtain rfl := first
  rfl

/-- A run ends with an instruction that fails. -/
theorem steps_succ_of_error {host : Host σ} {c : Cpu} {s : σ} {e : CpuError}
    (running : c.state = .running) (failed : (c.step host s).result = .error e) (n : Nat) :
    c.steps host (n + 1) s = ⟨.failed e, (c.step host s).cpu, (c.step host s).host⟩ := by
  rw [steps, if_pos running]
  generalize c.step host s = ended at failed ⊢
  obtain ⟨_, next, t⟩ := ended
  obtain rfl := failed
  rfl

/-- A run ends with an instruction that panics. -/
theorem steps_succ_of_panicked {host : Host σ} {c : Cpu} {s : σ}
    (panicked : (c.step host s).result = .panicked) (n : Nat) :
    c.steps host (n + 1) s = ⟨.panicked, (c.step host s).cpu, (c.step host s).host⟩ := by
  rw [steps, if_pos (countedOut_of_panicked panicked).1]
  generalize c.step host s = ended at panicked ⊢
  obtain ⟨_, next, t⟩ := ended
  obtain rfl := panicked
  rfl

theorem steps_of_not_running {host : Host σ} {c : Cpu} {s : σ} {n : Nat}
    (stopped : c.state ≠ .running) : c.steps host n s = ⟨.stopped, c, s⟩ := by
  cases n with
  | zero => rw [steps, if_neg stopped]
  | succ n => rw [steps, if_neg stopped]

theorem steps_course (host : Host σ) (c : Cpu) (s : σ) (n : Nat) :
    c.Course host s n (c.steps host n s) := by
  induction n generalizing c s with
  | zero =>
    rw [steps]
    by_cases running : c.state = .running
    · rw [if_pos running]
      exact .spent .zero running
    · rw [if_neg running]
      exact .stopped 0 (Nat.le_refl 0) .zero running
  | succ n ih =>
    by_cases running : c.state = .running
    · cases ended : (c.step host s).result with
      | ok i =>
        rw [steps_succ_of_ok ended, Nat.add_comm]
        exact .one_add ended (ih ..)
      | error e =>
        rw [steps_succ_of_error running ended, cpu_of_failed_step running ended]
        exact .failed 0 e (Nat.zero_lt_succ n) .zero running ended
      | panicked =>
        rw [steps_succ_of_panicked ended]
        exact .panicked 0 (Nat.zero_lt_succ n) .zero ended
    · rw [steps_of_not_running running]
      exact .stopped 0 (Nat.zero_le _) .zero running

/-! ## Runs with a budget -/

/-- The loop makes as many steps as its limit is above the counter, unless it ends early: every step
that succeeds brings the counter one nearer. -/
theorem runTo_eq_steps (host : Host σ) (limit : UInt64) (c : Cpu) (s : σ) :
    c.runTo host limit s = c.steps host (limit.toNat - c.cycles.toNat) s := by
  generalize distance : limit.toNat - c.cycles.toNat = n
  induction n generalizing c s with
  | zero =>
    have reached : ¬c.cycles < limit := by
      rw [UInt64.lt_iff_toNat_lt]
      omega
    rw [runTo, steps, if_neg reached]
    split <;> rfl
  | succ n ih =>
    by_cases running : c.state = .running
    · have below : c.cycles < limit := by
        rw [UInt64.lt_iff_toNat_lt]
        omega
      rw [runTo, steps, if_pos running, if_pos running, if_pos below]
      cases stepped : c.step host s with
      | mk result next t =>
        cases result with
        | ok i =>
          have counted : (c.step host s).cpu.cycles.toNat = c.cycles.toNat + 1 :=
            toNat_cycles_of_result_step (congrArg Outcome.result stepped)
          simp only [stepped] at counted
          exact ih next t (by omega)
        | error e => rfl
        | panicked => rfl
    · rw [runTo, if_neg running, steps_of_not_running running]

/-- The number of instructions that a budget allows: no more than the cycle counter can count. -/
def allowance (c : Cpu) (budget : UInt64) : Nat :=
  min budget.toNat (UInt64.size - 1 - c.cycles.toNat)

theorem toNat_limit_sub (c : Cpu) (budget : UInt64) :
    (saturatingAdd c.cycles budget).toNat - c.cycles.toNat = c.allowance budget := by
  have bound := c.cycles.toNat_lt
  have positive : UInt64.size = 2 ^ 64 := rfl
  rw [toNat_saturatingAdd, allowance]
  omega

/-- A run with a budget makes the steps that the budget and the counter allow. -/
theorem runLimited_eq (host : Host σ) (c : Cpu) (s : σ) (budget : UInt64) :
    c.runLimited host s budget = c.counted (c.steps host (c.allowance budget) s) := by
  rw [runLimited, runTo_eq_steps, toNat_limit_sub]

end Cpu

end Ls8
