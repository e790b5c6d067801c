import Mathlib.Data.ENat.Lattice
import Ls8.Proofs.Machine.History

/-! # Runs with a budget

A run with a budget executes as many instructions as the budget, the machine and the cycle counter
allow, whichever is least, and never panics. So it can be interrupted and taken up again: two budgets
used one after the other do what their sum does, up to the greatest budget there is. And a run without
a budget that comes to its end is the same as a run with any budget that is large enough. -/

namespace Ls8

variable {σ : Type}

namespace Cpu

/-- The number of steps until a machine stops, the step that fails included. -/
noncomputable def lifespan (host : Host σ) (c : Cpu) (s : σ) : ℕ∞ :=
  ⨅ n : {n : ℕ // (c.reached host s n).1.state ≠ .running}, (n.val : ℕ∞)

section

variable {host : Host σ} {c : Cpu} {s : σ} {n : Nat}

theorem lifespan_eq (runs : ∀ k < n, (c.reached host s k).1.state = .running)
    (stopped : (c.reached host s n).1.state ≠ .running) : c.lifespan host s = n := by
  rw [lifespan, ENat.iInf_eq_natCast_iff]
  constructor
  · exact ⟨⟨n, stopped⟩, rfl⟩
  · rintro ⟨k, ended⟩
    apply Nat.cast_le.mpr
    by_contra before
    exact ended (runs k (Nat.not_le.mp before))

/-- A machine that still runs has not come to its end. -/
theorem le_lifespan (running : (c.reached host s n).1.state = .running) :
    (n : ℕ∞) ≤ c.lifespan host s := by
  apply le_iInf
  rintro ⟨k, ended⟩
  apply Nat.cast_le.mpr
  by_contra before
  apply ended
  rw [← reached_of_le (Nat.le_of_lt (Nat.not_le.mp before)) ended]
  exact running

/-! ## The cycle counter -/

/-- Steps that succeed are counted. -/
theorem toNat_cycles_reached (succeeds : c.Succeeds host s n) :
    (c.reached host s n).1.cycles.toNat = c.cycles.toNat + n := by
  induction n with
  | zero => rfl
  | succ n ih =>
    obtain ⟨i, last⟩ := succeeds n (Nat.lt_succ_self n)
    have earlier := ih fun k before => succeeds k (Nat.lt_succ_of_lt before)
    calc
      (c.reached host s (n + 1)).1.cycles.toNat = (c.reached host s n).1.cycles.toNat + 1 :=
        toNat_cycles_of_result_step last
      _ = c.cycles.toNat + (n + 1) := by rw [earlier, Nat.add_assoc]

theorem toNat_cycles_sub (succeeds : c.Succeeds host s n) :
    ((c.reached host s n).1.cycles - c.cycles).toNat = n := by
  have counted := toNat_cycles_reached succeeds
  rw [UInt64.toNat_sub_of_le _ _ (UInt64.le_iff_toNat_le.mpr (by omega)), counted]
  omega

/-- Within the budget that is allowed there is room for every count. -/
theorem not_countedOut_reached {budget : UInt64} (within : n < c.allowance budget)
    (succeeds : c.Succeeds host s n) : ¬(c.reached host s n).1.CountedOut := by
  have counted := toNat_cycles_reached succeeds
  rw [allowance] at within
  rw [CountedOut]
  omega

end

/-! ## One run -/

section

variable {host : Host σ} {c : Cpu} {s : σ}

/-- A run of at most `n` steps, none of which fails or panics, executes `n` instructions or goes to
the end. -/
theorem exists_executed {n : Nat} (fine : ∀ e, (c.steps host n s).ending ≠ .failed e)
    (returns : (c.steps host n s).ending ≠ .panicked) :
    ∃ k ≤ n, c.Succeeds host s k ∧ (k : ℕ∞) = min (n : ℕ∞) (c.lifespan host s) ∧
      ((c.steps host n s).cpu, (c.steps host n s).host) = c.reached host s k := by
  have course := c.steps_course host s n
  generalize c.steps host n s = run at course fine returns ⊢
  cases course with
  | spent succeeds running =>
    exact ⟨n, Nat.le_refl n, succeeds, (min_eq_left (le_lifespan running)).symm, rfl⟩
  | stopped k within succeeds stopped =>
    have life : c.lifespan host s = k := lifespan_eq (fun _ before => succeeds.running before) stopped
    refine ⟨k, within, succeeds, ?_, rfl⟩
    rw [life, min_eq_right (Nat.cast_le.mpr within)]
  | failed k e => exact absurd rfl (fine e)
  | panicked => contradiction

theorem result_counted_eq_ok_iff {run : Run σ} {count : UInt64} :
    (c.counted run).result = .ok count ↔
      (∀ e, run.ending ≠ .failed e) ∧ run.ending ≠ .panicked ∧
        run.cpu.cycles - c.cycles = count := by
  unfold counted
  cases run.ending <;> simp

theorem result_counted_eq_error_iff {run : Run σ} {e : CpuError} :
    (c.counted run).result = .error e ↔ run.ending = .failed e := by
  unfold counted
  cases run.ending <;> simp

theorem result_counted_eq_panicked_iff {run : Run σ} :
    (c.counted run).result = .panicked ↔ run.ending = .panicked := by
  unfold counted
  cases run.ending <;> simp

/-- The loop ends before the counter would go beyond its greatest value. -/
theorem ending_ne_panicked {budget : UInt64} :
    (c.steps host (c.allowance budget) s).ending ≠ .panicked := by
  have course := c.steps_course host s (c.allowance budget)
  generalize c.steps host (c.allowance budget) s = run at course ⊢
  cases course with
  | spent | stopped | failed => nofun
  | panicked k within succeeds panicked =>
    exact absurd (countedOut_of_panicked panicked).2 (not_countedOut_reached within succeeds)

/-- A run with a budget that does not fail executes as many instructions as the budget, the machine
and the cycle counter allow, and counts each of them. -/
theorem runLimited_executes {budget count : UInt64}
    (ended : (c.runLimited host s budget).result = .ok count) :
    (count.toNat : ℕ∞) = min (min (budget.toNat : ℕ∞) (c.lifespan host s))
        ((UInt64.size - 1 - c.cycles.toNat : ℕ) : ℕ∞) ∧
      c.Succeeds host s count.toNat ∧
      ((c.runLimited host s budget).cpu, (c.runLimited host s budget).host) =
        c.reached host s count.toNat ∧
      ∀ k ≤ count.toNat, (c.reached host s k).1.cycles.toNat = c.cycles.toNat + k := by
  rw [runLimited_eq] at ended ⊢
  obtain ⟨fine, returns, difference⟩ := result_counted_eq_ok_iff.mp ended
  obtain ⟨k, within, succeeds, least, final⟩ := exists_executed fine returns
  have number : count.toNat = k := by
    have cpu : (c.steps host (c.allowance budget) s).cpu = (c.reached host s k).1 :=
      congrArg Prod.fst final
    rw [← difference, cpu]
    exact toNat_cycles_sub succeeds
  rw [number]
  refine ⟨?_, succeeds, final, ?_⟩
  · rw [least, allowance, Nat.mono_cast.map_min, min_right_comm]
  · intro j before
    exact toNat_cycles_reached fun i lower => succeeds i (Nat.lt_of_lt_of_le lower before)

/-! ## Two runs -/

theorem state_of_ending {n : Nat} (returns : (c.steps host n s).ending ≠ .panicked) :
    (c.steps host n s).ending = .spent ↔ (c.steps host n s).cpu.state = .running := by
  have course := c.steps_course host s n
  generalize c.steps host n s = run at course returns ⊢
  cases course with
  | spent succeeds running => exact ⟨fun _ => running, fun _ => rfl⟩
  | stopped k within succeeds stopped => exact ⟨nofun, fun running => absurd running stopped⟩
  | failed => exact ⟨nofun, nofun⟩
  | panicked => contradiction

theorem ending_ne_spent {n : Nat} (stopped : (c.reached host s n).1.state ≠ .running) :
    (c.steps host n s).ending ≠ .spent := by
  have course := c.steps_course host s n
  generalize c.steps host n s = run at course ⊢
  cases course with
  | spent succeeds running => exact absurd running stopped
  | stopped | failed | panicked => nofun

/-- A run that is not cut short comes to the first step after which the machine does not run. -/
theorem exists_end {n : Nat} (ended : (c.steps host n s).ending ≠ .spent)
    (returns : (c.steps host n s).ending ≠ .panicked) :
    ∃ k ≤ n, (∀ j < k, (c.reached host s j).1.state = .running) ∧
      (c.reached host s k).1.state ≠ .running := by
  have course := c.steps_course host s n
  generalize c.steps host n s = run at course ended returns
  cases course with
  | spent | panicked => contradiction
  | stopped k within succeeds stopped => exact ⟨k, within, fun j => succeeds.running, stopped⟩
  | failed k e within succeeds running failed =>
    refine ⟨k + 1, within, ?_, ?_⟩
    · intro j before
      rcases Nat.lt_succ_iff_lt_or_eq.mp before with before | rfl
      · exact succeeds.running before
      · exact running
    · intro ended
      have left : (c.reached host s (k + 1)).1 = { (c.reached host s k).1 with state := .error } :=
        cpu_of_failed_step running failed
      rw [left] at ended
      contradiction

/-- After the end of a run further steps change nothing. -/
theorem steps_of_le {m n : Nat} (ended : (c.steps host m s).ending ≠ .spent) (later : m ≤ n) :
    c.steps host n s = c.steps host m s := by
  obtain ⟨rest, rfl⟩ := Nat.exists_eq_add_of_le later
  have stopped (returns : (c.steps host m s).ending ≠ .panicked) :=
    mt (state_of_ending returns).mpr ended
  rw [steps_add]
  generalize c.steps host m s = run at ended stopped ⊢
  obtain ⟨_ | _ | e | _, next, t⟩ := run
  · contradiction
  · exact steps_of_not_running (stopped nofun)
  · rfl
  · rfl

theorem allowance_saturatingAdd {a b : UInt64} {next : Cpu}
    (cycles : next.cycles.toNat = c.cycles.toNat + c.allowance a) :
    c.allowance (saturatingAdd a b) = c.allowance a + next.allowance b := by
  have bound := c.cycles.toNat_lt
  have positive : UInt64.size = 2 ^ 64 := rfl
  simp only [allowance, toNat_saturatingAdd] at cycles ⊢
  omega

theorem allowance_le_saturatingAdd (c : Cpu) (a b : UInt64) :
    c.allowance a ≤ c.allowance (saturatingAdd a b) := by
  have bound := a.toNat_lt
  have positive : UInt64.size = 2 ^ 64 := rfl
  simp only [allowance, toNat_saturatingAdd]
  omega

/-- A run that ends before its budget is spent is not changed by a second budget. -/
theorem runLimited_of_not_spent {a b : UInt64}
    (ended : (c.steps host (c.allowance a) s).ending ≠ .spent) :
    c.runLimited host s (saturatingAdd a b) = c.runLimited host s a ∧
      (c.runLimited host s a).cpu.runLimited host (c.runLimited host s a).host b =
        ⟨.ok 0, (c.runLimited host s a).cpu, (c.runLimited host s a).host⟩ := by
  constructor
  · rw [runLimited_eq, runLimited_eq, steps_of_le ended (allowance_le_saturatingAdd c a b)]
  · rw [runLimited_eq host c s a]
    have stopped : (c.counted (c.steps host (c.allowance a) s)).cpu.state ≠ .running :=
      mt (state_of_ending ending_ne_panicked).mpr ended
    rw [runLimited_eq, steps_of_not_running stopped, counted]
    simp only [UInt64.sub_self]

/-- A run whose budget is spent goes on with a second budget. -/
theorem steps_of_spent {a b : UInt64} (spent : (c.steps host (c.allowance a) s).ending = .spent) :
    let first := c.runLimited host s a
    c.steps host (c.allowance (saturatingAdd a b)) s =
      first.cpu.steps host (first.cpu.allowance b) first.host := by
  have cycles : (c.steps host (c.allowance a) s).cpu.cycles.toNat =
      c.cycles.toNat + c.allowance a := by
    have course := c.steps_course host s (c.allowance a)
    generalize c.steps host (c.allowance a) s = run at course spent ⊢
    cases course with
    | spent succeeds running => exact toNat_cycles_reached succeeds
    | stopped | failed | panicked => contradiction
  rw [allowance_saturatingAdd cycles, steps_add]
  simp only [runLimited_eq, counted]
  generalize c.steps host (c.allowance a) s = run at spent ⊢
  obtain ⟨ending, next, t⟩ := run
  subst spent
  rfl

private theorem telescope (first middle last : UInt64) :
    last - first = middle - first + (last - middle) := by
  grind

/-- The counts of two runs, one after the other, add up to the difference of the cycle counters. -/
theorem toNat_add_counts {a b k l : UInt64} (first : (c.runLimited host s a).result = .ok k)
    (second : ((c.runLimited host s a).cpu.runLimited host (c.runLimited host s a).host b).result =
      .ok l) : (k + l).toNat = k.toNat + l.toNat := by
  obtain ⟨-, -, reached, counts⟩ := runLimited_executes first
  obtain ⟨-, -, -, further⟩ := runLimited_executes second
  have middle : (c.runLimited host s a).cpu.cycles.toNat = c.cycles.toNat + k.toNat := by
    rw [← counts k.toNat (Nat.le_refl _), ← reached]
  have last := further l.toNat (Nat.le_refl _)
  have bound := (((c.runLimited host s a).cpu.reached host
    (c.runLimited host s a).host l.toNat).1.cycles).toNat_lt
  rw [UInt64.toNat_add]
  exact Nat.mod_eq_of_lt (by omega)

end

/-- Two budgets used one after the other do what their sum does. -/
theorem runLimited_saturatingAdd (host : Host σ) (c : Cpu) (s : σ) (a b : UInt64) :
    let first := c.runLimited host s a
    let second := first.cpu.runLimited host first.host b
    let whole := c.runLimited host s (saturatingAdd a b)
    second.cpu = whole.cpu ∧ second.host = whole.host ∧
      (∀ k l, first.result = .ok k → second.result = .ok l →
        whole.result = .ok (k + l) ∧ (k + l).toNat = k.toNat + l.toNat) ∧
      ∀ e, whole.result = .error e ↔ first.result = .error e ∨ second.result = .error e := by
  intro first second whole
  by_cases spent : (c.steps host (c.allowance a) s).ending = .spent
  · have same : c.steps host (c.allowance (saturatingAdd a b)) s =
        first.cpu.steps host (first.cpu.allowance b) first.host := steps_of_spent spent
    have first_eq : first = c.counted (c.steps host (c.allowance a) s) := runLimited_eq ..
    have second_eq : second =
        first.cpu.counted (first.cpu.steps host (first.cpu.allowance b) first.host) := runLimited_eq ..
    have whole_eq : whole =
        c.counted (first.cpu.steps host (first.cpu.allowance b) first.host) := by
      rw [← same]
      exact runLimited_eq ..
    have fine : ∀ e, first.result ≠ .error e := by
      intro e failed
      rw [first_eq] at failed
      have ended := result_counted_eq_error_iff.mp failed
      rw [spent] at ended
      contradiction
    rw [whole_eq, second_eq]
    refine ⟨rfl, rfl, ?_, ?_⟩
    · intro k l one two
      refine ⟨?_, toNat_add_counts one (second_eq ▸ two)⟩
      rw [first_eq] at one
      obtain ⟨-, -, former⟩ := result_counted_eq_ok_iff.mp one
      obtain ⟨last, returns, latter⟩ := result_counted_eq_ok_iff.mp two
      refine result_counted_eq_ok_iff.mpr ⟨last, returns, ?_⟩
      rw [← former, ← latter, first_eq]
      exact telescope ..
    · intro e
      rw [or_iff_right (fine e)]
      exact result_counted_eq_error_iff.trans result_counted_eq_error_iff.symm
  · obtain ⟨wholly, idle⟩ := runLimited_of_not_spent (b := b) spent
    have second_eq : second = ⟨.ok 0, first.cpu, first.host⟩ := idle
    have whole_eq : whole = first := wholly
    rw [second_eq, whole_eq]
    refine ⟨rfl, rfl, ?_, ?_⟩
    · intro k l one two
      cases two
      rw [UInt64.add_zero]
      exact ⟨one, rfl⟩
    · simp

/-- A run without a budget that returns does so in as many steps as the machine lasts, and is the same
as every run with a budget for so many steps. -/
theorem run_eq_runLimited {host : Host σ} {c : Cpu} {s : σ} {fuel : Nat} {out : Counted σ}
    (answered : c.run host fuel s = some out) (returns : out.result ≠ .panicked) :
    ∃ k : ℕ, c.lifespan host s = k ∧ k ≤ fuel ∧
      (c.cycles.toNat + k < UInt64.size →
        ∀ budget : UInt64, k ≤ budget.toNat → c.runLimited host s budget = out) := by
  rw [run] at answered
  split at answered
  · contradiction
  · next ended =>
    obtain rfl := Option.some.inj answered
    obtain ⟨k, within, runs, stopped⟩ :=
      exists_end ended (mt result_counted_eq_panicked_iff.mpr returns)
    refine ⟨k, lifespan_eq runs stopped, within, ?_⟩
    intro room budget enough
    have allowed : k ≤ c.allowance budget := by
      rw [allowance]
      omega
    have last : (c.steps host k s).ending ≠ .spent := ending_ne_spent stopped
    rw [runLimited_eq, steps_of_le last allowed, ← steps_of_le last within]

/-- A run in two slices is the run with the sum of their budgets. A run with a budget does not panic,
and if it does not fail it executes as many instructions as its budget, the machine and the cycle
counter allow. A run without a budget, if it comes to its end and returns, is every run with a budget
for as many steps as it tries. -/
theorem runs_in_slices (host : Host σ) (c : Cpu) (s : σ) :
    (∀ a b : UInt64,
      let first := c.runLimited host s a
      let second := first.cpu.runLimited host first.host b
      let whole := c.runLimited host s (saturatingAdd a b)
      second.cpu = whole.cpu ∧ second.host = whole.host ∧
        (∀ k l, first.result = .ok k → second.result = .ok l →
          whole.result = .ok (k + l) ∧ (k + l).toNat = k.toNat + l.toNat) ∧
        ∀ e, whole.result = .error e ↔ first.result = .error e ∨ second.result = .error e) ∧
    (∀ budget : UInt64, (c.runLimited host s budget).result ≠ .panicked ∧
      ∀ count : UInt64, (c.runLimited host s budget).result = .ok count →
        (count.toNat : ℕ∞) = min (min (budget.toNat : ℕ∞) (c.lifespan host s))
            ((UInt64.size - 1 - c.cycles.toNat : ℕ) : ℕ∞) ∧
          c.Succeeds host s count.toNat ∧
          ((c.runLimited host s budget).cpu, (c.runLimited host s budget).host) =
            c.reached host s count.toNat ∧
          ∀ k ≤ count.toNat, (c.reached host s k).1.cycles.toNat = c.cycles.toNat + k) ∧
    ∀ fuel out, c.run host fuel s = some out → out.result ≠ .panicked →
      ∃ k : ℕ, c.lifespan host s = k ∧ k ≤ fuel ∧
        (c.cycles.toNat + k < UInt64.size →
          ∀ budget : UInt64, k ≤ budget.toNat → c.runLimited host s budget = out) := by
  refine ⟨runLimited_saturatingAdd host c s, fun budget => ⟨?_, fun count => runLimited_executes⟩,
    fun fuel out => run_eq_runLimited⟩
  rw [runLimited_eq]
  exact mt result_counted_eq_panicked_iff.mp ending_ne_panicked

/-- A machine that halts with the last cycle that can be counted. -/
theorem halting_at_last_cycle :
    let c : Cpu := { powerOn .wrap with
      memory := Memory.zero.place 0 [0x82, 0, 7, 0x01], cycles := 0xfffffffffffffffd }
    let out := c.runLimited Host.collector #[] 100
    c.run Host.collector 9 #[] = some out ∧ out.result = .ok 2 ∧
      c.Succeeds Host.collector #[] 2 ∧ out.cpu.cycles = 0xffffffffffffffff := by
  intro c out
  obtain ⟨-, executed, ended⟩ := runs_in_slices Host.collector c #[]
  have counted : out.result = .ok 2 := by decide
  have life : c.lifespan Host.collector #[] = (2 : ℕ) := lifespan_eq (by decide) (by decide)
  have answered : (c.run Host.collector 9 #[]).isSome = true := by decide
  have returns : ∀ run ∈ c.run Host.collector 9 #[], run.result ≠ .panicked := by decide
  obtain ⟨run, answered⟩ := Option.isSome_iff_exists.mp answered
  obtain ⟨k, same, -, whole⟩ := ended 9 run answered (returns run answered)
  obtain rfl : 2 = k := Nat.cast_inj.mp (life.symm.trans same)
  refine ⟨?_, counted, ((executed 100).2 2 counted).2.1, by decide⟩
  exact answered.trans (congrArg some (whole (by decide) 100 (by decide)).symm)

end Cpu

end Ls8
