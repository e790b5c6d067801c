import Ls8.Machine.Effect

/-! # Runs

A run is a loop of steps that goes on while the machine runs and ends early when a step fails.
`runTo` is the loop of a run with a budget, which also looks at the cycle counter: the budget is put on
top of the count to begin with, as far as the counter goes. `steps` is a loop of so many steps; `run`
asks for the end of a run without a budget, and has no answer when the steps it was allowed to try
were not enough. -/

namespace Ls8

variable {σ : Type}

/-- How a number of steps ended. -/
inductive Ending
  /-- All steps were executed and the machine still runs. -/
  | spent
  /-- The machine halted, or did not run to begin with. -/
  | stopped
  /-- A step failed. -/
  | failed (e : CpuError)
  /-- A step panicked. -/
  | panicked
  deriving DecidableEq

/-- The end of a run: how it ended, the machine, and its surroundings. -/
structure Run (σ : Type) where
  ending : Ending
  cpu : Cpu
  host : σ

/-- The end of a run with the number of instructions executed. -/
structure Counted (σ : Type) where
  result : Result CpuError UInt64
  cpu : Cpu
  host : σ

/-- The sum of two numbers of instructions, or the greatest number that can be counted if that is
less. -/
def saturatingAdd (a b : UInt64) : UInt64 :=
  UInt64.ofNat (min (a.toNat + b.toNat) (UInt64.size - 1))

namespace Cpu

/-- Executes up to `count` instructions. -/
def steps (host : Host σ) : Nat → Cpu → σ → Run σ
  | 0, c, s => ⟨if c.state = .running then .spent else .stopped, c, s⟩
  | count + 1, c, s =>
    if c.state = .running then
      match c.step host s with
      | ⟨.ok _, next, s⟩ => steps host count next s
      | ⟨.error e, next, s⟩ => ⟨.failed e, next, s⟩
      | ⟨.panicked, next, s⟩ => ⟨.panicked, next, s⟩
    else ⟨.stopped, c, s⟩

/-- Executes instructions while the machine runs and has counted fewer than `limit`. -/
@[semireducible] def runTo (host : Host σ) (limit : UInt64) (c : Cpu) (s : σ) : Run σ :=
  if c.state = .running then
    if c.cycles < limit then
      match _stepped : c.step host s with
      | ⟨.ok _, next, s⟩ => runTo host limit next s
      | ⟨.error e, next, s⟩ => ⟨.failed e, next, s⟩
      | ⟨.panicked, next, s⟩ => ⟨.panicked, next, s⟩
    else ⟨.spent, c, s⟩
  else ⟨.stopped, c, s⟩
termination_by limit.toNat - c.cycles.toNat
decreasing_by
  have counted := toNat_cycles_of_result_step (congrArg Outcome.result _stepped)
  have below := UInt64.lt_iff_toNat_lt.mp ‹c.cycles < limit›
  simp only [_stepped] at counted
  omega

/-- The end of a run that began with a machine, with the difference of the cycle counters. -/
def counted (c : Cpu) (run : Run σ) : Counted σ :=
  { result := match run.ending with
      | .spent | .stopped => .ok (run.cpu.cycles - c.cycles)
      | .failed e => .error e
      | .panicked => .panicked
    cpu := run.cpu
    host := run.host }

/-- Runs a machine for at most `budget` instructions. -/
def runLimited (host : Host σ) (c : Cpu) (s : σ) (budget : UInt64) : Counted σ :=
  c.counted (c.runTo host (saturatingAdd c.cycles budget) s)

/-- Runs a machine until it stops, if it does so within `fuel` steps. -/
def run (host : Host σ) (fuel : Nat) (c : Cpu) (s : σ) : Option (Counted σ) :=
  let run := c.steps host fuel s
  if run.ending = .spent then none else some (c.counted run)

/-- Steps in two parts: a second part begins where the first left off, unless a step failed. -/
theorem steps_add (host : Host σ) (m n : Nat) (c : Cpu) (s : σ) :
    c.steps host (m + n) s =
      match c.steps host m s with
      | ⟨.failed e, next, s⟩ => ⟨.failed e, next, s⟩
      | ⟨.panicked, next, s⟩ => ⟨.panicked, next, s⟩
      | ⟨_, next, s⟩ => next.steps host n s := by
  induction m generalizing c s with
  | zero =>
    simp only [Nat.zero_add, steps]
    by_cases h : c.state = .running <;> simp [h]
  | succ m ih =>
    rw [Nat.add_right_comm, steps, steps]
    by_cases h : c.state = .running
    · simp only [h, if_true]
      cases stepped : c.step host s with
      | mk result next after =>
        cases result with
        | ok i => exact ih next after
        | error e => rfl
        | panicked => rfl
    · simp only [h, if_false]
      cases n <;> simp [steps, h]

end Cpu

end Ls8
