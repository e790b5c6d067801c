import Ls8.Proofs.Machine.History

/-! # Failed steps

A step can fail because the instruction cannot be decoded, because it overflows, or because its
output is not taken up, whatever part of the output the surroundings have kept. Each of these happens
before the first write to the machine, so the machine comes out as it was and is only stopped by the
error. The end of a failed run is then the machine before the failed step, and an error that names an
address names the program counter that is left. -/

namespace Ls8

variable {σ : Type}

/-- The address of the instruction that an error is about. -/
def CpuError.counter? : CpuError → Option UInt8
  | .unknownOpcode counter _ | .invalidRegister counter _ | .overflow counter _ => some counter
  | .notRunning _ | .output _ => none

theorem DecodeError.counter?_at (counter : UInt8) (e : DecodeError) :
    (e.at counter).counter? = some counter := by
  cases e <;> rfl

namespace Cpu

/-- Whatever makes an instruction fail does so before the machine has been changed. -/
theorem cpu_of_failed_cycle {host : Host σ} {c : Cpu} (running : c.state = .running) {s : σ}
    {e : CpuError} {w : World σ} (failed : (Activity.cycle host).run ⟨c, s⟩ = .error e w) :
    w.cpu = c := by
  rw [Activity.run_cycle host running] at failed
  cases fetched : c.fetch with
  | error reason =>
    rw [fetched] at failed
    cases failed
    rfl
  | ok i =>
    simp only [fetched] at failed
    cases stopped : c.overflow? i with
    | some reason =>
      rw [stopped] at failed
      cases failed
      rfl
    | none =>
      simp only [stopped] at failed
      generalize host.print (c.announce host s i) (c.printed i) = printed at failed
      obtain ⟨t, _ | reason⟩ := printed
      · contradiction
      · cases failed
        rfl

/-- An error of a step is about the instruction at the program counter. -/
theorem counter_of_failed_step {host : Host σ} {c : Cpu} {s : σ} {e : CpuError}
    (failed : (c.step host s).result = .error e) : ∀ counter ∈ e.counter?, counter = c.counter := by
  intro counter named
  by_cases running : c.state = .running
  · have passage := step_passage host running s
    generalize c.step host s = ended at passage failed
    cases passage with
    | undecoded reason =>
      cases failed
      rw [DecodeError.counter?_at] at named
      exact (Option.some.inj named).symm
    | overflowing i reason =>
      cases failed
      exact (Option.some.inj named).symm
    | refused =>
      cases failed
      contradiction
    | uncounted | finished => contradiction
  · rw [step_of_not_running host s running] at failed
    cases failed
    contradiction

/-- A run that begins with `c` ends because an instruction fails: the instructions before it succeed,
and the machine is left as they left it, with an error about the instruction that it stands at. -/
structure FailsWith (host : Host σ) (c : Cpu) (s : σ) (e : CpuError) (final : Cpu) (t : σ)
    (k : Nat) : Prop where
  succeeds : c.Succeeds host s k
  running : (c.reached host s k).1.state = .running
  failed : (c.attempt host s k).result = .error e
  cpu : final = { (c.reached host s k).1 with state := .error }
  host : t = (c.attempt host s k).host
  counter : ∀ counter ∈ e.counter?, counter = final.counter

theorem exists_failsWith_of_counted {host : Host σ} {c : Cpu} {s : σ} {n : Nat} {e : CpuError}
    (ended : (c.counted (c.steps host n s)).result = .error e) :
    ∃ k, c.FailsWith host s e (c.steps host n s).cpu (c.steps host n s).host k := by
  have course := c.steps_course host s n
  rw [counted] at ended
  generalize c.steps host n s = run at course ended
  cases course with
  | spent | stopped | panicked => contradiction
  | failed k reason within succeeds running failed =>
    cases ended
    have about := counter_of_failed_step failed
    exact ⟨k, succeeds, running, failed, rfl, rfl, about⟩

/-- An instruction that fails has not changed the machine by then, wherever in the cycle it fails. So a
failed step changes nothing but the state of a machine that ran, and nothing at all, inside or
outside, if the machine did not run. A failed run, with a budget or without one, ends with the machine
that its last successful step left, but for the state. -/
theorem failure_changes_only_state (host : Host σ) (c : Cpu) (s : σ) :
    (c.state = .running → ∀ e w, (Activity.cycle host).run ⟨c, s⟩ = .error e w → w.cpu = c) ∧
    (∀ e, (c.step host s).result = .error e →
      if c.state = .running then (c.step host s).cpu = { c with state := .error }
      else e = .notRunning c.state ∧ (c.step host s).cpu = c ∧ (c.step host s).host = s) ∧
    (∀ budget e, (c.runLimited host s budget).result = .error e →
      ∃ k, c.FailsWith host s e (c.runLimited host s budget).cpu
        (c.runLimited host s budget).host k) ∧
    ∀ fuel run e, c.run host fuel s = some run → run.result = .error e →
      ∃ k, c.FailsWith host s e run.cpu run.host k := by
  refine ⟨fun running e w => cpu_of_failed_cycle running, ?_, ?_, ?_⟩
  · intro e failed
    by_cases running : c.state = .running
    · rw [if_pos running]
      exact cpu_of_failed_step running failed
    · rw [if_neg running]
      rw [step_of_not_running host s running] at failed ⊢
      cases failed
      exact ⟨rfl, rfl, rfl⟩
  · intro budget e ended
    rw [runLimited_eq] at ended ⊢
    exact exists_failsWith_of_counted ended
  · intro fuel ended e answered failed
    rw [run] at answered
    split at answered
    · contradiction
    · cases answered
      exact exists_failsWith_of_counted failed

/-- A machine that prints 200 into a sink with room for two bytes is left before the instruction. -/
theorem failed_printing :
    let c : Cpu := { powerOn .wrap with memory := Memory.zero.place 0 [0x82, 0, 200, 0x47, 0] }
    (c.runLimited Sink.host ⟨#[], some 2⟩ 5).result = .error (.output "sink full") ∧
      (c.runLimited Sink.host ⟨#[], some 2⟩ 5).host.content = #[50, 48] ∧
      ∃ k, c.FailsWith Sink.host ⟨#[], some 2⟩ (.output "sink full")
        (c.runLimited Sink.host ⟨#[], some 2⟩ 5).cpu
        (c.runLimited Sink.host ⟨#[], some 2⟩ 5).host k := by
  intro c
  have failed : (c.runLimited Sink.host ⟨#[], some 2⟩ 5).result = .error (.output "sink full") := by
    decide
  obtain ⟨-, -, limited, -⟩ := failure_changes_only_state Sink.host c ⟨#[], some 2⟩
  exact ⟨failed, by decide, limited 5 _ failed⟩

end Cpu

end Ls8
