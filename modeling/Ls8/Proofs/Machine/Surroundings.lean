import Ls8.Proofs.Machine.History

/-! # Machines in related surroundings

What a machine does depends on its surroundings only through the failures of writing. So if one kind
of surroundings can be seen as another, a run in the first is a run in the second: the same result
and the same machine, and the surroundings that are left can be seen as those of the other run. -/

namespace Ls8

variable {σ τ : Type}

/-- Surroundings of one kind can be seen as surroundings of another, which take up the same and fail
in the same way. -/
structure Host.Maps (f : σ → τ) (host : Host σ) (image : Host τ) : Prop where
  write : ∀ s bytes, image.write (f s) bytes = (f (host.write s bytes).1, (host.write s bytes).2)
  log : ∀ s event, image.log (f s) event = f (host.log s event)

/-- The end of a step with its surroundings seen as others. -/
def Outcome.map (f : σ → τ) (ended : Outcome σ) : Outcome τ := ⟨ended.result, ended.cpu, f ended.host⟩

/-- The end of a run with its surroundings seen as others. -/
def Run.map (f : σ → τ) (run : Run σ) : Run τ := ⟨run.ending, run.cpu, f run.host⟩

/-- The end of a counted run with its surroundings seen as others. -/
def Counted.map (f : σ → τ) (run : Counted σ) : Counted τ := ⟨run.result, run.cpu, f run.host⟩

namespace Host.Maps

variable {f : σ → τ} {host : Host σ} {image : Host τ}

theorem print (maps : host.Maps f image) (s : σ) (pieces : List (List UInt8)) :
    image.print (f s) pieces = (f (host.print s pieces).1, (host.print s pieces).2) := by
  induction pieces generalizing s with
  | nil => rfl
  | cons piece rest ih =>
    rw [Host.print, Host.print, maps.write]
    obtain ⟨t, _ | reason⟩ := host.write s piece
    · exact ih t
    · rfl

theorem announce (maps : host.Maps f image) (c : Cpu) (s : σ) (i : Instruction Register) :
    c.announce image (f s) i = f (c.announce host s i) := maps.log ..

theorem fail (maps : host.Maps f image) (c : Cpu) (s : σ) (e : CpuError) :
    c.fail image (f s) e = (c.fail host s e).map f := by
  rw [Cpu.fail, maps.log]
  rfl

theorem finish (maps : host.Maps f image) (c next : Cpu) (s : σ) (i : Instruction Register) :
    c.finish image next (f s) i = (c.finish host next s i).map f := by
  rw [Cpu.finish, Cpu.finish, maps.log]
  split
  · rfl
  · rfl

theorem step (maps : host.Maps f image) (c : Cpu) (s : σ) :
    c.step image (f s) = (c.step host s).map f := by
  by_cases running : c.state = .running
  · rw [Cpu.step_of_running image running, Cpu.step_of_running host running]
    cases c.fetch with
    | error e => exact maps.fail c s _
    | ok i =>
      simp only [maps.announce]
      cases c.overflow? i with
      | some reason => exact maps.fail c _ _
      | none =>
        simp only [maps.print]
        obtain ⟨t, _ | reason⟩ := host.print (c.announce host s i) (c.printed i)
        · simp only
          split
          · rfl
          · exact maps.finish c _ t i
        · exact maps.fail c t _
  · rw [Cpu.step_of_not_running image (f s) running, Cpu.step_of_not_running host s running]
    rfl

theorem steps (maps : host.Maps f image) (count : Nat) (c : Cpu) (s : σ) :
    c.steps image count (f s) = (c.steps host count s).map f := by
  induction count generalizing c s with
  | zero => rfl
  | succ count ih =>
    rw [Cpu.steps, Cpu.steps]
    by_cases running : c.state = .running
    · rw [if_pos running, if_pos running, maps.step]
      cases c.step host s with
      | mk result next t =>
        cases result with
        | ok i => exact ih next t
        | error e => rfl
        | panicked => rfl
    · rw [if_neg running, if_neg running]
      rfl

theorem runLimited (maps : host.Maps f image) (c : Cpu) (s : σ) (budget : UInt64) :
    c.runLimited image (f s) budget = (c.runLimited host s budget).map f := by
  rw [Cpu.runLimited_eq, Cpu.runLimited_eq, maps.steps]
  rfl

theorem run (maps : host.Maps f image) (fuel : Nat) (c : Cpu) (s : σ) :
    c.run image fuel (f s) = (c.run host fuel s).map (·.map f) := by
  simp only [Cpu.run, maps.steps, Run.map]
  split
  · rfl
  · rfl

end Host.Maps

end Ls8
