import Mathlib.Tactic.Basic
import Ls8.Proofs.Machine.History

/-! # Trapping is wrapping up to the first overflow

A machine that traps and its copy that wraps are stepped side by side in the same surroundings. A
step reads the mode only where an instruction overflows, so the two agree in everything but the mode
until one does. `Overflows` says when that is; there the trapping machine fails, and from then on it
stays as it is. -/

namespace Ls8

variable {σ : Type}

namespace Operation

theorem not_fits_add {left right : UInt8} :
    ¬add.Fits left right ↔ 255 < left.toNat + right.toNat := by
  simp only [Fits, exact]
  omega

theorem not_fits_multiply {left right : UInt8} :
    ¬multiply.Fits left right ↔ 255 < left.toNat * right.toNat := by
  simp only [Fits, exact]
  omega

theorem not_fits_subtract_one {left : UInt8} : ¬subtract.Fits left 1 ↔ left = 0 := by
  rw [← UInt8.toNat_inj]
  have bound := left.toNat_lt
  simp only [Fits, exact, UInt8.toNat_ofNat]
  omega

theorem not_fits_add_one {left : UInt8} : ¬add.Fits left 1 ↔ left = 255 := by
  rw [not_fits_add, ← UInt8.toNat_inj]
  have bound := left.toNat_lt
  simp only [UInt8.toNat_ofNat]
  omega

end Operation

/-- A machine in another overflow mode. -/
def Cpu.withMode (c : Cpu) (mode : OverflowMode) : Cpu := { c with mode }

/-- The end of a step with the machine in another overflow mode. -/
def Outcome.withMode (o : Outcome σ) (mode : OverflowMode) : Outcome σ :=
  { o with cpu := o.cpu.withMode mode }

namespace Cpu

/-- The instructions whose exact result is no byte, with the operation that overflows. -/
inductive Overflows (c : Cpu) : Instruction Register → Overflow → Prop
  | add {a b : Register} (beyond : 255 < (c.get a).toNat + (c.get b).toNat) :
    Overflows c (.add a b) ⟨.add, c.get a, c.get b⟩
  | mul {a b : Register} (beyond : 255 < (c.get a).toNat * (c.get b).toNat) :
    Overflows c (.mul a b) ⟨.multiply, c.get a, c.get b⟩
  | push {r : Register} (low : c.get Register.stackPointer = 0) :
    Overflows c (.push r) ⟨.subtract, 0, 1⟩
  | pop {r : Register} (high : c.get Register.stackPointer = 255) :
    Overflows c (.pop r) ⟨.add, 255, 1⟩

/-- A wrapping machine is never stopped by an overflow. -/
theorem overflow?_eq_none_of_wrap {c : Cpu} (wraps : c.mode = .wrap) (i : Instruction Register) :
    c.overflow? i = none := by
  cases stopped : c.overflow? i with
  | none => rfl
  | some reason =>
    obtain ⟨-, traps, -⟩ := overflow?_eq_some_iff.mp stopped
    rw [wraps] at traps
    contradiction

/-- What `Overflows` lists is what stops a trapping machine. -/
theorem overflow?_trap_eq_some_iff {c : Cpu} {i : Instruction Register} {reason : Overflow} :
    (c.withMode .trap).overflow? i = some reason ↔ c.Overflows i reason := by
  rw [overflow?_eq_some_iff]
  constructor
  · rintro ⟨asked, -, misfit⟩
    cases i with
    | add a b =>
      cases asked
      exact .add (Operation.not_fits_add.mp misfit)
    | mul a b =>
      cases asked
      exact .mul (Operation.not_fits_multiply.mp misfit)
    | push r =>
      cases asked
      have low : c.get Register.stackPointer = 0 := Operation.not_fits_subtract_one.mp misfit
      have overflows : c.Overflows (.push r) _ := .push low
      rwa [← low] at overflows
    | pop r =>
      cases asked
      have high : c.get Register.stackPointer = 255 := Operation.not_fits_add_one.mp misfit
      have overflows : c.Overflows (.pop r) _ := .pop high
      rwa [← high] at overflows
    | _ => contradiction
  · intro overflows
    cases overflows with
    | add beyond => exact ⟨rfl, rfl, Operation.not_fits_add.mpr beyond⟩
    | mul beyond => exact ⟨rfl, rfl, Operation.not_fits_multiply.mpr beyond⟩
    | push low =>
      refine ⟨?_, rfl, by decide⟩
      rw [← low]
      rfl
    | pop high =>
      refine ⟨?_, rfl, by decide⟩
      rw [← high]
      rfl

theorem counter_withMode (c : Cpu) (mode : OverflowMode) :
    (c.withMode mode).counter = c.counter := rfl

theorem fetch_withMode (c : Cpu) (mode : OverflowMode) : (c.withMode mode).fetch = c.fetch := rfl

theorem announce_withMode (host : Host σ) (c : Cpu) (mode : OverflowMode) (s : σ)
    (i : Instruction Register) : (c.withMode mode).announce host s i = c.announce host s i := rfl

theorem countedOut_withMode (c : Cpu) (mode : OverflowMode) :
    (c.withMode mode).CountedOut ↔ c.CountedOut := Iff.rfl

theorem printed_withMode (c : Cpu) (mode : OverflowMode) (i : Instruction Register) :
    (c.withMode mode).printed i = c.printed i := by
  cases i <;> rfl

theorem after_withMode (c : Cpu) (mode : OverflowMode) (i : Instruction Register) :
    (c.withMode mode).after i = (c.after i).withMode mode := by
  cases i
  case jeq | jne =>
    simp only [after]
    rw [apply_ite (Cpu.withMode · mode)]
    rfl
  all_goals rfl

/-- A step fails with an overflow exactly when the instruction about to be executed overflows. -/
theorem result_step_eq_overflow_iff {host : Host σ} {c : Cpu} {s : σ} {counter : UInt8}
    {reason : Overflow} :
    (c.step host s).result = .error (.overflow counter reason) ↔
      c.state = .running ∧ counter = c.counter ∧
        ∃ i, c.fetch = .ok i ∧ c.overflow? i = some reason := by
  by_cases running : c.state = .running
  · rw [step_of_running host running]
    cases fetched : c.fetch with
    | error e => cases e <;> simp [fail, DecodeError.at]
    | ok i =>
      cases stopped : c.overflow? i with
      | some found => simp [fail, running, stopped, eq_comm]
      | none =>
        simp only [stopped]
        obtain ⟨t, _ | reason⟩ := host.print (c.announce host s i) (c.printed i)
        · by_cases full : c.CountedOut <;> simp [finish, stopped, full]
        · simp [fail, stopped]
  · simp [step_of_not_running host s running, running]

/-- Nothing but an overflow makes a step depend on the mode. -/
theorem step_withMode (host : Host σ) {c : Cpu} {mode : OverflowMode} (s : σ)
    (same : ∀ i, c.fetch = .ok i → (c.withMode mode).overflow? i = c.overflow? i) :
    (c.withMode mode).step host s = (c.step host s).withMode mode := by
  by_cases running : c.state = .running
  · have ended := step_of_running host running s
    have running' : (c.withMode mode).state = .running := running
    have ended' := step_of_running host running' s
    simp only [fetch_withMode, counter_withMode, announce_withMode] at ended'
    rw [ended, ended']
    cases fetched : c.fetch with
    | error e => rfl
    | ok i =>
      simp only [same i fetched, printed_withMode, after_withMode]
      cases c.overflow? i with
      | some reason => rfl
      | none =>
        simp only
        obtain ⟨t, _ | reason⟩ := host.print (c.announce host s i) (c.printed i)
        · simp only [countedOut_withMode]
          by_cases full : c.CountedOut
          · simp only [if_pos full]
            rfl
          · simp only [if_neg full]
            rfl
        · rfl
  · have stopped : (c.withMode mode).state ≠ .running := running
    rw [step_of_not_running host s running, step_of_not_running host s stopped]
    rfl

theorem mode_step (host : Host σ) (c : Cpu) (s : σ) : (c.step host s).cpu.mode = c.mode := by
  by_cases running : c.state = .running
  · obtain ⟨e, t, ended⟩ | ⟨i, t, -, -, ⟨-, ended⟩ | ⟨-, ended⟩⟩ := step_cases host running s
    · rw [ended]
      rfl
    · rw [ended]
      exact c.mode_after i
    · rw [ended]
      exact c.mode_after i
  · rw [step_of_not_running host s running]

theorem mode_reached (host : Host σ) (c : Cpu) (s : σ) (n : Nat) :
    (c.reached host s n).1.mode = c.mode := by
  induction n with
  | zero => rfl
  | succ n ih => exact (mode_step host _ _).trans ih

theorem mode_steps (host : Host σ) (c : Cpu) (s : σ) (n : Nat) :
    (c.steps host n s).cpu.mode = c.mode := by
  have course := c.steps_course host s n
  generalize c.steps host n s = run at course
  cases course with
  | spent | stopped | failed => exact mode_reached ..
  | panicked k => exact mode_reached host c s (k + 1)

theorem mode_runLimited (host : Host σ) (c : Cpu) (s : σ) (budget : UInt64) :
    (c.runLimited host s budget).cpu.mode = c.mode := by
  rw [runLimited_eq]
  exact mode_steps host c s _

/-- The step that follows a number of steps ends alike for a machine and its trapping copy, in
everything but the mode. -/
def Alike (host : Host σ) (c : Cpu) (s : σ) (n : Nat) : Prop :=
  (c.withMode .trap).attempt host s n = (c.attempt host s n).withMode .trap

section

variable {host : Host σ} {c : Cpu} {s : σ} {n : Nat}

theorem reached_trap (alike : ∀ k < n, c.Alike host s k) :
    (c.withMode .trap).reached host s n =
      ((c.reached host s n).1.withMode .trap, (c.reached host s n).2) := by
  cases n with
  | zero => rfl
  | succ n =>
    have last : (c.withMode .trap).attempt host s n = _ := alike n (Nat.lt_succ_self n)
    have next : (c.withMode .trap).reached host s (n + 1) =
        (((c.withMode .trap).attempt host s n).cpu, ((c.withMode .trap).attempt host s n).host) :=
      rfl
    rw [next, last]
    rfl

theorem attempt_trap (alike : ∀ k < n, c.Alike host s k) :
    (c.withMode .trap).attempt host s n =
      ((c.reached host s n).1.withMode .trap).step host (c.reached host s n).2 := by
  rw [attempt, reached_trap alike]

/-- Where all earlier steps ended alike, the next one overflows only as `Overflows` says. -/
theorem overflow_attempt_trap_iff (alike : ∀ k < n, c.Alike host s k) {counter : UInt8}
    {reason : Overflow} :
    ((c.withMode .trap).attempt host s n).result = .error (.overflow counter reason) ↔
      let m := (c.reached host s n).1
      m.state = .running ∧ counter = m.counter ∧ ∃ i, m.fetch = .ok i ∧ m.Overflows i reason := by
  rw [attempt_trap alike, result_step_eq_overflow_iff]
  simp only [overflow?_trap_eq_some_iff]
  rfl

/-- Where all earlier steps ended alike, the next one does so too unless it overflows. -/
theorem alike_of_no_overflow (wraps : c.mode = .wrap) (alike : ∀ k < n, c.Alike host s k)
    (fits : ∀ counter reason,
      ((c.withMode .trap).attempt host s n).result ≠ .error (.overflow counter reason)) :
    c.Alike host s n := by
  have mode : (c.reached host s n).1.mode = .wrap := (c.mode_reached host s n).trans wraps
  rw [Alike, attempt_trap alike, attempt]
  by_cases running : (c.reached host s n).1.state = .running
  · refine step_withMode host _ fun i fetched => ?_
    rw [overflow?_eq_none_of_wrap mode i]
    cases stopped : ((c.reached host s n).1.withMode .trap).overflow? i with
    | none => rfl
    | some reason =>
      have overflows := overflow?_trap_eq_some_iff.mp stopped
      exact absurd ((overflow_attempt_trap_iff alike).mpr ⟨running, rfl, i, fetched, overflows⟩)
        (fits _ reason)
  · have stays : ((c.reached host s n).1.withMode .trap).state ≠ .running := running
    rw [step_of_not_running host _ running, step_of_not_running host _ stays]
    rfl

theorem alike_before (wraps : c.mode = .wrap)
    (fits : ∀ k < n, ∀ counter reason,
      ((c.withMode .trap).attempt host s k).result ≠ .error (.overflow counter reason)) :
    ∀ k < n, c.Alike host s k := by
  induction n with
  | zero => exact fun k before => absurd before (Nat.not_lt_zero k)
  | succ n ih =>
    have alike := ih fun k before => fits k (Nat.lt_succ_of_lt before)
    intro k before
    rcases Nat.lt_succ_iff_lt_or_eq.mp before with before | rfl
    · exact alike k before
    · exact alike_of_no_overflow wraps alike (fits k before)

end

/-- A trapping machine and its wrapping copy end every step alike as long as no step overflows. A
step overflows exactly when all steps before it ended alike and the instruction about to be executed
is one that `Overflows` lists; its error names the address of the instruction and the operation. The
wrapping machine never overflows. -/
theorem trap_follows_wrap (host : Host σ) {c : Cpu} (wraps : c.mode = .wrap) (s : σ) (n : Nat) :
    let trapping := c.withMode .trap
    ((∀ k ≤ n, ∀ counter reason,
        (trapping.attempt host s k).result ≠ .error (.overflow counter reason)) →
      trapping.attempt host s n = (c.attempt host s n).withMode .trap) ∧
    (∀ counter reason,
      (trapping.attempt host s n).result = .error (.overflow counter reason) ↔
        (∀ k < n, trapping.attempt host s k = (c.attempt host s k).withMode .trap) ∧
        let m := (c.reached host s n).1
        m.state = .running ∧ counter = m.counter ∧
          ∃ i, m.fetch = .ok i ∧ m.Overflows i reason) ∧
    ∀ counter reason, (c.attempt host s n).result ≠ .error (.overflow counter reason) := by
  intro trapping
  refine ⟨fun fits => ?_, fun counter reason => ⟨fun overflows => ?_, fun ⟨alike, next⟩ => ?_⟩,
    fun counter reason overflows => ?_⟩
  · exact alike_before wraps (fun k before => fits k (Nat.le_of_lt_succ before)) n
      (Nat.lt_succ_self n)
  · have running : (trapping.reached host s n).1.state = .running :=
      (result_step_eq_overflow_iff.mp overflows).1
    -- An earlier overflow would have stopped the machine, and then it would not run now.
    have alike : ∀ k < n, c.Alike host s k := by
      refine alike_before wraps fun k before counter reason failed => ?_
      have earlier := running_of_le (Nat.le_of_lt before) running
      have next : (trapping.reached host s (k + 1)).1 = _ := cpu_of_failed_step earlier failed
      have later := running_of_le (Nat.succ_le_of_lt before) running
      rw [next] at later
      contradiction
    exact ⟨alike, (overflow_attempt_trap_iff alike).mp overflows⟩
  · exact (overflow_attempt_trap_iff alike).mpr next
  · obtain ⟨-, -, i, -, stopped⟩ := result_step_eq_overflow_iff.mp overflows
    have mode : (c.reached host s n).1.mode = .wrap := (c.mode_reached host s n).trans wraps
    rw [overflow?_eq_none_of_wrap mode i] at stopped
    contradiction

/-- Doubling 200 stops the trapping machine and is 144 for its copy. -/
theorem trap_doubling :
    let c : Cpu := { powerOn .wrap with memory := Memory.zero.place 0 [0x82, 0, 200, 0xa0, 0, 0] }
    c.mode = .wrap ∧
      ((c.withMode .trap).attempt Host.collector #[] 1).result =
        .error (.overflow 3 ⟨.add, 200, 200⟩) ∧
      (c.attempt Host.collector #[] 1).cpu.get 0 = 144 := by
  intro c
  obtain ⟨-, overflows, -⟩ := trap_follows_wrap Host.collector (c := c) rfl #[] 1
  refine ⟨rfl, (overflows 3 _).mpr ⟨fun k before => ?_, rfl, rfl, .add 0 0, rfl, ?_⟩, ?_⟩
  · obtain rfl : k = 0 := Nat.lt_one_iff.mp before
    rfl
  · exact .add (by decide)
  · decide

end Cpu

end Ls8
