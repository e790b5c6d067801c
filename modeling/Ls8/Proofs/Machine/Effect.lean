import Ls8.Machine.Effect
import Ls8.Proofs.Basic

/-! # Steps in surroundings that take up all output

What a step does follows from the instruction at the program counter, but for what its surroundings
refuse. Where they take up everything, an instruction that has been fetched is stopped by its overflow
only, and what has been printed is what the instructions print. -/

namespace Ls8

variable {σ : Type}

/-- Surroundings in which printing never fails. -/
def Host.NeverFails (host : Host σ) : Prop := ∀ s bytes, (host.write s bytes).2 = none

theorem Host.print_cons_of_written {host : Host σ} {s t : σ} {piece : List UInt8}
    (written : host.write s piece = (t, none)) (rest : List (List UInt8)) :
    host.print s (piece :: rest) = host.print t rest := by
  rw [Host.print, written]

theorem Host.print_cons_of_refused {host : Host σ} {s t : σ} {piece : List UInt8} {reason : String}
    (refused : host.write s piece = (t, some reason)) (rest : List (List UInt8)) :
    host.print s (piece :: rest) = (t, some reason) := by
  rw [Host.print, refused]

/-- A piece that is taken up is followed by the others. -/
theorem Host.NeverFails.print_cons {host : Host σ} (never : host.NeverFails) (s : σ)
    (piece : List UInt8) (rest : List (List UInt8)) :
    host.print s (piece :: rest) = host.print (host.write s piece).1 rest :=
  print_cons_of_written (Prod.ext rfl (never s piece)) rest

theorem Host.NeverFails.print_snd {host : Host σ} (never : host.NeverFails) (s : σ)
    (pieces : List (List UInt8)) : (host.print s pieces).2 = none := by
  induction pieces generalizing s with
  | nil => rfl
  | cons piece rest ih => rw [never.print_cons, ih]

/-- Surroundings that take up everything that is printed; `out` reads off all that they took up. -/
structure Host.Accepting (host : Host σ) (out : σ → List UInt8) : Prop where
  accepts : ∀ s bytes, (host.write s bytes).2 = none
  keeps : ∀ s bytes, out (host.write s bytes).1 = out s ++ bytes
  quiet : ∀ s event, out (host.log s event) = out s

namespace Host.Accepting

variable {host : Host σ} {out : σ → List UInt8}

theorem neverFails (accepting : host.Accepting out) : host.NeverFails := accepting.accepts

theorem out_print (accepting : host.Accepting out) (s : σ) (pieces : List (List UInt8)) :
    out (host.print s pieces).1 = out s ++ pieces.flatten := by
  induction pieces generalizing s with
  | nil => exact (List.append_nil _).symm
  | cons piece rest ih =>
    rw [accepting.neverFails.print_cons, ih, accepting.keeps, List.flatten_cons, List.append_assoc]

theorem out_finish (accepting : host.Accepting out) (c next : Cpu) (s : σ)
    (i : Instruction Register) : out (c.finish host next s i).host = out s := by
  rw [Cpu.finish]
  split
  · exact accepting.quiet ..
  · rfl

end Host.Accepting

theorem collector_accepting : Host.collector.Accepting Array.toList where
  accepts _ _ := rfl
  keeps _ _ := by simp [Host.collector]
  quiet _ _ := rfl

namespace Cpu

theorem overflow?_eq_some_iff {c : Cpu} {i : Instruction Register} {reason : Overflow} :
    c.overflow? i = some reason ↔
      c.demand? i = some reason ∧ c.mode = .trap ∧
        ¬reason.operation.Fits reason.left reason.right := by
  unfold overflow? OverflowMode.overflow?
  rw [Option.bind_eq_some_iff]
  constructor
  · rintro ⟨d, asked, misfit⟩
    split at misfit
    · next trapped =>
      cases misfit
      exact ⟨asked, trapped⟩
    · contradiction
  · rintro ⟨asked, trapped⟩
    exact ⟨reason, asked, if_pos trapped⟩

@[simp] theorem mode_after (c : Cpu) (i : Instruction Register) : (c.after i).mode = c.mode := by
  cases i
  case jeq | jne =>
    simp only [after]
    split <;> rfl
  all_goals rfl

@[simp] theorem last_after (c : Cpu) (i : Instruction Register) : (c.after i).last = c.last := by
  cases i
  case jeq | jne =>
    simp only [after]
    split <;> rfl
  all_goals rfl

/-- A step of a running machine fails, or executes an instruction that did not overflow, and then
panics or finishes it. -/
theorem step_cases (host : Host σ) {c : Cpu} (running : c.state = .running) (s : σ) :
    (∃ e t, c.step host s = c.fail host t e) ∨
      ∃ i t, c.fetch = .ok i ∧ c.overflow? i = none ∧
        (c.CountedOut ∧ c.step host s = ⟨.panicked, c.after i, t⟩ ∨
          ¬c.CountedOut ∧ c.step host s = c.finish host (c.after i) t i) := by
  have passage := step_passage host running s
  generalize c.step host s = ended at passage ⊢
  cases passage with
  | undecoded | overflowing | refused => exact .inl ⟨_, _, rfl⟩
  | uncounted i t fetched fits printed full => exact .inr ⟨i, t, fetched, fits, .inl ⟨full, rfl⟩⟩
  | finished i t fetched fits printed room => exact .inr ⟨i, t, fetched, fits, .inr ⟨room, rfl⟩⟩

/-- Where all output is taken up, an instruction that has been fetched can fail only by its
overflow. -/
theorem step_of_fetch {host : Host σ} {out : σ → List UInt8} (accepting : host.Accepting out)
    {c : Cpu} (running : c.state = .running) {i : Instruction Register} (fetched : c.fetch = .ok i)
    (s : σ) :
    let logged := c.announce host s i
    c.step host s =
      match c.overflow? i with
      | some reason => c.fail host logged (.overflow c.counter reason)
      | none =>
        let printed := (host.print logged (c.printed i)).1
        if c.CountedOut then ⟨.panicked, c.after i, printed⟩
        else c.finish host (c.after i) printed i := by
  intro logged
  have accepted : host.print logged (c.printed i) =
      ((host.print logged (c.printed i)).1, none) :=
    Prod.ext rfl (accepting.neverFails.print_snd logged _)
  have stepped := step_of_running host running s
  simp only [fetched] at stepped
  rw [stepped]
  cases c.overflow? i with
  | some reason => rfl
  | none =>
    simp only
    rw [accepted]

end Cpu

end Ls8
