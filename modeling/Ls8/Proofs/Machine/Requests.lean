import Ls8.Proofs.Machine.History

/-! # Requests to a machine

All that can be asked of a machine from outside, with what it gives back. No request reads the
instruction executed last: the same requests to two machines that differ in nothing else have the
same answers and the same effect on the surroundings. The difference itself lasts until an
instruction is executed or the machine is reset, and then is gone. -/

namespace Ls8

variable {σ : Type}

/-- What can be asked of a machine. -/
inductive Request
  | step
  /-- To run until it stops, observed after as many steps as there is fuel. -/
  | run (fuel : Nat)
  | runLimited (budget : UInt64)
  | push (value : UInt8)
  | pop
  | loadAt (base : UInt8) (image : List UInt8)
  | reset

/-- What a request gives back. -/
inductive Answer
  | stepped (result : Result CpuError (Instruction Register))
  | counted (result : Result CpuError UInt64)
  /-- The run has not come to its end. -/
  | unfinished
  | pushed (result : Except Overflow Unit)
  | popped (result : Except Overflow UInt8)
  | loaded (result : Except LoadError Unit)
  | done

/-- The end of a request: its answer, the machine, and its surroundings. -/
structure Reply (σ : Type) where
  answer : Answer
  cpu : Cpu
  host : σ

/-- The end of a sequence of requests, with all their answers. -/
structure Replies (σ : Type) where
  answers : List Answer
  cpu : Cpu
  host : σ

namespace Cpu

/-- Does what is asked. -/
def serve (host : Host σ) (c : Cpu) (s : σ) : Request → Reply σ
  | .step =>
    let ended := c.step host s
    ⟨.stepped ended.result, ended.cpu, ended.host⟩
  | .run fuel =>
    match c.run host fuel s with
    | some ended => ⟨.counted ended.result, ended.cpu, ended.host⟩
    | none =>
      let soFar := c.steps host fuel s
      ⟨.unfinished, soFar.cpu, soFar.host⟩
  | .runLimited budget =>
    let ended := c.runLimited host s budget
    ⟨.counted ended.result, ended.cpu, ended.host⟩
  | .push value =>
    match (Cpu.push value).run c with
    | .ok () next => ⟨.pushed (.ok ()), next, s⟩
    | .error reason next => ⟨.pushed (.error reason), next, s⟩
  | .pop =>
    match Cpu.pop.run c with
    | .ok value next => ⟨.popped (.ok value), next, s⟩
    | .error reason next => ⟨.popped (.error reason), next, s⟩
  | .loadAt base image =>
    match (Cpu.loadAt base image).run c with
    | .ok () next => ⟨.loaded (.ok ()), next, s⟩
    | .error reason next => ⟨.loaded (.error reason), next, s⟩
  | .reset => ⟨.done, c.reset, s⟩

/-- A request to load an image places the image or changes nothing. -/
theorem serve_loadAt (host : Host σ) (c : Cpu) (s : σ) (base : UInt8) (image : List UInt8) :
    c.serve host s (.loadAt base image) =
      if base.toNat + image.length ≤ memorySize then
        ⟨.loaded (.ok ()), { c with memory := c.memory.place base image }, s⟩
      else ⟨.loaded (.error ⟨image.length, memorySize - base.toNat⟩), c, s⟩ := by
  rw [serve, run_loadAt]
  by_cases fits : base.toNat + image.length ≤ memorySize
  · simp only [if_pos fits]
  · simp only [if_neg fits]

/-- Does one request after the other. -/
def serveAll (host : Host σ) (c : Cpu) (s : σ) : List Request → Replies σ
  | [] => ⟨[], c, s⟩
  | request :: rest =>
    let first := c.serve host s request
    let further := first.cpu.serveAll host first.host rest
    ⟨first.answer :: further.answers, further.cpu, further.host⟩

/-- One of the next steps executes an instruction. -/
def Executes (host : Host σ) (c : Cpu) (s : σ) (steps : Nat) : Prop :=
  ∃ k < steps, ∃ i, (c.attempt host s k).result = .ok i

/-- A request after which the last instruction executed is known: it executes one, or it is a
reset. -/
def Renews (host : Host σ) (c : Cpu) (s : σ) : Request → Prop
  | .step => c.Executes host s 1
  | .run fuel => c.Executes host s fuel
  | .runLimited budget => c.Executes host s (c.allowance budget)
  | .reset => True
  | _ => False

/-- One of a sequence of requests renews the last instruction. -/
def Renewed (host : Host σ) (c : Cpu) (s : σ) : List Request → Prop
  | [] => False
  | request :: rest =>
    c.Renews host s request ∨
      (c.serve host s request).cpu.Renewed host (c.serve host s request).host rest

/-- The machine with another last instruction. -/
def withLast (c : Cpu) (last : Option (Instruction Register)) : Cpu := { c with last }

end Cpu

/-! ## Machines that differ in the last instruction -/

/-- The end of a run with another last instruction. -/
def Run.withLast (run : Run σ) (last : Option (Instruction Register)) : Run σ :=
  { run with cpu := run.cpu.withLast last }

/-- The end of a request with another last instruction. -/
def Reply.withLast (reply : Reply σ) (last : Option (Instruction Register)) : Reply σ :=
  { reply with cpu := reply.cpu.withLast last }

/-- The end of a sequence of requests with another last instruction. -/
def Replies.withLast (replies : Replies σ) (last : Option (Instruction Register)) : Replies σ :=
  { replies with cpu := replies.cpu.withLast last }

namespace Cpu

variable (host : Host σ) (c : Cpu) (s : σ) (last : Option (Instruction Register))

@[simp] theorem fetch_withLast : (c.withLast last).fetch = c.fetch := rfl

@[simp] theorem counter_withLast : (c.withLast last).counter = c.counter := rfl

@[simp] theorem mode_withLast : (c.withLast last).mode = c.mode := rfl

@[simp] theorem registers_withLast : (c.withLast last).registers = c.registers := rfl

@[simp] theorem memory_withLast : (c.withLast last).memory = c.memory := rfl

@[simp] theorem after_withLast (i : Instruction Register) :
    (c.withLast last).after i = (c.after i).withLast last := by
  cases i
  case jeq | jne =>
    simp only [after, apply_ite (fun next : Cpu => next.withLast last)]
    rfl
  all_goals rfl

@[simp] theorem overflow?_withLast (i : Instruction Register) :
    (c.withLast last).overflow? i = c.overflow? i := by
  cases i <;> rfl

@[simp] theorem printed_withLast (i : Instruction Register) :
    (c.withLast last).printed i = c.printed i := by
  cases i <;> rfl

@[simp] theorem announce_withLast (i : Instruction Register) :
    (c.withLast last).announce host s i = c.announce host s i := rfl

@[simp] theorem countedOut_withLast : (c.withLast last).CountedOut ↔ c.CountedOut := Iff.rfl

/-- An instruction that is executed and counted replaces the last one; a failure and a panic leave
it. -/
theorem step_withLast :
    (∃ i, (c.step host s).result = .ok i ∧ (c.withLast last).step host s = c.step host s) ∨
      (∀ i, (c.step host s).result ≠ .ok i) ∧ (c.withLast last).step host s =
        ⟨(c.step host s).result, (c.step host s).cpu.withLast last, (c.step host s).host⟩ := by
  by_cases running : c.state = .running
  · rw [step_of_running host running s, step_of_running host (c := c.withLast last) running s]
    simp only [fetch_withLast, counter_withLast, overflow?_withLast, printed_withLast,
      after_withLast, announce_withLast, countedOut_withLast]
    cases c.fetch with
    | error e => exact .inr ⟨nofun, rfl⟩
    | ok i =>
      simp only
      generalize c.announce host s i = t
      cases c.overflow? i with
      | some reason => exact .inr ⟨nofun, rfl⟩
      | none =>
        simp only
        obtain ⟨t, _ | reason⟩ := host.print t (c.printed i)
        · simp only
          by_cases full : c.CountedOut
          · rw [if_pos full, if_pos full]
            exact .inr ⟨nofun, rfl⟩
          · rw [if_neg full, if_neg full]
            exact .inl ⟨i, rfl, rfl⟩
        · exact .inr ⟨nofun, rfl⟩
  · rw [step_of_not_running host s running]
    exact .inr ⟨nofun, step_of_not_running host (c := c.withLast last) s running⟩

variable {host c s} in
theorem not_executes_zero : ¬c.Executes host s 0 := by
  rintro ⟨k, before, -⟩
  exact Nat.not_lt_zero k before

variable {host c s} in
/-- An instruction is executed by some steps only if the first executes one. -/
theorem executes_succ_iff {n : Nat} :
    c.Executes host s (n + 1) ↔ ∃ i, (c.step host s).result = .ok i := by
  constructor
  · rintro ⟨k, -, i, succeeded⟩
    cases k with
    | zero => exact ⟨i, succeeded⟩
    | succ k => exact succeeds_of_result succeeded 0 k.succ_pos
  · rintro ⟨i, succeeded⟩
    exact ⟨0, n.succ_pos, i, succeeded⟩

/-- Some steps agree on the last instruction exactly if they execute one. The first of them decides:
after an instruction the machines are the same, and a failure or a panic ends the run. -/
theorem steps_withLast (n : Nat) :
    (c.Executes host s n ∧ (c.withLast last).steps host n s = c.steps host n s) ∨
      (¬c.Executes host s n ∧
        (c.withLast last).steps host n s = (c.steps host n s).withLast last) := by
  cases n with
  | zero => exact .inr ⟨not_executes_zero, rfl⟩
  | succ n =>
    rw [executes_succ_iff, steps, steps]
    by_cases running : c.state = .running
    · have other : (c.withLast last).state = .running := running
      rw [if_pos running, if_pos other]
      rcases step_withLast host c s last with ⟨i, succeeded, same⟩ | ⟨idle, same⟩
      · rw [same]
        exact .inl ⟨⟨i, succeeded⟩, rfl⟩
      · refine .inr ⟨not_exists.mpr idle, ?_⟩
        rw [same]
        cases stepped : c.step host s with
        | mk result next t =>
          rw [stepped] at idle
          cases result with
          | ok i => exact absurd rfl (idle i)
          | error e => rfl
          | panicked => rfl
    · have other : (c.withLast last).state ≠ .running := running
      rw [if_neg running, if_neg other]
      refine .inr ⟨?_, rfl⟩
      rintro ⟨i, succeeded⟩
      exact running (running_of_result_step succeeded)

/-- A request is answered alike, and its effect is the same but for the last instruction, which is
left unless the request renews it. -/
theorem serve_withLast (request : Request) :
    (c.Renews host s request ∧ (c.withLast last).serve host s request = c.serve host s request) ∨
      (¬c.Renews host s request ∧
        (c.withLast last).serve host s request = (c.serve host s request).withLast last) := by
  cases request with
  | step =>
    rw [Renews, executes_succ_iff, serve, serve]
    rcases step_withLast host c s last with ⟨i, succeeded, same⟩ | ⟨idle, same⟩
    · rw [same]
      exact .inl ⟨⟨i, succeeded⟩, rfl⟩
    · rw [same]
      exact .inr ⟨fun ⟨i, succeeded⟩ => idle i succeeded, rfl⟩
  | run fuel =>
    rw [Renews, serve, serve, run, run]
    rcases steps_withLast host c s last fuel with ⟨executes, same⟩ | ⟨idle, same⟩
    · rw [same]
      exact .inl ⟨executes, rfl⟩
    · rw [same]
      refine .inr ⟨idle, ?_⟩
      by_cases spent : (c.steps host fuel s).ending = .spent
      · simp only [Run.withLast, spent]
        rfl
      · simp only [Run.withLast, spent]
        rfl
  | runLimited budget =>
    rw [Renews, serve, serve, runLimited_eq, runLimited_eq]
    have allowed : (c.withLast last).allowance budget = c.allowance budget := rfl
    rcases steps_withLast host c s last (c.allowance budget) with ⟨executes, same⟩ | ⟨idle, same⟩
    · rw [allowed, same]
      exact .inl ⟨executes, rfl⟩
    · rw [allowed, same]
      exact .inr ⟨idle, rfl⟩
  | push value =>
    refine .inr ⟨id, ?_⟩
    simp only [serve, run_push, mode_withLast, registers_withLast]
    cases c.mode.apply .subtract c.registers.stackPointer 1 <;> rfl
  | pop =>
    refine .inr ⟨id, ?_⟩
    simp only [serve, run_pop, mode_withLast, registers_withLast, memory_withLast]
    cases c.mode.apply .add c.registers.stackPointer 1 <;> rfl
  | loadAt base image =>
    refine .inr ⟨id, ?_⟩
    rw [serve_loadAt, serve_loadAt]
    by_cases fits : base.toNat + image.length ≤ memorySize
    · rw [if_pos fits, if_pos fits]
      rfl
    · rw [if_neg fits, if_neg fits]
      rfl
  | reset => exact .inl ⟨trivial, rfl⟩

/-- The same for any number of requests. -/
theorem serveAll_withLast (requests : List Request) :
    (c.Renewed host s requests ∧
        (c.withLast last).serveAll host s requests = c.serveAll host s requests) ∨
      (¬c.Renewed host s requests ∧
        (c.withLast last).serveAll host s requests =
          (c.serveAll host s requests).withLast last) := by
  induction requests generalizing c s with
  | nil => exact .inr ⟨id, rfl⟩
  | cons request rest ih =>
    rw [Renewed, serveAll, serveAll]
    rcases serve_withLast host c s last request with ⟨renews, same⟩ | ⟨keeps, same⟩
    · rw [same]
      exact .inl ⟨.inl renews, rfl⟩
    · rw [same]
      rcases ih (c.serve host s request).cpu (c.serve host s request).host with
        ⟨renewed, further⟩ | ⟨kept, further⟩
      · simp only [Reply.withLast, further]
        exact .inl ⟨.inr renewed, trivial⟩
      · simp only [Reply.withLast, further]
        exact .inr ⟨not_or.mpr ⟨keeps, kept⟩, rfl⟩

end Cpu

end Ls8
