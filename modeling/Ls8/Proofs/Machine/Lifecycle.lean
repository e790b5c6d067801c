import Ls8.Config
import Ls8.Proofs.Machine.Budget
import Ls8.Proofs.Machine.Decoding
import Ls8.Proofs.Machine.Modes
import Ls8.Proofs.Machine.Requests

/-! # The life of a machine

A machine is made as a configuration says, an image is loaded into it or refused, and from then on
it is asked for steps and runs, each in surroundings of its own. Its cycles, its last instruction and
its run state are those of a record of the instructions that it has executed and counted; `Chronicle`
says so, and every step keeps it. Only a call that panics can halt a machine with an instruction that
is not in the record. A machine that wraps and whose output is always taken up can be stopped by an
error only where the bytes at its program counter are no instruction; `Blamed` says that the first
error that was given back is about these bytes. -/

namespace Ls8

variable {σ : Type}

/-! ## Calls -/

/-- How a machine is made to go on. -/
inductive Drive
  | step
  /-- To run until it stops, observed after as many steps as there is fuel. -/
  | run (fuel : Nat)
  | runLimited (budget : UInt64)

/-- A drive as a request. -/
def Drive.request : Drive → Request
  | .step => .step
  | .run fuel => .run fuel
  | .runLimited budget => .runLimited budget

/-- The number of steps that a drive allows a machine. -/
def Drive.allowance (c : Cpu) : Drive → Nat
  | .step => 1
  | .run fuel => fuel
  | .runLimited budget => c.allowance budget

/-- A drive in surroundings that need not be those of any other call. -/
structure Call where
  {σ : Type}
  host : Host σ
  sink : σ
  drive : Drive

/-- The error that is given back, if there is one. -/
def Answer.error? : Answer → Option CpuError
  | .stepped (.error e) | .counted (.error e) => some e
  | _ => none

/-- Whether a call has come back, with a value or with an error. -/
def Answer.returned : Answer → Bool
  | .stepped .panicked | .counted .panicked => false
  | _ => true

/-- The error with which a run ends, if it ends with one. -/
def Ending.error? : Ending → Option CpuError
  | .failed e => some e
  | _ => none

/-- The bytes at an address are no instruction, and the error says why: the first is no operation, or
another is the first of those that the operation reads as registers and that is above 7. -/
inductive Memory.Undecodable (m : Memory) (address : UInt8) : CpuError → Prop
  | opcode (unknown : ∀ op : Opcode, op.byte ≠ m.read address) :
    Undecodable m address (.unknownOpcode address (m.read address))
  | register {op : Opcode} {bad : UInt8} (known : op.byte = m.read address)
      (first : (registerBytes op.operands [m.read (address + 1), m.read (address + 2)]).find?
        (7 < ·) = some bad) :
    Undecodable m address (.invalidRegister address bad)

namespace Cpu

/-- The machine after an image has been loaded at an address, or has been refused. -/
def loadedAt (c : Cpu) (base : UInt8) (image : List UInt8) : Cpu :=
  match (loadAt base image).run c with
  | .ok () next | .error _ next => next

/-- The end of a call. -/
def call (c : Cpu) (call : Call) : Reply call.σ := c.serve call.host call.sink call.drive.request

/-- The machine after calls, one after the other. -/
def afterCalls (c : Cpu) : List Call → Cpu
  | [] => c
  | call :: rest => (c.call call).cpu.afterCalls rest

/-- The answers of calls. -/
def answers (c : Cpu) : List Call → List Answer
  | [] => []
  | call :: rest => (c.call call).answer :: (c.call call).cpu.answers rest

/-- The errors that calls give back. -/
def errors (c : Cpu) : List Call → List CpuError
  | [] => []
  | call :: rest => (c.call call).answer.error?.toList ++ (c.call call).cpu.errors rest

/-- The instructions of the steps that succeed among up to `count` steps. -/
def executed (host : Host σ) : Nat → Cpu → σ → List (Instruction Register)
  | 0, _, _ => []
  | count + 1, c, s =>
    match c.step host s with
    | ⟨.ok i, next, s⟩ => i :: executed host count next s
    | ⟨.error _, _, _⟩ | ⟨.panicked, _, _⟩ => []

/-- The instructions of the steps that succeed in calls. -/
def executedBy (c : Cpu) : List Call → List (Instruction Register)
  | [] => []
  | call :: rest =>
    c.executed call.host (call.drive.allowance c) call.sink ++ (c.call call).cpu.executedBy rest

/-! ## Machines that have stopped -/

section

variable (host : Host σ) {c : Cpu} (s : σ) (stopped : c.state ≠ .running)
include stopped

theorem run_of_not_running (fuel : Nat) : c.run host fuel s = some ⟨.ok 0, c, s⟩ := by
  rw [run, steps_of_not_running stopped]
  simp only [counted, UInt64.sub_self]
  rfl

theorem runLimited_of_not_running (budget : UInt64) :
    c.runLimited host s budget = ⟨.ok 0, c, s⟩ := by
  rw [runLimited_eq, steps_of_not_running stopped]
  simp only [counted, UInt64.sub_self]

end

/-- A call of a machine that has stopped gives back at most that it has stopped. -/
theorem call_of_not_running {c : Cpu} (stopped : c.state ≠ .running) (call : Call) :
    (c.call call).cpu = c ∧ ∀ e ∈ (c.call call).answer.error?, e = .notRunning c.state := by
  obtain ⟨host, s, drive⟩ := call
  cases drive with
  | step =>
    simp only [Cpu.call, Drive.request, serve, step_of_not_running host s stopped]
    exact ⟨trivial, fun e same => (Option.some.inj same).symm⟩
  | run fuel =>
    simp only [Cpu.call, Drive.request, serve, run_of_not_running host s stopped]
    exact ⟨trivial, fun e member => absurd member (Option.not_mem_none e)⟩
  | runLimited budget =>
    simp only [Cpu.call, Drive.request, serve, runLimited_of_not_running host s stopped]
    exact ⟨trivial, fun e member => absurd member (Option.not_mem_none e)⟩

/-- What a run gives back tells how it has ended. -/
theorem answer_counted (c : Cpu) (run : Run σ) :
    (Answer.counted (c.counted run).result).error? = run.ending.error? ∧
      ((Answer.counted (c.counted run).result).returned → run.ending ≠ .panicked) := by
  obtain ⟨ending, next, t⟩ := run
  cases ending with
  | panicked => exact ⟨rfl, fun returned => absurd returned Bool.false_ne_true⟩
  | spent | stopped | failed e => exact ⟨rfl, fun _ => by simp⟩

/-- A call of a machine that runs is a number of steps, and gives back the error that ends them, or
panics with them. -/
theorem call_of_running {c : Cpu} (running : c.state = .running) (call : Call) :
    let run := c.steps call.host (call.drive.allowance c) call.sink
    (c.call call).cpu = run.cpu ∧ (c.call call).answer.error? = run.ending.error? ∧
      ((c.call call).answer.returned → run.ending ≠ .panicked) := by
  obtain ⟨host, s, drive⟩ := call
  cases drive with
  | step =>
    simp only [Cpu.call, Drive.request, Drive.allowance, serve, steps, if_pos running]
    cases c.step host s with
    | mk result next t =>
      cases result with
      | error e => exact ⟨rfl, rfl, fun _ => by simp⟩
      | panicked => exact ⟨rfl, rfl, fun returned => absurd returned Bool.false_ne_true⟩
      | ok i =>
        simp only
        split <;> exact ⟨trivial, rfl, fun _ => by simp⟩
  | run fuel =>
    simp only [Cpu.call, Drive.request, Drive.allowance, serve, run]
    by_cases spent : (c.steps host fuel s).ending = .spent
    · rw [if_pos spent, spent]
      exact ⟨rfl, rfl, fun _ => by simp⟩
    · rw [if_neg spent]
      exact ⟨rfl, answer_counted c _⟩
  | runLimited budget =>
    simp only [Cpu.call, Drive.request, Drive.allowance, serve, runLimited_eq]
    exact ⟨rfl, answer_counted c _⟩

theorem cpu_call (c : Cpu) (call : Call) :
    (c.call call).cpu = (c.steps call.host (call.drive.allowance c) call.sink).cpu := by
  by_cases running : c.state = .running
  · exact (call_of_running running call).1
  · rw [(call_of_not_running running call).1, steps_of_not_running running]

/-! ## What has been executed -/

section

variable {host : Host σ} {c : Cpu} {s : σ} {count : Nat}

theorem executed_succ_of_ok {i : Instruction Register} (ended : (c.step host s).result = .ok i) :
    c.executed host (count + 1) s =
      i :: (c.step host s).cpu.executed host count (c.step host s).host := by
  rw [executed]
  generalize c.step host s = out at ended ⊢
  obtain ⟨_, next, t⟩ := out
  obtain rfl := ended
  rfl

theorem executed_succ_of_ne_ok (ended : ∀ i, (c.step host s).result ≠ .ok i) :
    c.executed host (count + 1) s = [] := by
  rw [executed]
  generalize c.step host s = out at ended ⊢
  obtain ⟨i | e | _, next, t⟩ := out
  · exact absurd rfl (ended i)
  · rfl
  · rfl

theorem executed_of_not_running (stopped : c.state ≠ .running) : c.executed host count s = [] := by
  cases count with
  | zero => rfl
  | succ count =>
    refine executed_succ_of_ne_ok fun i succeeded => ?_
    exact stopped (running_of_result_step succeeded)

end

/-- A machine has executed and counted these instructions, in this order, since it was made. -/
structure Chronicle (executed : List (Instruction Register)) (c : Cpu) : Prop where
  cycles : c.cycles.toNat = executed.length
  last : c.last = executed.getLast?
  halted : executed.getLast? = some .hlt → c.state = .halted
  atHalt : c.state = .halted → c.memory.read c.counter = 0x01

/-- The byte of the instruction that halts a machine is 1, and the machine stays at it. -/
theorem read_of_halted_after {c : Cpu} {i : Instruction Register} (running : c.state = .running)
    (fetched : c.fetch = .ok i) (halted : (c.after i).state = .halted) :
    (c.after i).memory.read (c.after i).counter = 0x01 := by
  rw [state_after, running] at halted
  split at halted
  · next halts =>
    subst halts
    obtain ⟨rest, bytes⟩ := decode_eq_ok_iff.mp fetched
    exact (List.cons.inj bytes).1.symm
  · contradiction

theorem state_loadedAt (config : Config) (base : UInt8) (image : List UInt8) :
    (config.cpu.loadedAt base image).state = .running := by
  rw [loadedAt, run_loadAt]
  by_cases fits : base.toNat + image.length ≤ memorySize
  · rw [if_pos fits]
    rfl
  · rw [if_neg fits]
    rfl

namespace Chronicle

variable {host : Host σ} {c : Cpu} {before : List (Instruction Register)}

theorem loadedAt (config : Config) (base : UInt8) (image : List UInt8) :
    Chronicle [] (config.cpu.loadedAt base image) := by
  rw [Cpu.loadedAt, run_loadAt]
  by_cases fits : base.toNat + image.length ≤ memorySize
  · rw [if_pos fits]
    exact ⟨rfl, rfl, nofun, nofun⟩
  · rw [if_neg fits]
    exact ⟨rfl, rfl, nofun, nofun⟩

/-- The latest instruction of a machine that runs is no halt. -/
theorem getLast?_ne_hlt (chronicle : Chronicle before c) (running : c.state = .running) :
    before.getLast? ≠ some .hlt := by
  intro last
  rw [chronicle.halted last] at running
  contradiction

/-- A machine that an error stops has executed nothing more. -/
theorem stop (chronicle : Chronicle before c) (running : c.state = .running) :
    Chronicle before { c with state := .error } where
  cycles := chronicle.cycles
  last := chronicle.last
  halted last := absurd last (chronicle.getLast?_ne_hlt running)
  atHalt := nofun

/-- An instruction that is not counted is not recorded. -/
theorem panic (chronicle : Chronicle before c) (running : c.state = .running)
    {i : Instruction Register} (fetched : c.fetch = .ok i) : Chronicle before (c.after i) where
  cycles := by
    rw [cycles_after]
    exact chronicle.cycles
  last := by
    rw [last_after]
    exact chronicle.last
  halted last := absurd last (chronicle.getLast?_ne_hlt running)
  atHalt := read_of_halted_after running fetched

/-- An instruction that a step has executed and counted. -/
theorem finish {s : σ} {i : Instruction Register} (chronicle : Chronicle before c)
    (succeeded : (c.step host s).result = .ok i) :
    Chronicle (before ++ [i]) (c.step host s).cpu := by
  have running := running_of_result_step succeeded
  obtain ⟨fetched, -, t, ended⟩ := step_of_result_eq_ok succeeded
  constructor
  case cycles =>
    rw [toNat_cycles_of_result_step succeeded, chronicle.cycles, List.length_append]
    rfl
  case last =>
    rw [ended, List.getLast?_concat]
    rfl
  case halted =>
    rw [List.getLast?_concat, state_of_ok succeeded]
    exact fun halts => if_pos (Option.some.inj halts)
  case atHalt =>
    rw [ended]
    exact read_of_halted_after running fetched

/-- Steps add the instructions of those that succeed. -/
theorem steps (chronicle : Chronicle before c) (count : Nat) (s : σ) :
    Chronicle (before ++ c.executed host count s) (c.steps host count s).cpu := by
  induction count generalizing c s before with
  | zero =>
    rw [executed, List.append_nil]
    exact chronicle
  | succ count ih =>
    by_cases running : c.state = .running
    · cases ended : (c.step host s).result with
      | ok i =>
        rw [executed_succ_of_ok ended, steps_succ_of_ok ended, List.append_cons]
        exact ih (chronicle.finish ended) (c.step host s).host
      | error e =>
        rw [executed_succ_of_ne_ok (by rw [ended]; nofun), steps_succ_of_error running ended,
          List.append_nil, cpu_of_failed_step running ended]
        exact chronicle.stop running
      | panicked =>
        rw [executed_succ_of_ne_ok (by rw [ended]; nofun), steps_succ_of_panicked ended,
          List.append_nil]
        obtain ⟨i, t, fetched, stepped⟩ := step_of_panicked ended
        rw [stepped]
        exact chronicle.panic running fetched
    · rw [steps_of_not_running running, executed_of_not_running running, List.append_nil]
      exact chronicle

theorem afterCalls (chronicle : Chronicle before c) (calls : List Call) :
    Chronicle (before ++ c.executedBy calls) (c.afterCalls calls) := by
  induction calls generalizing c before with
  | nil =>
    rw [executedBy, List.append_nil]
    exact chronicle
  | cons call rest ih =>
    rw [executedBy, Cpu.afterCalls, ← List.append_assoc]
    apply ih
    rw [cpu_call]
    exact chronicle.steps _ _

end Chronicle

/-- Where a machine that has halted has a halt as its last instruction, a call that comes back keeps
it so. -/
theorem last_of_halted_call {c : Cpu} {call : Call}
    (halts : c.state = .halted → c.last = some .hlt) (returned : (c.call call).answer.returned)
    (halted : (c.call call).cpu.state = .halted) : (c.call call).cpu.last = some .hlt := by
  by_cases running : c.state = .running
  · obtain ⟨cpu, -, returns⟩ := call_of_running running call
    have fine := returns returned
    rw [cpu] at halted ⊢
    have course := c.steps_course call.host call.sink (call.drive.allowance c)
    generalize c.steps call.host (call.drive.allowance c) call.sink = run at course fine halted ⊢
    cases course with
    | spent succeeds runs => exact absurd (runs.symm.trans halted) nofun
    | stopped k within succeeds stopped =>
      cases k with
      | zero => exact absurd running stopped
      | succ k =>
        obtain ⟨i, last⟩ := succeeds k (Nat.lt_succ_self k)
        obtain ⟨rfl, -⟩ := halted_of_result_step last stopped
        exact last_of_result_step last
    | failed => contradiction
    | panicked => contradiction
  · rw [(call_of_not_running running call).1] at halted ⊢
    exact halts halted

theorem last_of_halted_afterCalls {c : Cpu} {calls : List Call}
    (halts : c.state = .halted → c.last = some .hlt)
    (returns : ∀ answer ∈ c.answers calls, answer.returned)
    (halted : (c.afterCalls calls).state = .halted) : (c.afterCalls calls).last = some .hlt := by
  induction calls generalizing c with
  | nil => exact halts halted
  | cons call rest ih =>
    obtain ⟨first, others⟩ := List.forall_mem_cons.mp returns
    exact ih (last_of_halted_call halts first) others halted

/-! ## Why a machine has been stopped -/

theorem undecodable_of_fetch {c : Cpu} {reason : DecodeError} (failed : c.fetch = .error reason) :
    c.memory.Undecodable c.counter (reason.at c.counter) := by
  unfold fetch Memory.readOffset at failed
  cases found : Opcode.ofByte? (c.memory.read c.counter) with
  | none =>
    rw [decode_of_ofByte?_eq_none found] at failed
    cases failed
    refine .opcode fun op same => ?_
    rw [Opcode.ofByte?_eq_some_iff.mpr same] at found
    contradiction
  | some op =>
    have known := Opcode.byte_of_ofByte? found
    have decoded := decode_byte op (c.memory.read (c.counter + 1)) (c.memory.read (c.counter + 2))
    rw [known] at decoded
    split at decoded
    · next bad first =>
      rw [decoded] at failed
      cases failed
      exact .register known first
    · obtain ⟨i, -, decoded⟩ := decoded
      rw [decoded] at failed
      contradiction

/-- Where printing never fails, a machine that wraps can fail only to decode. -/
theorem fetch_of_failed_step {host : Host σ} (never : host.NeverFails) {c : Cpu} {s : σ}
    {e : CpuError} (wraps : c.mode = .wrap) (running : c.state = .running)
    (failed : (c.step host s).result = .error e) :
    ∃ reason, c.fetch = .error reason ∧ e = reason.at c.counter := by
  have passage := step_passage host running s
  generalize c.step host s = ended at passage failed
  cases passage with
  | undecoded reason fetched => exact ⟨reason, fetched, (Result.error.inj failed).symm⟩
  | overflowing i reason fetched stopped =>
    rw [overflow?_eq_none_of_wrap wraps i] at stopped
    contradiction
  | refused i t reason fetched fits printed =>
    have taken := never.print_snd (c.announce host s i) (c.printed i)
    rw [printed] at taken
    contradiction
  | uncounted | finished => contradiction

/-- Steps that succeed do not stop a machine but by halting it. -/
theorem Succeeds.halted {host : Host σ} {c : Cpu} {s : σ} {n : Nat} (succeeds : c.Succeeds host s n)
    (running : c.state = .running) (stopped : (c.reached host s n).1.state ≠ .running) :
    (c.reached host s n).1.state = .halted := by
  cases n with
  | zero => exact absurd running stopped
  | succ n =>
    obtain ⟨i, last⟩ := succeeds n (Nat.lt_succ_self n)
    exact (halted_of_result_step last stopped).2

/-- These errors have been given back for a machine that wraps: none while it runs; and if an error
has stopped it, first this one, which is about the bytes at its program counter, and then only that
the machine does not run. -/
structure Blamed (errors : List CpuError) (c : Cpu) : Prop where
  wraps : c.mode = .wrap
  none : c.state = .running → errors = []
  first : c.state = .error → ∃ reason later,
    c.fetch = .error reason ∧ errors = reason.at c.counter :: later ∧
      ∀ e ∈ later, e = .notRunning .error

namespace Blamed

variable {c : Cpu} {errors : List CpuError}

theorem call (blamed : Blamed errors c) (call : Call) (never : call.host.NeverFails) :
    Blamed (errors ++ (c.call call).answer.error?.toList) (c.call call).cpu := by
  by_cases running : c.state = .running
  · obtain ⟨cpu, error, -⟩ := call_of_running running call
    rw [cpu, error, blamed.none running, List.nil_append]
    have mode (k : Nat) : (c.reached call.host call.sink k).1.mode = .wrap :=
      (mode_reached ..).trans blamed.wraps
    have course := c.steps_course call.host call.sink (call.drive.allowance c)
    generalize c.steps call.host (call.drive.allowance c) call.sink = run at course
    cases course with
    | spent succeeds runs =>
      refine ⟨mode _, fun _ => rfl, fun stopped => ?_⟩
      rw [runs] at stopped
      contradiction
    | stopped k within succeeds stopped =>
      refine ⟨mode k, fun _ => rfl, fun error => ?_⟩
      rw [succeeds.halted running stopped] at error
      contradiction
    | failed k e within succeeds runs failed =>
      obtain ⟨reason, fetched, rfl⟩ := fetch_of_failed_step never (mode k) runs failed
      exact ⟨mode k, nofun, fun _ => ⟨reason, [], fetched, rfl, nofun⟩⟩
    | panicked k within succeeds panicked =>
      refine ⟨mode (k + 1), fun _ => rfl, fun stopped => ?_⟩
      obtain ⟨i, t, -, ended⟩ := step_of_panicked panicked
      rw [attempt, ended, state_after, (countedOut_of_panicked panicked).1] at stopped
      split at stopped <;> contradiction
  · obtain ⟨cpu, silent⟩ := call_of_not_running running call
    rw [cpu]
    refine ⟨blamed.wraps, fun runs => absurd runs running, fun state => ?_⟩
    obtain ⟨reason, later, fetched, rfl, others⟩ := blamed.first state
    refine ⟨reason, later ++ (c.call call).answer.error?.toList, fetched, rfl, ?_⟩
    intro e member
    rcases List.mem_append.mp member with earlier | last
    · exact others e earlier
    · rw [silent e (Option.mem_toList.mp last), state]

theorem afterCalls (blamed : Blamed errors c) {calls : List Call}
    (never : ∀ call ∈ calls, call.host.NeverFails) :
    Blamed (errors ++ c.errors calls) (c.afterCalls calls) := by
  induction calls generalizing c errors with
  | nil =>
    rw [Cpu.errors, List.append_nil]
    exact blamed
  | cons call rest ih =>
    obtain ⟨first, others⟩ := List.forall_mem_cons.mp never
    rw [Cpu.errors, Cpu.afterCalls, ← List.append_assoc]
    exact ih (blamed.call call first) others

end Blamed

theorem Blamed.loadedAt {config : Config} (wraps : config.mode = .wrap) (base : UInt8)
    (image : List UInt8) : Blamed [] (config.cpu.loadedAt base image) := by
  rw [Cpu.loadedAt, run_loadAt]
  by_cases fits : base.toNat + image.length ≤ memorySize
  · rw [if_pos fits]
    exact ⟨wraps, fun _ => rfl, nofun⟩
  · rw [if_neg fits]
    exact ⟨wraps, fun _ => rfl, nofun⟩

/-- What the state of a machine tells about its life. Whatever calls it has had since an image was
loaded into it or refused, its cycles count the steps that have succeeded, its last instruction is
that of the latest of them, and it has halted if that one was a halt, and only then if all calls have
come back; a halt is then the byte at its program counter. Once it has stopped, whether it has halted
or not, no call does anything: a step gives back that it does not run, and a run executes nothing. A
machine that wraps, and whose output was always taken up, is stopped by an error only if the bytes at
its program counter are no instruction, and the first error that was given back said in which way. -/
theorem state_tells_life (config : Config) (base : UInt8) (image : List UInt8)
    (calls : List Call) :
    let made := config.cpu.loadedAt base image
    let c := made.afterCalls calls
    let executed := made.executedBy calls
    c.cycles.toNat = executed.length ∧
      c.last = executed.getLast? ∧
      (executed.getLast? = some .hlt → c.state = .halted) ∧
      ((∀ answer ∈ made.answers calls, answer.returned) →
        (c.state = .halted ↔ executed.getLast? = some .hlt)) ∧
      (c.state = .halted → c.memory.read c.counter = 0x01) ∧
      (c.state ≠ .running → ∀ {σ : Type} (host : Host σ) (s : σ),
        c.step host s = ⟨.error (.notRunning c.state), c, s⟩ ∧
          (∀ fuel, c.run host fuel s = some ⟨.ok 0, c, s⟩) ∧
          ∀ budget, c.runLimited host s budget = ⟨.ok 0, c, s⟩) ∧
      (config.mode = .wrap → (∀ call ∈ calls, call.host.NeverFails) → c.state = .error →
        (∀ i, c.fetch ≠ .ok i) ∧ ∃ e later, made.errors calls = e :: later ∧
          c.memory.Undecodable c.counter e ∧ ∀ other ∈ later, other = .notRunning .error) := by
  intro made c executed
  have chronicle : Chronicle executed c := (Chronicle.loadedAt config base image).afterCalls calls
  refine ⟨chronicle.cycles, chronicle.last, chronicle.halted, ?_, chronicle.atHalt, ?_, ?_⟩
  · intro returns
    have runs : made.state = .running := state_loadedAt config base image
    refine ⟨fun halted => ?_, chronicle.halted⟩
    rw [← chronicle.last]
    refine last_of_halted_afterCalls (fun halted => ?_) returns halted
    rw [runs] at halted
    contradiction
  · intro stopped σ host s
    exact ⟨step_of_not_running host s stopped, run_of_not_running host s stopped,
      runLimited_of_not_running host s stopped⟩
  · intro wraps never state
    have blamed : Blamed (made.errors calls) c := (Blamed.loadedAt wraps base image).afterCalls never
    obtain ⟨reason, later, fetched, errors, others⟩ := blamed.first state
    refine ⟨fun i decoded => ?_, _, later, errors, undecodable_of_fetch fetched, others⟩
    rw [fetched] at decoded
    contradiction

/-- Two lives with two instructions each: the second instruction of one is a halt, and what follows
the second of the other is no instruction. Both are asked once more after they have stopped. -/
theorem lives_of_two_instructions :
    let halts := (powerOn .wrap).loadedAt 0 [0x47, 0, 0x01]
    let fails := (powerOn .wrap).loadedAt 0 [0x82, 0, 8, 0x47, 0, 0xff]
    let calls : List Call :=
      [⟨Host.collector, #[], .step⟩, ⟨Host.collector, #[1], .runLimited 9⟩,
        ⟨Host.collector, #[2], .step⟩]
    let halted := halts.afterCalls calls
    let failed := fails.afterCalls calls
    (halted.state = .halted ∧ halted.memory.read halted.counter = 0x01 ∧ halted.cycles.toNat = 2 ∧
      halted.last = some .hlt ∧
      halted.step Host.collector #[] = ⟨.error (.notRunning .halted), halted, #[]⟩) ∧
    (failed.state = .error ∧ failed.cycles.toNat = 2 ∧ failed.last = some (.prn 0) ∧
      fails.errors calls = [.unknownOpcode 5 0xff, .notRunning .error] ∧
      failed.memory.Undecodable failed.counter (.unknownOpcode 5 0xff)) := by
  intro halts fails calls halted failed
  have never : ∀ call ∈ calls, call.host.NeverFails := by
    simp only [calls, List.forall_mem_cons]
    exact ⟨fun _ _ => rfl, fun _ _ => rfl, fun _ _ => rfl, List.forall_mem_nil _⟩
  obtain ⟨cycles, last, -, iff_halt, atHalt, stopped, -⟩ :=
    state_tells_life {} 0 [0x47, 0, 0x01] calls
  obtain ⟨cycles', last', -, -, -, -, blamed⟩ :=
    state_tells_life {} 0 [0x82, 0, 8, 0x47, 0, 0xff] calls
  have returns : ∀ answer ∈ halts.answers calls, answer.returned := by decide
  have state : halted.state = .halted := (iff_halt returns).mpr (by decide)
  have state' : failed.state = .error := by decide
  obtain ⟨-, e, later, errors, undecodable, -⟩ := blamed rfl never state'
  have shown : fails.errors calls = [.unknownOpcode 5 0xff, .notRunning .error] := by decide
  refine ⟨⟨state, atHalt state, ?_, last, ?_⟩, state', ?_, last', shown, ?_⟩
  · exact cycles
  · have answer : halted.step Host.collector #[] = ⟨.error (.notRunning halted.state), halted, #[]⟩ :=
      (stopped (by decide) Host.collector #[]).1
    rwa [state] at answer
  · exact cycles'
  · rw [(List.cons.inj (shown.symm.trans errors)).1]
    exact undecodable

end Cpu

end Ls8
