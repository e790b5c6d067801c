import Ls8.Proofs.Machine.History
import Ls8.Proofs.Machine.Surroundings

/-! # Events of a run

A machine announces every instruction that it has decoded before it executes it, and reports when it has
halted or has been stopped by an error. Surroundings that record these events disturb nothing, so a
record can be compared with a run that nobody records: `Account` tells the events of such a run from the
machines that it goes through, and `steps_account` says that these are the events recorded. -/

namespace Ls8

variable {σ τ : Type}

/-- Surroundings that keep a record of all events, besides what other surroundings make of them. -/
def Host.recorder (host : Host σ) : Host (σ × List Event) :=
  { write := fun (s, events) bytes =>
      let (t, refused) := host.write s bytes
      ((t, events), refused)
    log := fun (s, events) event => (host.log s event, events ++ [event]) }

theorem Host.recorder_maps (host : Host σ) : host.recorder.Maps Prod.fst host :=
  ⟨fun _ _ => rfl, fun _ _ => rfl⟩

theorem Host.events_print (host : Host σ) (p : σ × List Event) (pieces : List (List UInt8)) :
    (host.recorder.print p pieces).1.2 = p.2 := by
  induction pieces generalizing p with
  | nil => rfl
  | cons piece rest ih =>
    have kept : (host.recorder.write p piece).1.2 = p.2 := rfl
    cases written : host.recorder.write p piece with
    | mk q refused =>
      rw [written] at kept
      cases refused with
      | none => rw [print_cons_of_written written, ih, kept]
      | some reason => rw [print_cons_of_refused written, kept]

namespace Host.Maps

variable {f : σ → τ} {host : Host σ} {image : Host τ}

theorem reached (maps : host.Maps f image) (c : Cpu) (s : σ) (n : Nat) :
    c.reached image (f s) n = Prod.map id f (c.reached host s n) := by
  induction n with
  | zero => rfl
  | succ n ih =>
    simp only [Cpu.reached, ih, Prod.map_fst, Prod.map_snd, maps.step]
    rfl

theorem attempt (maps : host.Maps f image) (c : Cpu) (s : σ) (n : Nat) :
    c.attempt image (f s) n = (c.attempt host s n).map f := by
  rw [Cpu.attempt, maps.reached, Prod.map_fst, Prod.map_snd, maps.step]
  rfl

end Host.Maps

namespace Cpu

/-! ## One step -/

/-- What a machine announces of the instruction at its program counter. -/
def announcement? (c : Cpu) : Option Event :=
  c.fetch.toOption.map (.execute c.counter (c.memory.read c.counter))

/-- What a machine reports at the end of a step. -/
def closing? (c : Cpu) (ended : Outcome σ) : Option Event :=
  match ended.result with
  | .error e => some (.stopped c.counter e)
  | .ok _ => if ended.cpu.state = .halted then some (.halted c.counter ended.cpu.cycles) else none
  | .panicked => none

/-- Of an instruction whose output is taken up, or refused, only the announcement has been recorded. -/
theorem events_printed {host : Host σ} {c : Cpu} {p t : σ × List Event} {i : Instruction Register}
    {refused : Option String}
    (printed : host.recorder.print (c.announce host.recorder p i) (c.printed i) = (t, refused)) :
    t.2 = p.2 ++ [.execute c.counter (c.memory.read c.counter) i] := by
  have kept := host.events_print (c.announce host.recorder p i) (c.printed i)
  rw [printed] at kept
  exact kept

/-- A step announces its instruction, if there is one, and reports its end, if it stops the machine. -/
theorem events_step (host : Host σ) {c : Cpu} (running : c.state = .running) (p : σ × List Event) :
    (c.step host.recorder p).host.2 =
      p.2 ++ c.announcement?.toList ++ (c.closing? (c.step host p.1)).toList := by
  have seen : c.closing? (c.step host p.1) = c.closing? (c.step host.recorder p) := by
    rw [host.recorder_maps.step]
    rfl
  have passage := step_passage host.recorder running p
  rw [seen]
  generalize c.step host.recorder p = ended at passage ⊢
  cases passage with
  | undecoded e fetched =>
    simp [fail, closing?, announcement?, fetched, Host.recorder, Except.toOption]
  | overflowing i reason fetched stopped =>
    simp [fail, announce, closing?, announcement?, fetched, Host.recorder, Except.toOption]
  | refused i t reason fetched fits printed =>
    simp [fail, closing?, announcement?, fetched, Host.recorder, Except.toOption,
      events_printed printed]
  | uncounted i t fetched fits printed =>
    simp [closing?, announcement?, fetched, Except.toOption, events_printed printed]
  | finished i t fetched fits printed =>
    by_cases halts : (c.after i).state = .halted
    · simp [finish, halts, closing?, announcement?, fetched, Host.recorder, Except.toOption,
        events_printed printed]
    · simp [finish, halts, closing?, announcement?, fetched, Except.toOption,
        events_printed printed]

theorem announcement?_of_fetch {c : Cpu} {i : Instruction Register} (fetched : c.fetch = .ok i) :
    c.announcement? = some (.execute c.counter (c.memory.read c.counter) i) := by
  rw [announcement?, fetched]
  rfl

theorem announcement?_of_error {c : Cpu} {e : DecodeError} (fetched : c.fetch = .error e) :
    c.announcement? = none := by
  rw [announcement?, fetched]
  rfl

/-! ## Many steps -/

section

variable {host : Host σ} {c : Cpu} {s : σ} {n : Nat}

/-- The instruction that is executed after a number of steps, as it is announced. -/
def execution? (host : Host σ) (c : Cpu) (s : σ) (n : Nat) : Option Event :=
  let before := (c.reached host s n).1
  (before.performed? (c.attempt host s n)).map
    (.execute before.counter (before.memory.read before.counter))

/-- The instructions that are executed by a number of steps, as they are announced. -/
def executions (host : Host σ) (c : Cpu) (s : σ) (n : Nat) : List Event :=
  (List.range n).filterMap (c.execution? host s)

/-- A step that does not fail has executed the instruction announced. -/
theorem execution?_eq (fine : ∀ e, (c.attempt host s n).result ≠ .error e) :
    c.execution? host s n = (c.reached host s n).1.announcement? := by
  cases ended : (c.attempt host s n).result with
  | ok i =>
    rw [announcement?_of_fetch (step_of_result_eq_ok ended).1, execution?, performed?, ended]
    rfl
  | error e => exact absurd ended (fine e)
  | panicked =>
    rw [execution?, performed?, ended]
    rfl

theorem executions_succ (fine : ∀ e, (c.attempt host s n).result ≠ .error e) :
    c.executions host s (n + 1) =
      c.executions host s n ++ (c.reached host s n).1.announcement?.toList := by
  rw [executions, List.range_succ, List.filterMap_append, ← executions, ← execution?_eq fine]
  rfl

/-- What a further step of a running machine adds to the record. -/
theorem events_succ (running : (c.reached host s n).1.state = .running) :
    (c.reached host.recorder (s, []) (n + 1)).2.2 =
      (c.reached host.recorder (s, []) n).2.2 ++ (c.reached host s n).1.announcement?.toList ++
        ((c.reached host s n).1.closing? (c.attempt host s n)).toList := by
  have same := host.recorder_maps.reached c (s, []) n
  rw [attempt, same]
  rw [same] at running
  exact events_step host running _

/-- As long as a machine runs and its steps return, its executions have been recorded and nothing
else. -/
theorem events_reached (running : (c.reached host s n).1.state = .running)
    (returns : c.Returns host s n) :
    (c.reached host.recorder (s, []) n).2.2 = c.executions host s n := by
  induction n with
  | zero => rfl
  | succ n ih =>
    have before := running_of_le (Nat.le_succ n) running
    obtain ⟨-, i, last⟩ := result_of_running_step running (returns n (Nat.lt_succ_self n))
    have fine : ∀ e, (c.attempt host s n).result ≠ .error e := fun e failed => by
      rw [attempt, last] at failed
      contradiction
    have unclosed : (c.reached host s n).1.closing? (c.attempt host s n) = none := by
      have going : (c.attempt host s n).cpu.state = .running := running
      rw [closing?, attempt, last]
      exact if_neg (show (c.attempt host s n).cpu.state ≠ .halted by rw [going]; decide)
    rw [events_succ before, ih before fun k earlier => returns k (Nat.lt_succ_of_lt earlier),
      executions_succ fine, unclosed]
    exact List.append_nil _

/-- A machine that halts reports it behind all its executions. -/
theorem events_halted (halts : (c.attempt host s n).result = .ok .hlt) :
    (c.reached host.recorder (s, []) (n + 1)).2.2 =
      c.executions host s (n + 1) ++
        [.halted (c.reached host s n).1.counter (c.attempt host s n).cpu.cycles] := by
  have running : (c.reached host s n).1.state = .running := running_of_result_step halts
  have state : (c.attempt host s n).cpu.state = .halted := state_of_ok halts
  have closing : (c.reached host s n).1.closing? (c.attempt host s n) =
      some (.halted (c.reached host s n).1.counter (c.attempt host s n).cpu.cycles) := by
    rw [closing?, halts]
    exact if_pos state
  have fine : ∀ e, (c.attempt host s n).result ≠ .error e := fun e failed => by
    rw [halts] at failed
    contradiction
  rw [events_succ running, events_reached running (succeeds_of_result halts).returns,
    ← executions_succ fine, closing]
  rfl

/-- A machine that is stopped reports it behind its executions, and behind the announcement of the
instruction that fails. -/
theorem events_failed (running : (c.reached host s n).1.state = .running)
    (returns : c.Returns host s n) {e : CpuError}
    (failed : (c.attempt host s n).result = .error e) :
    (c.reached host.recorder (s, []) (n + 1)).2.2 =
      c.executions host s n ++ (c.reached host s n).1.announcement?.toList ++
        [.stopped (c.reached host s n).1.counter e] := by
  have closing : (c.reached host s n).1.closing? (c.attempt host s n) =
      some (.stopped (c.reached host s n).1.counter e) := by
    rw [closing?, failed]
  rw [events_succ running, events_reached running returns, closing]
  rfl

/-- A machine that panics reports nothing more behind its executions. -/
theorem events_panicked (returns : c.Returns host s n)
    (panicked : (c.attempt host s n).result = .panicked) :
    (c.reached host.recorder (s, []) (n + 1)).2.2 = c.executions host s (n + 1) := by
  have running : (c.reached host s n).1.state = .running := (countedOut_of_panicked panicked).1
  have closing : (c.reached host s n).1.closing? (c.attempt host s n) = none := by
    rw [closing?, panicked]
  have fine : ∀ e, (c.attempt host s n).result ≠ .error e := fun e failed => by
    rw [panicked] at failed
    contradiction
  rw [events_succ running, events_reached running returns, ← executions_succ fine, closing]
  exact List.append_nil _

end

/-! ## Runs -/

/-- How the events of a run of at most `n` steps tell what the run consists of: one announcement for
each instruction that is executed, and then nothing if the steps are spent; that the machine has
halted, where the last of these instructions halts it; or that it has been stopped, after a further
announcement if the instruction that fails could be decoded. A panic is not reported. -/
inductive Account (host : Host σ) (c : Cpu) (s : σ) (n : Nat) : Run σ → List Event → Prop
  | spent (succeeds : c.Succeeds host s n) (running : (c.reached host s n).1.state = .running) :
    Account host c s n ⟨.spent, (c.reached host s n).1, (c.reached host s n).2⟩
      (c.executions host s n)
  | halted (k : Nat) (within : k < n) (succeeds : c.Succeeds host s k)
      (halts : (c.attempt host s k).result = .ok .hlt) :
    Account host c s n ⟨.stopped, (c.attempt host s k).cpu, (c.attempt host s k).host⟩
      (c.executions host s (k + 1) ++
        [.halted (c.reached host s k).1.counter (c.attempt host s k).cpu.cycles])
  | undecoded (k : Nat) (within : k < n) (succeeds : c.Succeeds host s k) (before : Cpu)
      (reached : (c.reached host s k).1 = before) (reason : DecodeError)
      (fetched : before.fetch = .error reason) :
    Account host c s n
      ⟨.failed (reason.at before.counter), { before with state := .error }, (c.attempt host s k).host⟩
      (c.executions host s k ++ [.stopped before.counter (reason.at before.counter)])
  | unfinished (k : Nat) (within : k < n) (succeeds : c.Succeeds host s k) (before : Cpu)
      (reached : (c.reached host s k).1 = before) (i : Instruction Register)
      (fetched : before.fetch = .ok i) (e : CpuError) (failed : (c.attempt host s k).result = .error e)
      (cause : (∃ reason, e = .overflow before.counter reason) ∨ ∃ reason, e = .output reason) :
    Account host c s n ⟨.failed e, { before with state := .error }, (c.attempt host s k).host⟩
      (c.executions host s k ++
        [.execute before.counter (before.memory.read before.counter) i, .stopped before.counter e])
  | panicked (k : Nat) (within : k < n) (succeeds : c.Succeeds host s k)
      (panicked : (c.attempt host s k).result = .panicked) :
    Account host c s n ⟨.panicked, (c.attempt host s k).cpu, (c.attempt host s k).host⟩
      (c.executions host s (k + 1))

/-- A step fails because its bytes are no instruction, or because its instruction overflows or prints
what is refused. -/
theorem cause_of_failed_step {host : Host σ} {c : Cpu} (running : c.state = .running) {s : σ}
    {e : CpuError} (failed : (c.step host s).result = .error e) :
    (∃ reason, c.fetch = .error reason ∧ e = reason.at c.counter) ∨
      ∃ i, c.fetch = .ok i ∧
        ((∃ reason, e = .overflow c.counter reason) ∨ ∃ reason, e = .output reason) := by
  have passage := step_passage host running s
  generalize c.step host s = ended at passage failed
  cases passage with
  | undecoded reason fetched => exact .inl ⟨reason, fetched, (Result.error.inj failed).symm⟩
  | overflowing i reason fetched stopped =>
    exact .inr ⟨i, fetched, .inl ⟨reason, (Result.error.inj failed).symm⟩⟩
  | refused i t reason fetched fits printed =>
    exact .inr ⟨i, fetched, .inr ⟨reason, (Result.error.inj failed).symm⟩⟩
  | uncounted | finished => contradiction

/-- The surroundings of a run have recorded what the run tells of itself. -/
theorem steps_account (host : Host σ) {c : Cpu} (running : c.state = .running) (s : σ) (n : Nat) :
    c.Account host s n (c.steps host n s) (c.steps host.recorder n (s, [])).host.2 := by
  have reached (k : Nat) : c.reached host s k = _ := host.recorder_maps.reached c (s, []) k
  have attempted (k : Nat) : c.attempt host s k = _ := host.recorder_maps.attempt c (s, []) k
  have succeeded {k : Nat} (succeeds : c.Succeeds host.recorder (s, []) k) : c.Succeeds host s k := by
    intro j before
    rw [attempted]
    exact succeeds j before
  have course := c.steps_course host.recorder (s, []) n
  have same : c.steps host n s = (c.steps host.recorder n (s, [])).map Prod.fst :=
    host.recorder_maps.steps n c (s, [])
  rw [same]
  generalize c.steps host.recorder n (s, []) = run at course ⊢
  cases course with
  | spent succeeds still =>
    have going : (c.reached host s n).1.state = .running := by
      rw [reached]
      exact still
    have account := Account.spent (succeeded succeeds) going
    rw [← events_reached going (succeeded succeeds).returns, reached] at account
    exact account
  | stopped k within succeeds stopped =>
    cases k with
    | zero => exact absurd running stopped
    | succ k =>
      have earlier := succeeded fun j before => succeeds j (Nat.lt_succ_of_lt before)
      obtain ⟨i, last⟩ := succeeded succeeds k (Nat.lt_succ_self k)
      have ended : (c.attempt host s k).cpu.state ≠ .running := by
        rw [attempted]
        exact stopped
      obtain ⟨rfl, -⟩ := halted_of_result_step last ended
      have account := Account.halted k within earlier last
      rw [← events_halted last, attempted] at account
      exact account
  | failed k e within succeeds still failed =>
    have going : (c.reached host s k).1.state = .running := by
      rw [reached]
      exact still
    have refused : (c.attempt host s k).result = .error e := by
      rw [attempted]
      exact failed
    have left : (c.reached host.recorder (s, []) k).1 = (c.reached host s k).1 := by
      rw [reached]
      rfl
    have seen : (c.attempt host.recorder (s, []) k).host.1 = (c.attempt host s k).host := by
      rw [attempted]
      rfl
    change c.Account host s n ⟨.failed e, { (c.reached host.recorder (s, []) k).1 with state := .error },
      (c.attempt host.recorder (s, []) k).host.1⟩ (c.reached host.recorder (s, []) (k + 1)).2.2
    rw [left, seen, events_failed going (succeeded succeeds).returns refused]
    obtain ⟨reason, fetched, rfl⟩ | ⟨i, fetched, cause⟩ := cause_of_failed_step going refused
    · rw [announcement?_of_error fetched, Option.toList_none, List.append_nil]
      exact .undecoded k within (succeeded succeeds) _ rfl reason fetched
    · rw [announcement?_of_fetch fetched, List.append_assoc]
      exact .unfinished k within (succeeded succeeds) _ rfl i fetched e refused cause
  | panicked k within succeeds panicked =>
    have unfinished : (c.attempt host s k).result = .panicked := by
      rw [attempted]
      exact panicked
    have account := Account.panicked k within (succeeded succeeds) unfinished
    rw [← events_panicked (succeeded succeeds).returns unfinished, attempted] at account
    exact account

end Cpu

end Ls8
