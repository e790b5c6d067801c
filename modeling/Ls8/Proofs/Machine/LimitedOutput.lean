import Ls8.Proofs.Machine.Budget

/-! # Runs with limited output

A sink takes bytes in pieces as it would take them all at once: `write_append`. So what a run leaves in
a sink with limited room is what a single write of everything that the run prints would leave there,
and the run goes on like one with unlimited output up to the first instruction that prints more than
fits. That instruction fails; the sink has kept the bytes that fit, and the machine is left as it was
before it. -/

namespace Ls8

namespace Sink

/-- Bytes may be written in pieces. Nothing is written after a piece that does not fit. -/
theorem write_append (s : Sink) (first second : List UInt8) :
    s.write (first ++ second) =
      match s.write first with
      | (next, none) => next.write second
      | full => full := by
  have pieces (content : Array UInt8) (a b : List UInt8) : content ++ (a ++ b) = content ++ a ++ b := by
    apply Array.ext'
    simp only [Array.toList_appendList, List.append_assoc]
  obtain ⟨content, - | room⟩ := s
  · simp only [write, pieces]
  · by_cases fits : first.length ≤ room
    · have rest : first.length + second.length ≤ room ↔ second.length ≤ room - first.length := by
        omega
      simp only [write, if_pos fits, List.take_append, List.take_of_length_le fits, pieces,
        List.length_append, rest, Nat.sub_add_eq]
    · have beyond : ¬first.length + second.length ≤ room := by omega
      have full : room - first.length = 0 := by omega
      have still : room - (first.length + second.length) = 0 := by omega
      simp only [write, if_neg fits, if_neg beyond, List.take_append, List.length_append, full, still,
        List.take_zero, List.append_nil]

theorem print_eq_write (s : Sink) (pieces : List (List UInt8)) :
    host.print s pieces = s.write pieces.flatten := by
  induction pieces generalizing s with
  | nil => obtain ⟨content, - | room⟩ := s <;> simp [write, Host.print]
  | cons piece rest ih =>
    rw [List.flatten_cons, write_append]
    cases written : s.write piece with
    | mk t refused =>
      cases refused with
      | none => exact (Host.print_cons_of_written written rest).trans (ih t)
      | some reason => exact Host.print_cons_of_refused written rest

/-- What becomes of a sink with room for a number of bytes when these bytes are written to it. -/
def taking (room : Nat) (bytes : List UInt8) : Sink × Option String := write ⟨#[], some room⟩ bytes

theorem content_taking (room : Nat) (bytes : List UInt8) :
    (taking room bytes).1.content.toList = bytes.take room := by
  simp [taking, write]

theorem taking_of_le {room : Nat} {bytes : List UInt8} (fits : bytes.length ≤ room) :
    (taking room bytes).2 = none := if_pos fits

theorem taking_of_lt {room : Nat} {bytes : List UInt8} (beyond : room < bytes.length) :
    (taking room bytes).2 = some "sink full" := if_neg (Nat.not_le.mpr beyond)

/-- A sink that is full does not change any more. -/
theorem taking_append_of_lt {room : Nat} {bytes : List UInt8} (beyond : room < bytes.length)
    (more : List UInt8) : (taking room (bytes ++ more)).1 = (taking room bytes).1 := by
  have refused := taking_of_lt beyond
  have whole := write_append ⟨#[], some room⟩ bytes more
  rw [taking, whole]
  rw [taking] at refused ⊢
  generalize write ⟨#[], some room⟩ bytes = written at refused ⊢
  obtain ⟨next, _⟩ := written
  obtain rfl := refused
  rfl

theorem taking_append {room : Nat} {bytes : List UInt8} (fits : bytes.length ≤ room)
    (more : List UInt8) : taking room (bytes ++ more) = (taking room bytes).1.write more := by
  have kept := taking_of_le fits
  have whole := write_append ⟨#[], some room⟩ bytes more
  rw [taking, whole]
  rw [taking] at kept ⊢
  generalize write ⟨#[], some room⟩ bytes = written at kept ⊢
  obtain ⟨next, refused⟩ := written
  obtain rfl : refused = none := kept
  rfl

end Sink

theorem print_collector (printed : Array UInt8) (pieces : List (List UInt8)) :
    Host.collector.print printed pieces = (printed ++ pieces.flatten, none) := by
  refine Prod.ext (Array.ext' ?_) (collector_accepting.neverFails.print_snd printed pieces)
  rw [Array.toList_appendList]
  exact collector_accepting.out_print printed pieces

namespace Cpu

open Sink (taking)

/-- A step in surroundings that ignore events depends on them only where it prints. -/
theorem step_of_quiet {σ : Type} {host : Host σ} (quiet : ∀ s event, host.log s event = s) {c : Cpu}
    (running : c.state = .running) (s : σ) :
    c.step host s =
      match c.fetch with
      | .error e => ⟨.error (e.at c.counter), { c with state := .error }, s⟩
      | .ok i =>
        match c.overflow? i with
        | some reason => ⟨.error (.overflow c.counter reason), { c with state := .error }, s⟩
        | none =>
          match host.print s (c.printed i) with
          | (t, some reason) => ⟨.error (.output reason), { c with state := .error }, t⟩
          | (t, none) =>
            if c.CountedOut then ⟨.panicked, c.after i, t⟩
            else ⟨.ok i, { c.after i with cycles := c.cycles + 1, last := some i }, t⟩ := by
  have ended := step_of_running host running s
  simp only [fail, finish, announce, quiet, ite_self] at ended
  exact ended

section

variable {c : Cpu} {room : Nat} {printed : Array UInt8}

/-- An instruction prints into a sink with room left as it does without a limit, unless it prints more
than fits: then it fails. -/
theorem step_taking (c : Cpu) (fits : printed.size ≤ room) :
    let free := c.step Host.collector printed
    c.step Sink.host (taking room printed.toList).1 =
      match taking room free.host.toList with
      | (t, none) => ⟨free.result, free.cpu, t⟩
      | (t, some reason) => ⟨.error (.output reason), { c with state := .error }, t⟩ := by
  intro free
  have kept : taking room printed.toList = ((taking room printed.toList).1, none) :=
    Prod.ext rfl (Sink.taking_of_le fits)
  by_cases running : c.state = .running
  · have stepped : free = _ := step_of_quiet (fun _ _ => rfl) running printed
    rw [step_of_quiet (fun _ _ => rfl) running, stepped]
    cases c.fetch with
    | error e =>
      simp only
      rw [kept]
    | ok i =>
      simp only
      cases c.overflow? i with
      | some reason =>
        simp only
        rw [kept]
      | none =>
        simp only [print_collector, Sink.print_eq_write]
        by_cases full : c.CountedOut
        all_goals
          simp only [full, if_true, if_false, Array.toList_appendList]
          rw [Sink.taking_append fits]
          obtain ⟨t, _ | reason⟩ := (taking room printed.toList).1.write (c.printed i).flatten <;> rfl
  · have idle : free = _ := step_of_not_running Host.collector printed running
    rw [step_of_not_running Sink.host _ running, idle, kept]

theorem step_taking_of_le (fits : printed.size ≤ room)
    (still : (c.step Host.collector printed).host.size ≤ room) :
    let free := c.step Host.collector printed
    c.step Sink.host (taking room printed.toList).1 =
      ⟨free.result, free.cpu, (taking room free.host.toList).1⟩ := by
  have stepped := c.step_taking fits
  have kept := Sink.taking_of_le still
  simp only at stepped ⊢
  rw [stepped]
  generalize taking room (c.step Host.collector printed).host.toList = taken at kept ⊢
  obtain ⟨t, _⟩ := taken
  obtain rfl := kept
  rfl

theorem step_taking_of_lt (fits : printed.size ≤ room)
    (beyond : room < (c.step Host.collector printed).host.size) :
    c.step Sink.host (taking room printed.toList).1 =
      ⟨.error (.output "sink full"), { c with state := .error },
        (taking room (c.step Host.collector printed).host.toList).1⟩ := by
  have stepped := c.step_taking fits
  have refused := Sink.taking_of_lt beyond
  simp only at stepped ⊢
  rw [stepped]
  generalize taking room (c.step Host.collector printed).host.toList = taken at refused ⊢
  obtain ⟨t, _⟩ := taken
  obtain rfl := refused
  rfl

end

theorem printed_eq_nil {c : Cpu} {i : Instruction Register} (silent : i.opcode ≠ .prn)
    (mute : i.opcode ≠ .pra) : c.printed i = [] := by
  cases i
  case prn => contradiction
  case pra => contradiction
  all_goals rfl

/-- Two instructions print; nothing else does. -/
theorem host_step (c : Cpu) (printed : Array UInt8) :
    (c.step Host.collector printed).host = printed ∨
      ∃ i, ((c.step Host.collector printed).result = .ok i ∨
          (c.step Host.collector printed).result = .panicked) ∧
        (i.opcode = .prn ∨ i.opcode = .pra) ∧
        (c.step Host.collector printed).host = printed ++ (c.printed i).flatten := by
  by_cases running : c.state = .running
  · rw [step_of_quiet (fun _ _ => rfl) running]
    cases c.fetch with
    | error e => exact .inl rfl
    | ok i =>
      simp only
      cases c.overflow? i with
      | some reason => exact .inl rfl
      | none =>
        simp only [print_collector]
        by_cases prints : i.opcode = .prn ∨ i.opcode = .pra
        · refine .inr ⟨i, ?_⟩
          split
          · exact ⟨.inr rfl, prints, rfl⟩
          · exact ⟨.inl rfl, prints, rfl⟩
        · obtain ⟨silent, mute⟩ := not_or.mp prints
          rw [printed_eq_nil silent mute]
          refine .inl ?_
          split <;> exact Array.appendList_nil
  · rw [step_of_not_running Host.collector printed running]
    exact .inl rfl

theorem exists_host_step (c : Cpu) (printed : Array UInt8) :
    ∃ more : List UInt8, (c.step Host.collector printed).host = printed ++ more := by
  obtain silent | ⟨i, -, -, prints⟩ := c.host_step printed
  · exact ⟨[], silent.trans Array.appendList_nil.symm⟩
  · exact ⟨_, prints⟩

/-- What has been printed stays. -/
theorem exists_host_steps (c : Cpu) (count : Nat) (printed : Array UInt8) :
    ∃ more : List UInt8, (c.steps Host.collector count printed).host = printed ++ more := by
  induction count generalizing c printed with
  | zero => exact ⟨[], Array.appendList_nil.symm⟩
  | succ count ih =>
    by_cases running : c.state = .running
    · obtain ⟨bytes, first⟩ := c.exists_host_step printed
      cases ended : (c.step Host.collector printed).result with
      | error e =>
        rw [steps_succ_of_error running ended]
        exact ⟨bytes, first⟩
      | panicked =>
        rw [steps_succ_of_panicked ended]
        exact ⟨bytes, first⟩
      | ok i =>
        obtain ⟨more, rest⟩ := ih (c.step Host.collector printed).cpu (c.step Host.collector printed).host
        refine ⟨bytes ++ more, ?_⟩
        rw [steps_succ_of_ok ended, rest, first]
        apply Array.ext'
        simp only [Array.toList_appendList, List.append_assoc]
    · rw [steps_of_not_running running]
      exact ⟨[], Array.appendList_nil.symm⟩

/-- A run is cut short by the first instruction whose bytes do not fit. -/
structure CutShort (room : Nat) (c : Cpu) (printed : Array UInt8) (k : Nat) (final : Cpu) : Prop where
  before : ∀ j ≤ k, (c.reached Host.collector printed j).2.size ≤ room
  beyond : room < (c.reached Host.collector printed (k + 1)).2.size
  prints : ∃ i, (c.attempt Host.collector printed k).result = .ok i ∧
    (i.opcode = .prn ∨ i.opcode = .pra)
  cpu : final = { (c.reached Host.collector printed k).1 with state := .error }

theorem CutShort.one_add {room : Nat} {c : Cpu} {printed : Array UInt8} {k : Nat} {final : Cpu}
    (fits : printed.size ≤ room)
    (rest : (c.step Host.collector printed).cpu.CutShort room (c.step Host.collector printed).host k
      final) : c.CutShort room printed (1 + k) final where
  before j within := by
    cases j with
    | zero => exact fits
    | succ j =>
      rw [Nat.add_comm j, reached_one_add]
      exact rest.before j (by omega)
  beyond := by
    rw [Nat.add_assoc, reached_one_add]
    exact rest.beyond
  prints := by
    rw [attempt_one_add]
    exact rest.prints
  cpu := by
    rw [reached_one_add]
    exact rest.cpu

/-- Up to the first instruction whose bytes do not fit, a run with limited output is a run without a
limit that returns. The sink is left as if everything that the unlimited run prints had been written
to it. -/
theorem steps_taking (count : Nat) (c : Cpu) {room : Nat} {printed : Array UInt8}
    (fits : printed.size ≤ room)
    (returns : (c.steps Host.collector count printed).ending ≠ .panicked) :
    let free := c.steps Host.collector count printed
    let run := c.steps Sink.host count (taking room printed.toList).1
    run.host = (taking room free.host.toList).1 ∧
      (free.host.size ≤ room → run.ending = free.ending ∧ run.cpu = free.cpu) ∧
      (room < free.host.size → run.ending = .failed (.output "sink full") ∧
        ∃ k < count, c.CutShort room printed k run.cpu) := by
  induction count generalizing c printed with
  | zero => exact ⟨rfl, fun _ => ⟨rfl, rfl⟩, fun beyond => absurd fits (Nat.not_le.mpr beyond)⟩
  | succ count ih =>
    by_cases running : c.state = .running
    · have returned : (c.step Host.collector printed).result ≠ .panicked := fun panicked => by
        rw [steps_succ_of_panicked panicked] at returns
        contradiction
      by_cases still : (c.step Host.collector printed).host.size ≤ room
      · have stepped := step_taking_of_le fits still
        cases ended : (c.step Host.collector printed).result with
        | error e =>
          have failed : (c.step Sink.host (taking room printed.toList).1).result = .error e := by
            rw [stepped, ended]
          rw [steps_succ_of_error running ended, steps_succ_of_error running failed, stepped]
          exact ⟨rfl, fun _ => ⟨rfl, rfl⟩, fun beyond => absurd still (Nat.not_le.mpr beyond)⟩
        | panicked => contradiction
        | ok i =>
          have succeeded : (c.step Sink.host (taking room printed.toList).1).result = .ok i := by
            rw [stepped, ended]
          rw [steps_succ_of_ok ended] at returns ⊢
          rw [steps_succ_of_ok succeeded, stepped]
          obtain ⟨left, same, short⟩ := ih (c.step Host.collector printed).cpu still returns
          refine ⟨left, same, fun beyond => ?_⟩
          obtain ⟨ending, k, within, rest⟩ := short beyond
          exact ⟨ending, 1 + k, by omega, rest.one_add fits⟩
      · have beyond := Nat.not_le.mp still
        have stepped := step_taking_of_lt fits beyond
        have failed : (c.step Sink.host (taking room printed.toList).1).result =
            .error (.output "sink full") := by rw [stepped]
        rw [steps_succ_of_error running failed, stepped]
        obtain silent | ⟨i, ended, prints, -⟩ := c.host_step printed
        · rw [silent] at beyond
          exact absurd fits (Nat.not_le.mpr beyond)
        · have ended := ended.resolve_right returned
          rw [steps_succ_of_ok ended]
          -- What the unlimited run prints from here on does not reach the sink.
          obtain ⟨more, rest⟩ := exists_host_steps (c.step Host.collector printed).cpu count
            (c.step Host.collector printed).host
          refine ⟨?_, fun within => ?_, fun _ => ⟨rfl, 0, Nat.zero_lt_succ count, ?_⟩⟩
          · rw [rest, Array.toList_appendList, Sink.taking_append_of_lt beyond]
          · rw [rest, ← Array.length_toList, Array.toList_appendList, List.length_append,
              Array.length_toList] at within
            omega
          · refine ⟨fun j within => ?_, beyond, ⟨i, ended, prints⟩, rfl⟩
            obtain rfl := Nat.le_zero.mp within
            exact fits
    · simp only [steps_of_not_running running]
      exact ⟨trivial, fun _ => ⟨trivial, trivial⟩, fun beyond => absurd fits (Nat.not_le.mpr beyond)⟩

/-- Limited output only cuts a run short. A sink with room for so many bytes is left with the first of
the bytes that the run prints without a limit. If all of them fit, the run ends as it does without a
limit. If not, it fails, with the machine as it was before the first instruction whose bytes do not
fit, but for its state. -/
theorem limited_output_cuts_short (c : Cpu) (budget : UInt64) (room : Nat) :
    let free := c.runLimited Host.collector #[] budget
    let run := c.runLimited Sink.host ⟨#[], some room⟩ budget
    run.host.content.toList = free.host.toList.take room ∧
      (free.host.size ≤ room → run.result = free.result ∧ run.cpu = free.cpu) ∧
      (room < free.host.size → run.result = .error (.output "sink full") ∧
        ∃ k < c.allowance budget, c.CutShort room #[] k run.cpu) := by
  intro free run
  have free_eq : free = _ := runLimited_eq Host.collector c #[] budget
  have run_eq : run = _ := runLimited_eq Sink.host c ⟨#[], some room⟩ budget
  have empty : (⟨#[], some room⟩ : Sink) = (taking room (#[] : Array UInt8).toList).1 := by
    simp [taking, Sink.write]
  obtain ⟨left, same, short⟩ :=
    c.steps_taking (c.allowance budget) (show (#[] : Array UInt8).size ≤ room from Nat.zero_le room)
      ending_ne_panicked
  rw [← empty] at left same short
  rw [free_eq, run_eq]
  refine ⟨?_, fun fits => ?_, fun beyond => ?_⟩
  · change (c.steps Sink.host (c.allowance budget) ⟨#[], some room⟩).host.content.toList = _
    rw [left, Sink.content_taking]
    rfl
  · obtain ⟨ending, cpu⟩ := same fits
    refine ⟨?_, cpu⟩
    simp only [counted, ending, cpu]
  · obtain ⟨ending, cut⟩ := short beyond
    exact ⟨result_counted_eq_error_iff.mpr ending, cut⟩

/-- The second of two printed numbers is cut off between its digits. -/
theorem cut_between_digits :
    let c : Cpu := { powerOn .wrap with
      memory := Memory.zero.place 0 [0x82, 0, 200, 0x47, 0, 0x47, 0, 0x01] }
    let run := c.runLimited Sink.host ⟨#[], some 6⟩ 9
    (c.runLimited Host.collector #[] 9).host = #[50, 48, 48, 10, 50, 48, 48, 10] ∧
      run.host.content = #[50, 48, 48, 10, 50, 48] ∧
      run.result = .error (.output "sink full") ∧
      ∃ k < c.allowance 9, c.CutShort 6 #[] k run.cpu := by
  intro c run
  have printed : (c.runLimited Host.collector #[] 9).host = #[50, 48, 48, 10, 50, 48, 48, 10] := by
    decide
  obtain ⟨kept, -, short⟩ := limited_output_cuts_short c 9 6
  rw [printed] at kept short
  exact ⟨printed, Array.ext' kept, short (by decide)⟩

end Cpu

end Ls8
