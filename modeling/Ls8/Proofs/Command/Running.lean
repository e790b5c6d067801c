import Ls8.Proofs.Command.Setup
import Ls8.Proofs.Machine.Budget
import Ls8.Proofs.Machine.Cells
import Ls8.Proofs.ProgramFile

/-! # What becomes of a run

A run command can fail four times before a machine runs: its configuration, its log filter, the text
of its program and its image must be had, in this order, and the first of them that cannot be had
decides the exit code. Otherwise the command is the run of a new machine: it prints what this run
prints, and its exit code and its warning say how this run ended. -/

namespace Ls8

variable {σ : Type}

/-! ## Surroundings with a property -/

/-- Surroundings restricted to those states that have a property which nothing takes away. -/
def Host.restrict (host : Host σ) (P : σ → Prop)
    (write : ∀ s bytes, P s → P (host.write s bytes).1) (log : ∀ s event, P s → P (host.log s event)) :
    Host {s // P s} where
  write s bytes := (⟨(host.write s.val bytes).1, write s.val bytes s.property⟩,
    (host.write s.val bytes).2)
  log s event := ⟨host.log s.val event, log s.val event s.property⟩

namespace Cpu

/-! ## Ends of runs -/

/-- What a run within a budget can come to. -/
inductive Finish (budget : Option UInt64) (out : Counted σ) : Prop
  | spent (count : UInt64) (limited : budget = some count) (result : out.result = .ok count)
      (state : out.cpu.state = .running)
  | halted (count : UInt64) (result : out.result = .ok count) (state : out.cpu.state = .halted)
  | failed (e : CpuError) (result : out.result = .error e) (state : out.cpu.state = .error)
  | panicked (unlimited : budget = none) (result : out.result = .panicked)
      (full : out.cpu.CountedOut)

/-- A run of a machine that has executed nothing before consists of a number of steps. They are spent
only if they are all that a budget allows, and with a budget they do not panic. -/
theorem exists_steps_of_runWithin {host : Host σ} {fuel : Nat} {c : Cpu} (fresh : c.cycles = 0) {s : σ}
    {budget : Option UInt64} {out : Counted σ}
    (ended : Command.runWithin host fuel c s budget = some out) :
    ∃ n, out = c.counted (c.steps host n s) ∧
      ((c.steps host n s).ending = .spent → ∃ count, budget = some count ∧ n = count.toNat) ∧
      ((c.steps host n s).ending = .panicked → budget = none) := by
  cases budget with
  | some count =>
    refine ⟨c.allowance count, ?_, fun _ => ⟨count, rfl, ?_⟩,
      fun panicked => absurd panicked ending_ne_panicked⟩
    · rw [← Option.some.inj ended, runLimited_eq]
    have bound := count.toNat_lt
    have positive : UInt64.size = 2 ^ 64 := rfl
    rw [allowance, fresh, UInt64.toNat_zero]
    omega
  | none =>
    rw [Command.runWithin, run] at ended
    split at ended
    · contradiction
    · next finished =>
      exact ⟨fuel, (Option.some.inj ended).symm, fun spent => absurd spent finished, fun _ => rfl⟩

/-- A run of a machine that has executed nothing before ends by its budget, by a halt, by an error or
in a panic. -/
theorem finish_runWithin {host : Host σ} {fuel : Nat} {c : Cpu} (running : c.state = .running)
    (fresh : c.cycles = 0) {s : σ} {budget : Option UInt64} {out : Counted σ}
    (ended : Command.runWithin host fuel c s budget = some out) : Finish budget out := by
  obtain ⟨n, rfl, spends, panics⟩ := exists_steps_of_runWithin fresh ended
  have course := c.steps_course host s n
  generalize c.steps host n s = run at course spends panics
  cases course with
  | spent succeeds still =>
    obtain ⟨count, limited, rfl⟩ := spends rfl
    have counted := UInt64.toNat_inj.mp (toNat_cycles_sub succeeds)
    exact .spent count limited (congrArg Result.ok counted) still
  | failed k e => exact .failed e rfl rfl
  | panicked k within succeeds panicked =>
    exact .panicked (panics rfl) rfl (countedOut_step (countedOut_of_panicked panicked).2)
  | stopped k _ succeeds stopped =>
    cases k with
    | zero => exact absurd running stopped
    | succ k =>
      obtain ⟨i, last⟩ := succeeds k (Nat.lt_succ_self k)
      exact .halted _ rfl (halted_of_result_step last stopped).2

end Cpu

namespace Command

open Log (Filter)

/-! ## Files -/

/-- The text at a path. -/
def text? (d : Directory) (path : String) : Option (List Char) :=
  (d.read path).toOption.bind Text.Utf8.decode?

/-- The configuration at a path, or the default where there is no path. -/
def configuration? (d : Directory) : Option String → Option Config
  | none => some {}
  | some path => (text? d path).bind fun text => (Config.parse (String.ofList text)).toOption

/-- The image that the text at a path stands for: a source text is assembled, the text of a program
file is read line by line. -/
def imageOf? (path : String) (text : List Char) : Option (List UInt8) :=
  if isSource path then (assemble (String.ofList text)).toOption
  else some (ProgramFile.parse (String.ofList text)).bytes

theorem text?_eq (d : Directory) (path : String) :
    text? d path = ((d.read path).bind textOfContent).toOption := by
  rw [text?]
  cases d.read path with
  | error e => rfl
  | ok content =>
    change Text.Utf8.decode? content = (textOfContent content).toOption
    rw [textOfContent]
    cases Text.Utf8.decode? content <;> rfl

theorem toOption_programOfContent (d : Directory) (path : String) :
    ((d.read path).bind programOfContent).toOption =
      (text? d path).map fun text => ProgramFile.parse (String.ofList text) := by
  rw [text?]
  cases d.read path with
  | error e => rfl
  | ok content =>
    change (programOfContent content).toOption = (Text.Utf8.decode? content).map _
    rw [programOfContent, ProgramFile.ofBytes?_eq]
    cases Text.Utf8.decode? content <;> rfl

/-! ## Consoles around a run -/

/-- What is reported after a run. -/
def closingReports (dumpState : Bool) (result : Result CpuError UInt64) (final : Cpu) : List Report :=
  let dumped := if dumpState then [.state final] else []
  match result with
  | .ok _ => dumped ++ if final.state = .running then [.cutShort final.cycles] else []
  | .error e => dumped ++ [.failure (.machine e)]
  | .panicked => [.failure .cycleCounter]

theorem cutShort_mem_closingReports_iff {dumpState : Bool} {result : Result CpuError UInt64}
    {final : Cpu} {cycles : UInt64} :
    .cutShort cycles ∈ closingReports dumpState result final ↔
      (∃ count, result = .ok count) ∧ final.state = .running ∧ final.cycles = cycles := by
  have dumped : .cutShort cycles ∉ if dumpState then [Report.state final] else [] := by
    split <;> simp
  cases result with
  | ok count =>
    rw [closingReports, List.mem_append, or_iff_right dumped]
    by_cases running : final.state = .running
    · simp [running, eq_comm]
    · simp [running]
  | error e =>
    rw [closingReports, List.mem_append, or_iff_right dumped]
    simp
  | panicked => simp [closingReports]

namespace Console

/-- The console after an image of a number of bytes has been found: a program file is worth a record. -/
def imaged (s : Console) (filter : Filter) (path : String) (size : Nat) : Console :=
  if isSource path then s else s.logged filter (.fileRead path size)

/-- The console after an image of a number of bytes has been found and loaded. -/
def loaded (s : Console) (filter : Filter) (path : String) (size : Nat) : Console :=
  (s.imaged filter path size).logged filter (.programLoaded 0 size)

/-- The console after the reports that follow a run. -/
def concluded (s : Console) (dumpState : Bool) (result : Result CpuError UInt64) (final : Cpu) :
    Console :=
  { s with reports := s.reports ++ closingReports dumpState result final }

theorem output_imaged (s : Console) (filter : Filter) (path : String) (size : Nat) :
    (s.imaged filter path size).output = s.output := by
  rw [imaged]
  split
  · rfl
  · exact s.output_logged filter _

theorem output_loaded (s : Console) (filter : Filter) (path : String) (size : Nat) :
    (s.loaded filter path size).output = s.output := by
  rw [loaded, output_logged, output_imaged]

/-! ## Warnings -/

/-- A console has not been warned that a run was cut short. -/
def Unwarned (s : Console) : Prop := ∀ cycles, .cutShort cycles ∉ s.reports

theorem Unwarned.report {s : Console} (unwarned : s.Unwarned) {r : Report}
    (other : ∀ cycles, r ≠ .cutShort cycles) : (s.report r).Unwarned := by
  intro cycles member
  rcases Array.mem_push.mp member with earlier | rfl
  · exact unwarned cycles earlier
  · exact other cycles rfl

theorem Unwarned.logged {s : Console} (unwarned : s.Unwarned) (filter : Filter)
    (record : Log.Record) : (s.logged filter record).Unwarned := by
  rw [Console.logged]
  split
  · exact unwarned.report (by simp)
  · exact unwarned

theorem Unwarned.loaded {s : Console} (unwarned : s.Unwarned) (filter : Filter) (path : String)
    (size : Nat) : (s.loaded filter path size).Unwarned := by
  apply Unwarned.logged
  rw [imaged]
  split
  · exact unwarned
  · exact unwarned.logged filter _

/-- A machine gives no warnings. -/
theorem Unwarned.runWithin {s : Console} (unwarned : s.Unwarned) {filter : Filter} {fuel : Nat}
    {c : Cpu} {budget : Option UInt64} {out : Counted Console}
    (ended : runWithin (Console.host filter) fuel c s budget = some out) : out.host.Unwarned := by
  let restricted := (Console.host filter).restrict Unwarned (fun _ _ => id)
    (fun _ event unwarned => unwarned.logged filter (.machine event))
  have maps : restricted.Maps Subtype.val (Console.host filter) := ⟨fun _ _ => rfl, fun _ _ => rfl⟩
  have mapped := runWithin_map maps fuel c ⟨s, unwarned⟩ budget
  rw [ended] at mapped
  obtain ⟨inner, -, rfl⟩ := Option.map_eq_some_iff.mp mapped.symm
  exact inner.host.property

/-- What a machine prints on a console it prints anywhere. -/
theorem host_maps_collector (filter : Filter) :
    (Console.host filter).Maps Console.output Host.collector where
  write _ _ := rfl
  log s event := (s.output_logged filter (.machine event)).symm

end Console

/-! ## Failures before a run -/

namespace Script

variable {setting : Option String} {s t final : Console} {script next : Script} {code : ExitCode}

/-- A script fails before it has printed anything or let a machine run. -/
def Fails (script : Script) (s : Console) (code : ExitCode) : Prop :=
  ∃ reason t, Leads script s (fail reason) t ∧ reason.exitCode = code ∧ t.output = s.output

theorem fails_fail (reason : Failure) (s : Console) : Fails (fail reason) s reason.exitCode :=
  ⟨reason, s, .here _ _, rfl, rfl⟩

theorem Fails.of_leads (leads : Leads script s next t) (quiet : t.output = s.output)
    (fails : Fails next t code) : Fails script s code := by
  obtain ⟨reason, u, further, number, output⟩ := fails
  exact ⟨reason, u, leads.trans further, number, output.trans quiet⟩

theorem Fails.ended (fails : Fails script s code) {fuel : Nat} {ending : ExitCode}
    (ended : script.perform fuel s = some (ending, final)) :
    ending = code ∧ final.output = s.output ∧ script.machine? fuel s = none := by
  obtain ⟨reason, t, leads, rfl, output⟩ := fails
  have whole := leads.trans (.fail reason t)
  rw [whole.perform, perform, Option.some.injEq, Prod.mk.injEq] at ended
  obtain ⟨rfl, rfl⟩ := ended
  exact ⟨rfl, output, whole.machine? fuel⟩

theorem leads_configuration (path : Option String) (s : Console) (next : Config → Script) :
    match configuration? s.directory path with
    | some config => Leads (withConfig path next) s (next config) s
    | none => Fails (withConfig path next) s .failure := by
  cases path with
  | none => exact .here _ _
  | some path =>
    rw [configuration?, text?_eq]
    have first : Leads (withConfig (some path) next) s _ s := .read (.here _ s)
    cases found : (s.directory.read path).bind textOfContent with
    | error e =>
      rw [found] at first
      exact .of_leads first rfl (fails_fail (.configUnreadable path e) s)
    | ok text =>
      rw [found] at first
      simp only at first
      change match (Config.parse (String.ofList text)).toOption with
        | some config => Leads (withConfig (some path) next) s (next config) s
        | none => Fails (withConfig (some path) next) s .failure
      cases parsed : Config.parse (String.ofList text) with
      | error e =>
        rw [parsed] at first
        exact .of_leads first rfl (fails_fail (.config e) s)
      | ok config =>
        rw [parsed] at first
        exact first

theorem leads_source (path : String) (s : Console) (next : List UInt8 → Script) :
    match text? s.directory path with
    | none => Fails (withSource path next) s .unusable
    | some text =>
      match (assemble (String.ofList text)).toOption with
      | none => Fails (withSource path next) s .failure
      | some image => Leads (withSource path next) s (next image) s := by
  have first : Leads (withSource path next) s _ s := .read (.here _ s)
  rw [text?_eq]
  cases found : (s.directory.read path).bind textOfContent with
  | error e =>
    rw [found] at first
    exact .of_leads first rfl (fails_fail (.sourceUnreadable path e) s)
  | ok text =>
    have same : assemble (String.ofList text) = Assembly.assembleChars text :=
      congrArg Assembly.assembleChars String.toList_ofList
    rw [found] at first
    simp only [Except.toOption, same]
    cases assembled : Assembly.assembleChars text with
    | error e =>
      simp only [assembled] at first
      exact .of_leads first rfl (fails_fail (.assembly e) s)
    | ok image =>
      simp only [assembled] at first
      exact first

theorem leads_program (filter : Filter) (path : String) (s : Console)
    (next : ProgramFile → Script) :
    match text? s.directory path with
    | none => Fails (withProgram filter path next) s .unusable
    | some text =>
      let file := ProgramFile.parse (String.ofList text)
      Leads (withProgram filter path next) s (next file)
        (s.logged filter (.fileRead path file.bytes.length)) := by
  have same := toOption_programOfContent s.directory path
  cases found : (s.directory.read path).bind programOfContent with
  | error e =>
    rw [found] at same
    have unreadable : text? s.directory path = none := Option.map_eq_none_iff.mp same.symm
    rw [unreadable]
    exact .of_leads (leads_withProgram_of_error found next) rfl (fails_fail _ s)
  | ok file =>
    rw [found] at same
    obtain ⟨text, readable, rfl⟩ := Option.map_eq_some_iff.mp same.symm
    rw [readable]
    exact leads_withProgram found next

theorem leads_image (filter : Filter) (path : String) (s : Console) (next : List UInt8 → Script) :
    match text? s.directory path with
    | none => Fails (withImage filter path next) s .unusable
    | some text =>
      match imageOf? path text with
      | none => Fails (withImage filter path next) s .failure
      | some image =>
        Leads (withImage filter path next) s (next image) (s.imaged filter path image.length) := by
  cases source : isSource path with
  | true =>
    have leads := leads_source path s next
    rw [withImage_source source]
    cases readable : text? s.directory path with
    | none =>
      rw [readable] at leads
      exact leads
    | some text =>
      simp only [readable] at leads
      simp only [imageOf?, Console.imaged, if_pos source]
      exact leads
  | false =>
    have leads := leads_program filter path s fun file => next file.bytes
    have plain : ¬isSource path = true := by simp [source]
    rw [withImage_program source]
    cases readable : text? s.directory path with
    | none =>
      rw [readable] at leads
      exact leads
    | some text =>
      rw [readable] at leads
      simp only [imageOf?, Console.imaged, if_neg plain]
      exact leads

/-! ## The run -/

/-- An image that does not fit into memory is refused; otherwise a new machine runs it. -/
theorem leads_runImage (config : Config) (filter : Filter) (dumpState : Bool) (image : List UInt8)
    (s : Console) :
    if image.length ≤ memorySize then
      ∃ c, (Cpu.load image).run (.powerOn config.mode) = .ok () c ∧ c.state = .running ∧
        c.cycles = 0 ∧
        Leads (runImage config filter dumpState image) s
          (run c config.maxCycles filter (conclude dumpState))
          (s.logged filter (.programLoaded 0 image.length))
    else Fails (runImage config filter dumpState image) s .failure := by
  have loads := Cpu.run_load_powerOn config.mode image
  split at loads
  · next fits =>
    have leads := leads_log filter (.programLoaded 0 image.length)
      (run { Cpu.powerOn config.mode with memory := Memory.zero.place 0 image } config.maxCycles
        filter (conclude dumpState)) s
    rw [if_pos fits]
    refine ⟨_, loads, rfl, rfl, ?_⟩
    rwa [runImage, Config.cpu, loads]
  · next large =>
    rw [if_neg large, runImage, Config.cpu, loads]
    exact fails_fail _ s

/-- A program that can be had as an image that fits is run by a new machine. -/
theorem leads_run (config : Config) (filter : Filter) (dumpState : Bool) (path : String)
    (s : Console) :
    let script := withImage filter path (runImage config filter dumpState)
    match text? s.directory path with
    | none => Fails script s .unusable
    | some text =>
      match imageOf? path text with
      | none => Fails script s .failure
      | some image =>
        if memorySize < image.length then Fails script s .failure
        else
          ∃ c t, (Cpu.load image).run (.powerOn config.mode) = .ok () c ∧ c.state = .running ∧
            c.cycles = 0 ∧ Leads script s (run c config.maxCycles filter (conclude dumpState)) t ∧
            t.output = s.output ∧ (s.Unwarned → t.Unwarned) := by
  intro script
  have imaged := leads_image filter path s (runImage config filter dumpState)
  cases readable : text? s.directory path with
  | none =>
    rw [readable] at imaged
    exact imaged
  | some text =>
    simp only [readable] at imaged ⊢
    cases made : imageOf? path text with
    | none =>
      rw [made] at imaged
      exact imaged
    | some image =>
      simp only [made] at imaged ⊢
      have loads := leads_runImage config filter dumpState image (s.imaged filter path image.length)
      by_cases large : memorySize < image.length
      · rw [if_neg (Nat.not_le.mpr large)] at loads
        rw [if_pos large]
        exact .of_leads imaged (s.output_imaged filter path _) loads
      · rw [if_pos (Nat.not_lt.mp large)] at loads
        rw [if_neg large]
        obtain ⟨c, loaded, running, fresh, runs⟩ := loads
        exact ⟨c, _, loaded, running, fresh, imaged.trans runs, s.output_loaded filter path _,
          fun unwarned => unwarned.loaded filter path _⟩

/-- The exit code that tells how a run ended. -/
def exitAfter : Result CpuError UInt64 → ExitCode
  | .ok _ => .success
  | .error e => (Failure.machine e).exitCode
  | .panicked => .aborted

/-- What follows a run reports how it ended, and exits. -/
theorem leads_conclude (dumpState : Bool) (result : Result CpuError UInt64) (c : Cpu) (s : Console) :
    Leads (conclude dumpState result c) s (exit (exitAfter result)) (s.concluded dumpState result c) := by
  have plain (t : Console) :
      Leads (conclude false result c) t (exit (exitAfter result)) (t.concluded false result c) := by
    cases result with
    | error e => exact .fail (.machine e) t
    | ok count =>
      by_cases running : c.state = .running
      · simp only [conclude, Console.concluded, closingReports, if_pos running]
        exact .report (.here _ _)
      · simp only [conclude, Console.concluded, closingReports, if_neg running]
        exact .here _ _
    | panicked => exact .fail .cycleCounter t
  cases dumpState with
  | false => exact plain s
  | true =>
    cases result with
    | ok count => exact .report (plain (s.report (.state c)))
    | error e => exact .report (plain (s.report (.state c)))
    | panicked => exact plain s

/-- What follows a run prints nothing. The exit code tells how the run ended, and there is a warning
exactly if the machine could have gone on. -/
theorem perform_conclude {fuel : Nat} {dumpState : Bool} {result : Result CpuError UInt64}
    {c : Cpu} (unwarned : s.Unwarned)
    (ended : (conclude dumpState result c).perform fuel s = some (code, final)) :
    final.output = s.output ∧
      code = exitAfter result ∧
      ((∃ cycles, .cutShort cycles ∈ final.reports) ↔
        (∃ count, result = .ok count) ∧ c.state = .running) := by
  rw [(leads_conclude dumpState result c s).perform] at ended
  obtain ⟨rfl, rfl⟩ := Prod.mk.inj (Option.some.inj ended)
  refine ⟨rfl, rfl, ?_⟩
  have added (cycles : UInt64) : .cutShort cycles ∈ (s.concluded dumpState result c).reports ↔
      .cutShort cycles ∈ closingReports dumpState result c := by
    rw [← Array.mem_toList_iff, Console.concluded, Array.toList_appendList, List.mem_append,
      Array.mem_toList_iff, or_iff_right (unwarned cycles)]
  simp [added, cutShort_mem_closingReports_iff]

/-- What is printed and reported when a new machine has been run on a console without output and
warnings. -/
theorem perform_run {fuel : Nat} {dumpState : Bool} {c : Cpu} {budget : Option UInt64}
    {filter : Filter} (running : c.state = .running) (fresh : c.cycles = 0)
    (silent : s.output = #[]) (unwarned : s.Unwarned)
    (ended : (run c budget filter (conclude dumpState)).perform fuel s = some (code, final)) :
    ∃ run, runWithin Host.collector fuel c #[] budget = some run ∧
      final.output = run.host ∧
      (code.number = 3 ↔ ∃ counter byte, run.result = .error (.unknownOpcode counter byte)) ∧
      (code.number = 1 ↔ ∃ e, run.result = .error e ∧
        ∀ counter byte, e ≠ .unknownOpcode counter byte) ∧
      (code.number = 101 ↔ run.result = .panicked) ∧
      (run.result = .panicked → budget = none ∧ run.cpu.CountedOut) ∧
      (code.number = 0 ↔ run.result ≠ .panicked ∧ (run.cpu.state = .halted ∨
        ∃ count, budget = some count ∧ run.result = .ok count)) ∧
      ((∃ cycles, .cutShort cycles ∈ final.reports) ↔
        run.result ≠ .panicked ∧ run.cpu.state = .running) := by
  rw [perform] at ended
  cases ran : runWithin (Console.host filter) fuel c s budget with
  | none =>
    rw [ran] at ended
    contradiction
  | some out =>
    simp only [ran] at ended
    have collected := runWithin_map (Console.host_maps_collector filter) fuel c s budget
    rw [silent, ran] at collected
    obtain ⟨output, number, warning⟩ := perform_conclude (unwarned.runWithin ran) ended
    refine ⟨_, collected, output, ?_⟩
    rw [warning]
    change (code.number = 3 ↔ ∃ counter byte, out.result = .error (.unknownOpcode counter byte)) ∧
      (code.number = 1 ↔ ∃ e, out.result = .error e ∧
        ∀ counter byte, e ≠ .unknownOpcode counter byte) ∧
      (code.number = 101 ↔ out.result = .panicked) ∧
      (out.result = .panicked → budget = none ∧ out.cpu.CountedOut) ∧
      (code.number = 0 ↔ out.result ≠ .panicked ∧ (out.cpu.state = .halted ∨
        ∃ count, budget = some count ∧ out.result = .ok count)) ∧
      ((∃ count, out.result = .ok count) ∧ out.cpu.state = .running ↔
        out.result ≠ .panicked ∧ out.cpu.state = .running)
    cases Cpu.finish_runWithin running fresh ran with
    | spent count limited result state =>
      rw [result, exitAfter] at number
      simp [ExitCode.number, number, result, state, limited]
    | halted count result state =>
      rw [result, exitAfter] at number
      simp [ExitCode.number, number, result, state]
    | failed e result state =>
      rw [result, exitAfter] at number
      cases e with
      | unknownOpcode counter byte =>
        have unknown : code = .unknownOpcode := number
        simp [ExitCode.number, unknown, result, state]
      | _ =>
        have other : code = .failure := number
        simp [ExitCode.number, other, result, state]
    | panicked unlimited result full =>
      rw [result, exitAfter] at number
      simp [ExitCode.number, number, result, unlimited, full]

theorem withRunFilter_eq (config : Config) (setting : Option String) :
    if config.trace = false ∧ Filter.ofSetting? setting = none then
      ∀ next, withRunFilter config setting next = fail .logSetting
    else ∃ filter, ∀ next, withRunFilter config setting next = next filter := by
  split
  · next unset =>
    intro next
    rw [withRunFilter_eq_match, runFilter?_eq_none_iff.mpr unset]
  · next able =>
    obtain ⟨filter, found⟩ := Option.ne_none_iff_exists'.mp (mt runFilter?_eq_none_iff.mp able)
    refine ⟨filter, ?_⟩
    intro next
    rw [withRunFilter_eq_match, found]

end Script

/-- What a run command comes to. It is refused, with nothing printed and no machine run, if its
configuration cannot be had, else if its log cannot be set up as the environment asks, else if the
text of its program cannot be had, else if this text gives no image or too large an image. If it is
not refused, it prints what a new machine prints that runs the image in the mode and with the budget
of the command line and the configuration; the exit code tells an unknown operation from every other
error, and both from a run that halts or uses up its budget, and there is a warning exactly if the
machine could have gone on. Only a run without a budget can panic, once it has gone on for so long that
the cycle counter stands at its greatest value. -/
theorem run_outcome {arguments : List String} {o : RunOptions}
    (accepted : Invocation.ofArguments arguments = .ok (.run o)) {setting : Option String}
    {d : Directory} {fuel : Nat} {code : ExitCode} {s : Console}
    (ended : (script arguments setting).perform fuel { directory := d } = some (code, s)) :
    let refused := s.output = #[] ∧
      (script arguments setting).machine? fuel { directory := d } = none
    match configuration? d o.config with
    | none => code.number = 1 ∧ refused
    | some config =>
      if (config.trace || o.trace) = false ∧ Filter.ofSetting? setting = none then
        code.number = 101 ∧ refused
      else
        match text? d o.program with
        | none => code.number = 2 ∧ refused
        | some text =>
          match imageOf? o.program text with
          | none => code.number = 1 ∧ refused
          | some image =>
            if memorySize < image.length then code.number = 1 ∧ refused
            else
              let mode := if o.strict then .trap else config.mode
              let budget := o.maxCycles <|> config.maxCycles
              ∃ c run, (Cpu.load image).run (.powerOn mode) = .ok () c ∧
                runWithin Host.collector fuel c #[] budget = some run ∧
                s.output = run.host ∧
                (code.number = 3 ↔
                  ∃ counter byte, run.result = .error (.unknownOpcode counter byte)) ∧
                (code.number = 1 ↔ ∃ e, run.result = .error e ∧
                  ∀ counter byte, e ≠ .unknownOpcode counter byte) ∧
                (code.number = 101 ↔ run.result = .panicked) ∧
                (run.result = .panicked → budget = none ∧ run.cpu.CountedOut) ∧
                (code.number = 0 ↔ run.result ≠ .panicked ∧ (run.cpu.state = .halted ∨
                  ∃ count, budget = some count ∧ run.result = .ok count)) ∧
                ((∃ cycles, .cutShort cycles ∈ s.reports) ↔
                  run.result ≠ .panicked ∧ run.cpu.state = .running) := by
  intro refused
  have scripted : script arguments setting = Script.runProgram setting o := by
    rw [script, accepted]
    rfl
  have refuse {expected : ExitCode}
      (fails : Script.Fails (script arguments setting) { directory := d } expected) :
      code.number = expected.number ∧ refused := by
    obtain ⟨rfl, output, machine⟩ := fails.ended ended
    exact ⟨rfl, output, machine⟩
  have configured := Script.leads_configuration o.config { directory := d } fun config =>
    Script.withRunFilter (o.settings config) setting fun filter =>
      Script.withImage filter o.program (Script.runImage (o.settings config) filter o.dumpState)
  change match configuration? d o.config with
    | some config => Script.Leads (Script.runProgram setting o) { directory := d } _ _
    | none => Script.Fails (Script.runProgram setting o) { directory := d } .failure at configured
  rw [← scripted] at configured
  cases found : configuration? d o.config with
  | none =>
    rw [found] at configured
    exact refuse configured
  | some config =>
    have logging : if (config.trace || o.trace) = false ∧ Filter.ofSetting? setting = none then _
        else _ := Script.withRunFilter_eq (o.settings config) setting
    simp only [found] at configured ⊢
    by_cases unset : (config.trace || o.trace) = false ∧ Filter.ofSetting? setting = none
    · rw [if_pos unset] at logging ⊢
      rw [logging] at configured
      exact refuse (.of_leads configured rfl (Script.fails_fail .logSetting _))
    · rw [if_neg unset] at logging ⊢
      obtain ⟨filter, logs⟩ := logging
      rw [logs] at configured
      have runs := Script.leads_run (o.settings config) filter o.dumpState o.program
        { directory := d }
      change match text? d o.program with
        | none => _
        | some text => _ at runs
      cases readable : text? d o.program with
      | none =>
        rw [readable] at runs
        exact refuse (.of_leads configured rfl runs)
      | some text =>
        simp only [readable] at runs ⊢
        cases made : imageOf? o.program text with
        | none =>
          rw [made] at runs
          exact refuse (.of_leads configured rfl runs)
        | some image =>
          simp only [made] at runs ⊢
          by_cases large : memorySize < image.length
          · rw [if_pos large] at runs ⊢
            exact refuse (.of_leads configured rfl runs)
          · rw [if_neg large] at runs ⊢
            obtain ⟨c, t, loaded, running, fresh, leads, silent, clean⟩ := runs
            rw [(configured.trans leads).perform] at ended
            obtain ⟨run, ran, rest⟩ :=
              Script.perform_run running fresh silent (clean nofun) ended
            exact ⟨c, run, loaded, ran, rest⟩

/-- A run that is cut short after it has printed 8. -/
theorem run_cut_short :
    let d : Directory := ⟨[("p.asm", Text.Utf8.encode "LDI R0,8\nPRN R0\nHLT\n")]⟩
    let o : RunOptions := { program := "p.asm", maxCycles := some 2 }
    Invocation.ofArguments ["run", "p.asm", "-m", "2"] = .ok (.run o) ∧
      ∃ code s, (script ["run", "p.asm", "-m", "2"] none).perform 0 { directory := d } =
          some (code, s) ∧
        code.number = 0 ∧ s.output = #[0x38, 0x0a] ∧ ∃ cycles, .cutShort cycles ∈ s.reports := by
  intro d o
  have accepted : Invocation.ofArguments ["run", "p.asm", "-m", "2"] = .ok (.run o) := by decide
  have ends : ((script ["run", "p.asm", "-m", "2"] none).perform 0 { directory := d }).isSome := by
    decide
  obtain ⟨⟨code, s⟩, ended⟩ := Option.isSome_iff_exists.mp ends
  have readable : text? d o.program = some "LDI R0,8\nPRN R0\nHLT\n".toList := by decide
  have image : imageOf? o.program "LDI R0,8\nPRN R0\nHLT\n".toList =
      some [0x82, 0, 8, 0x47, 0, 1] := by decide
  have outcome := run_outcome accepted ended
  have able : ¬((false || o.trace) = false ∧ Filter.ofSetting? none = none) := by decide
  have fits : ¬memorySize < [0x82, 0, 8, 0x47, 0, (1 : UInt8)].length := by decide
  change if (false || o.trace) = false ∧ Filter.ofSetting? none = none then _ else _ at outcome
  rw [if_neg able, readable] at outcome
  simp only [image] at outcome
  rw [if_neg fits] at outcome
  obtain ⟨c, run, loaded, ran, output, -, -, -, -, number, warning⟩ := outcome
  obtain ⟨-, rfl⟩ := EStateM.Result.ok.inj loaded
  obtain rfl := Option.some.inj ran
  refine ⟨accepted, code, s, ended, number.mpr ⟨by decide, .inr ⟨2, rfl, by decide⟩⟩, ?_,
    warning.mpr (by decide)⟩
  exact output.trans (by decide)

end Command

end Ls8
