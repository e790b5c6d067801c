import Ls8.Proofs.Command.Running
import Ls8.Proofs.Machine.Events

/-! # The log of a run

A traced run logs everything that its machine reports, so its log is an account of the run. A log is all
that the trace option and the log setting decide about, as long as there is a filter: what a run prints,
its exit code and its other reports are the same with every filter. Only a setting that would be cut
inside a character leaves no filter, and then nothing runs unless the run is traced.

All this holds for every output, also for one that fails. `performThrough` performs a script whose
machine prints through an outlet; `performThrough_free` says that this is how a script is performed, if
the outlet takes up everything. -/

namespace Ls8.Command

open Log (Filter)

/-! ## Outlets -/

/-- How an output takes up bytes behind those that it has taken up before. It may take a part of them
only, and fail with a reason. -/
abbrev Outlet := Array UInt8 → List UInt8 → Array UInt8 × Option String

/-- The outlet that takes up everything. -/
def Outlet.free : Outlet := fun held bytes => (held ++ bytes, none)

/-- The host that prints through an outlet and ignores events. -/
def Outlet.host (outlet : Outlet) : Host (Array UInt8) := { write := outlet, log := fun s _ => s }

theorem Outlet.host_free : free.host = Host.collector := rfl

/-- The host that prints through the outlet of a console and logs what a filter admits. -/
def Console.hostThrough (outlet : Outlet) (filter : Filter) : Host Console :=
  { write := fun s bytes =>
      let (output, refused) := outlet s.output bytes
      ({ s with output }, refused)
    log := (Console.host filter).log }

/-- Performs a script whose machine prints through an outlet. What the command prints itself does not
pass the outlet. -/
def Script.performThrough (outlet : Outlet) (fuel : Nat) :
    Script → Console → Option (ExitCode × Console)
  | exit code, s => some (code, s)
  | print text next, s => next.performThrough outlet fuel (s.print (Text.Utf8.encode text))
  | report r next, s => next.performThrough outlet fuel (s.report r)
  | read path next, s => (next (s.directory.read path)).performThrough outlet fuel s
  | write path content next, s =>
    match s.directory.write path content with
    | .ok written => (next (.ok ())).performThrough outlet fuel (s.wrote written)
    | .error e => (next (.error e)).performThrough outlet fuel s
  | run c budget filter next, s =>
    match runWithin (Console.hostThrough outlet filter) fuel c s budget with
    | some out => (next out.result out.cpu).performThrough outlet fuel out.host
    | none => none
  | debug _, s => some (.success, s)

namespace Script

variable {outlet : Outlet} {fuel : Nat} {script next : Script} {s t : Console}

theorem performThrough_free (fuel : Nat) (script : Script) (s : Console) :
    script.performThrough .free fuel s = script.perform fuel s := by
  induction script generalizing s with
  | exit code => rfl
  | print text next ih => exact ih _
  | report r next ih => exact ih _
  | read path next ih => exact ih _ s
  | write path content next ih =>
    rw [performThrough, perform]
    cases s.directory.write path content with
    | ok written => exact ih _ _
    | error e => exact ih _ _
  | run c budget filter next ih =>
    have host : Console.hostThrough .free filter = Console.host filter := rfl
    rw [performThrough, perform, host]
    cases runWithin (Console.host filter) fuel c s budget with
    | none => rfl
    | some out => exact ih _ _ _
  | debug program => rfl

theorem Leads.performThrough (leads : Leads script s next t) (outlet : Outlet) (fuel : Nat) :
    script.performThrough outlet fuel s = next.performThrough outlet fuel t := by
  induction leads with
  | here => rfl
  | print rest ih => exact ih
  | report rest ih => exact ih
  | read rest ih => exact ih
  | write done rest ih =>
    rw [Script.performThrough, done]
    exact ih

end Script

/-! ## Reports -/

/-- The event of a machine that a report logs, if it logs one. -/
def Report.event? : Report → Option Event
  | .log (.machine event) => some event
  | _ => none

/-- Whether a report belongs to the log. -/
def Report.isLog : Report → Bool
  | .log _ => true
  | _ => false

@[simp] theorem Report.isLog_log (record : Log.Record) : (log record).isLog = true := rfl

@[simp] theorem Report.event?_machine (event : Event) : (log (.machine event)).event? = some event :=
  rfl

theorem Report.event?_of_not_isLog {r : Report} (other : r.isLog = false) : r.event? = none := by
  cases r with
  | log => contradiction
  | _ => rfl

namespace Console

/-- The events of machines in the log of a console. -/
def events (s : Console) : List Event := s.reports.toList.filterMap Report.event?

/-- A console without its log. -/
def unlogged (s : Console) : Console := { s with reports := s.reports.filter (!·.isLog) }

/-- The console after events have been offered to the log. -/
def told (s : Console) (filter : Filter) (events : List Event) : Console :=
  { s with
    reports := s.reports ++
      (events.filter fun event => filter.admits (.machine event)).map fun event =>
        Report.log (.machine event) }

/-- The console after a run that has printed and told its events. -/
def played (s : Console) (filter : Filter) (p : Array UInt8 × List Event) : Console :=
  { s.told filter p.2 with output := p.1 }

theorem played_nil {s : Console} {held : Array UInt8} (same : s.output = held) (filter : Filter) :
    s.played filter (held, []) = s := by
  simp [played, told, ← same]

/-- A machine does on a console what it does anywhere where its events are recorded. -/
theorem recorder_maps_played (outlet : Outlet) (s : Console) (filter : Filter) :
    outlet.host.recorder.Maps (s.played filter) (hostThrough outlet filter) where
  write _ _ := rfl
  log p event := by
    by_cases admitted : filter.admits (.machine event) = true
    · simp only [hostThrough, host, if_pos admitted, Host.recorder, Outlet.host, played, told, report,
        List.filter_append, List.map_append]
      congr 1
      exact Array.toList_inj.mp (by simp [admitted])
    · simp [hostThrough, host, Host.recorder, Outlet.host, played, told, admitted]

end Console

/-- A detailed log tells every event of a machine. -/
theorem detailed_admits (event : Event) : Filter.detailed.admits (.machine event) = true := by
  have all : "".toList.isPrefixOf "ls8::cpu::execute".toList = true := by decide
  have own : "ls8".toList.isPrefixOf "ls8::cpu::execute".toList = true := by decide
  have concerned : Filter.detailed.filter (·.concerns (.machine event)) = Filter.detailed := by
    simp only [Filter.detailed, Log.Directive.concerns, Log.Record.target, all, own, Bool.and_true,
      List.filter_cons_of_pos, List.filter_nil]
  have decides : Filter.detailed.deciding? (.machine event) = some ⟨"ls8", .all, some .trace⟩ := by
    rw [Filter.deciding?, concerned]
    rfl
  rw [Filter.admits_eq, decides]
  cases event <;> rfl

namespace Console

variable (s : Console) (filter : Filter)

theorem unlogged_logged (record : Log.Record) : (s.logged filter record).unlogged = s.unlogged := by
  rw [logged]
  split
  · simp [unlogged, report]
  · rfl

/-- What has been told does not show outside the log. -/
theorem unlogged_played (p : Array UInt8 × List Event) :
    (s.played filter p).unlogged = { s.unlogged with output := p.1 } := by
  have hidden (found : List Event) :
      (found.map fun event => Report.log (.machine event)).filter (!·.isLog) = [] := by
    simp [List.filter_map]
  simp only [unlogged, played, told]
  congr 1
  exact Array.toList_inj.mp (by simp [hidden])

theorem events_logged {record : Log.Record} (other : ∀ event, record ≠ .machine event) :
    (s.logged filter record).events = s.events := by
  rw [logged]
  split
  · cases record with
    | machine event => exact absurd rfl (other event)
    | _ => simp [events, report, Report.event?]
  · rfl

/-- A detailed log tells all events. -/
theorem events_played (p : Array UInt8 × List Event) : (s.played .detailed p).events = s.events ++ p.2 := by
  have logged (found : List Event) :
      (found.map fun event => Report.log (.machine event)).filterMap Report.event? = found := by
    rw [List.filterMap_map]
    exact List.filterMap_some
  simp [events, played, told, detailed_admits, logged]

end Console

/-! ## The way to a run -/

namespace Console

variable (s : Console)

theorem unlogged_loaded (filter : Filter) (path : String) (size : Nat) :
    (s.loaded filter path size).unlogged = s.unlogged := by
  rw [loaded, unlogged_logged, imaged]
  split
  · rfl
  · rw [unlogged_logged]

theorem events_loaded (filter : Filter) (path : String) (size : Nat) :
    (s.loaded filter path size).events = s.events := by
  rw [loaded, events_logged _ _ (by simp), imaged]
  split
  · rfl
  · rw [events_logged _ _ (by simp)]

/-- What is reported after a run does not belong to the log. -/
theorem isLog_of_mem_closingReports {dumpState : Bool} {result : Result CpuError UInt64}
    {final : Cpu} : ∀ r ∈ closingReports dumpState result final, r.isLog = false := by
  have dumped : ∀ r ∈ if dumpState then [Report.state final] else [], r.isLog = false := by
    split <;> simp [Report.isLog]
  intro r member
  cases result with
  | ok count =>
    rcases List.mem_append.mp member with first | last
    · exact dumped r first
    · split at last
      · obtain rfl := List.mem_singleton.mp last
        rfl
      · contradiction
  | error e =>
    rcases List.mem_append.mp member with first | last
    · exact dumped r first
    · obtain rfl := List.mem_singleton.mp last
      rfl
  | panicked =>
    obtain rfl := List.mem_singleton.mp member
    rfl

theorem unlogged_concluded (dumpState : Bool) (result : Result CpuError UInt64) (final : Cpu) :
    (s.concluded dumpState result final).unlogged = s.unlogged.concluded dumpState result final := by
  have kept : (closingReports dumpState result final).filter (!·.isLog) =
      closingReports dumpState result final :=
    List.filter_eq_self.mpr fun r member => by simp [isLog_of_mem_closingReports r member]
  simp only [unlogged, concluded]
  congr 1
  exact Array.toList_inj.mp (by simp [kept])

theorem events_concluded (dumpState : Bool) (result : Result CpuError UInt64) (final : Cpu) :
    (s.concluded dumpState result final).events = s.events := by
  have silent : (closingReports dumpState result final).filterMap Report.event? = [] :=
    List.filterMap_eq_nil_iff.mpr fun r member =>
      Report.event?_of_not_isLog (isLog_of_mem_closingReports r member)
  simp [events, concluded, silent]

end Console

namespace Script

variable {s : Console} {path : String}

/-- A program that can be loaded is run, and the log is told so. -/
theorem leads_loaded {text : List Char} (readable : text? s.directory path = some text)
    {image : List UInt8} (made : imageOf? path text = some image) {config : Config} {c : Cpu}
    (loaded : (Cpu.load image).run (.powerOn config.mode) = .ok () c) (filter : Filter) (dumpState : Bool) :
    Leads (withImage filter path (runImage config filter dumpState)) s
      (run c config.maxCycles filter (conclude dumpState)) (s.loaded filter path image.length) := by
  have imaged := leads_image filter path s (runImage config filter dumpState)
  simp only [readable, made] at imaged
  have runs := leads_log filter (.programLoaded 0 image.length)
    (run c config.maxCycles filter (conclude dumpState)) (s.imaged filter path image.length)
  refine imaged.trans ?_
  rw [runImage, Config.cpu, loaded]
  exact runs

end Script

/-! ## The whole command -/

section

variable {arguments : List String} {o : RunOptions} {config : Config} {text : List Char}
  {image : List UInt8} {c : Cpu} {s : Console}

/-- A run command with a program that can be loaded fails if it has no filter, and otherwise comes to the
run of the program with all its events recorded. The filter decides only which of them are logged. -/
theorem performThrough_run (accepted : Invocation.ofArguments arguments = .ok (.run o))
    (configured : configuration? s.directory o.config = some config)
    (readable : text? s.directory o.program = some text) (made : imageOf? o.program text = some image)
    (loaded : (Cpu.load image).run (.powerOn (o.settings config).mode) = .ok () c)
    (outlet : Outlet) (fuel : Nat)
    (setting : Option String) :
    (script arguments setting).performThrough outlet fuel s =
      match Script.runFilter? (o.settings config) setting with
      | none => some (.aborted, s.report (.failure .logSetting))
      | some filter =>
        (runWithin outlet.host.recorder fuel c (s.output, []) (o.settings config).maxCycles).map
          fun out => (Script.exitAfter out.result,
            ((s.loaded filter o.program image.length).played filter out.host).concluded o.dumpState
              out.result out.cpu) := by
  have scripted : script arguments setting = Script.runProgram setting o := by
    rw [script, accepted]
    rfl
  have leads := Script.leads_configuration o.config s fun config =>
    Script.withRunFilter (o.settings config) setting fun filter =>
      Script.withImage filter o.program (Script.runImage (o.settings config) filter o.dumpState)
  rw [configured] at leads
  simp only [Script.withRunFilter_eq_match] at leads
  rw [scripted, Script.runProgram]
  simp only [Script.withRunFilter_eq_match]
  rw [leads.performThrough]
  cases Script.runFilter? (o.settings config) setting with
  | none => exact (Script.Leads.fail .logSetting s).performThrough outlet fuel
  | some filter =>
    have runs := Script.leads_loaded readable made loaded filter o.dumpState
    have maps := Console.recorder_maps_played outlet (s.loaded filter o.program image.length) filter
    have ran := runWithin_map maps fuel c (s.output, []) (o.settings config).maxCycles
    rw [Console.played_nil (s.output_loaded filter o.program image.length)] at ran
    simp only
    rw [runs.performThrough, Script.performThrough, ran]
    cases runWithin outlet.host.recorder fuel c (s.output, []) (o.settings config).maxCycles with
    | none => rfl
    | some out => exact (Script.leads_conclude ..).performThrough outlet fuel

/-- A run command whose log can be set up shows, besides its log, what the run shows that nobody
records. -/
theorem unlogged_performThrough_run (accepted : Invocation.ofArguments arguments = .ok (.run o))
    (configured : configuration? s.directory o.config = some config)
    (readable : text? s.directory o.program = some text) (made : imageOf? o.program text = some image)
    (loaded : (Cpu.load image).run (.powerOn (o.settings config).mode) = .ok () c)
    (outlet : Outlet) (fuel : Nat)
    {setting : Option String} {filter : Filter}
    (logging : Script.runFilter? (o.settings config) setting = some filter) :
    ((script arguments setting).performThrough outlet fuel s).map (Prod.map id Console.unlogged) =
      (runWithin outlet.host.recorder fuel c (s.output, []) (o.settings config).maxCycles).map
        fun out => (Script.exitAfter out.result,
          { s.unlogged with output := out.host.1 }.concluded o.dumpState out.result out.cpu) := by
  rw [performThrough_run accepted configured readable made loaded, logging, Option.map_map]
  congr 1
  funext out
  simp only [Function.comp_apply, Prod.map_apply, id_eq, Console.unlogged_concluded,
    Console.unlogged_played, Console.unlogged_loaded]

end

/-- The log of a traced run is an account of the run: one announcement for each instruction executed, in
order, and one for an instruction that is decoded but fails; then that the machine has halted, or has
been stopped, or nothing if the budget is spent or the run panics. What the run prints, its exit code,
the files and all other reports, a dumped state among them, are the same with and without a trace and
with every log setting. Only a run that is not traced and whose log setting would be cut inside a
character is not made. -/
theorem trace_replays_run {arguments : List String} {o : RunOptions}
    (accepted : Invocation.ofArguments arguments = .ok (.run o)) {d : Directory} {config : Config}
    (configured : configuration? d o.config = some config) {text : List Char}
    (readable : text? d o.program = some text) {image : List UInt8}
    (made : imageOf? o.program text = some image) (fits : image.length ≤ memorySize)
    (outlet : Outlet) (fuel : Nat) (setting : Option String) :
    let mode := if o.strict then .trap else config.mode
    let budget := o.maxCycles <|> config.maxCycles
    let start : Console := { directory := d }
    let perform arguments setting := (script arguments setting).performThrough outlet fuel start
    ∃ c, (Cpu.load image).run (.powerOn mode) = .ok () c ∧
      ((config.trace || o.trace) = true →
        ∀ code s, perform arguments setting = some (code, s) →
          ∃ n, c.Account outlet.host #[] n (c.steps outlet.host n #[]) s.events ∧
            ((c.steps outlet.host n #[]).ending = .spent →
              ∃ count, budget = some count ∧ n = count.toNat) ∧
            s.output = (c.steps outlet.host n #[]).host ∧
            code = Script.exitAfter (c.counted (c.steps outlet.host n #[])).result) ∧
      ∀ others trace otherSetting,
        Invocation.ofArguments others = .ok (.run { o with trace }) →
          if (config.trace || trace) = false ∧ Filter.ofSetting? otherSetting = none then
            perform others otherSetting = some (.aborted, start.report (.failure .logSetting))
          else ¬((config.trace || o.trace) = false ∧ Filter.ofSetting? setting = none) →
            (perform others otherSetting).map (Prod.map id Console.unlogged) =
              (perform arguments setting).map (Prod.map id Console.unlogged) := by
  intro mode budget start perform
  have loads := Cpu.run_load_powerOn mode image
  rw [if_pos fits] at loads
  generalize placed : { Cpu.powerOn mode with memory := Memory.zero.place 0 image } = c at loads
  have running : c.state = .running := by rw [← placed]; rfl
  have fresh : c.cycles = 0 := by rw [← placed]; rfl
  refine ⟨c, loads, ?_, ?_⟩
  · intro traced code s ended
    have logging : Script.runFilter? (o.settings config) setting = some .detailed := if_pos traced
    have whole : perform arguments setting = _ :=
      performThrough_run (s := start) accepted configured readable made loads outlet fuel setting
    rw [ended, logging] at whole
    obtain ⟨out, ran, final⟩ := Option.map_eq_some_iff.mp whole.symm
    obtain ⟨rfl, rfl⟩ := Prod.mk.inj final
    obtain ⟨n, rfl, spent, -⟩ := Cpu.exists_steps_of_runWithin fresh ran
    have same : c.steps outlet.host n #[] = (c.steps outlet.host.recorder n (#[], [])).map Prod.fst :=
      outlet.host.recorder_maps.steps n c (#[], [])
    have account := c.steps_account outlet.host running #[] n
    refine ⟨n, ?_, ?_, ?_, ?_⟩
    · rw [Console.events_concluded, Console.events_played, Console.events_loaded]
      exact account
    · rw [same]
      exact spent
    · rw [same]
      rfl
    · rw [same]
      rfl
  · intro others trace otherSetting acceptedOther
    have logs (trace : Bool) (setting : Option String) :
        Script.runFilter? (RunOptions.settings { o with trace } config) setting = none ↔
          (config.trace || trace) = false ∧ Filter.ofSetting? setting = none :=
      Script.runFilter?_eq_none_iff
    split
    · next cut =>
      have whole : perform others otherSetting = _ :=
        performThrough_run (s := start) acceptedOther configured readable made loads outlet fuel
          otherSetting
      rw [whole, (logs trace otherSetting).mpr cut]
    · next able =>
      intro ready
      obtain ⟨filter, logging⟩ := Option.ne_none_iff_exists'.mp (mt (logs o.trace setting).mp ready)
      obtain ⟨other, loggingOther⟩ :=
        Option.ne_none_iff_exists'.mp (mt (logs trace otherSetting).mp able)
      have first := unlogged_performThrough_run (s := start) accepted configured readable made loads
        outlet fuel logging
      have second := unlogged_performThrough_run (s := start) acceptedOther configured readable made
        loads outlet fuel loggingOther
      exact second.trans first.symm

/-- A traced run of a program that prints 8, and the same run without a trace and with another log
setting. -/
theorem printing_traced :
    let d : Directory := ⟨[("p.asm", Text.Utf8.encode "LDI R0,8\nPRN R0\nHLT\n")]⟩
    let perform arguments setting := (script arguments setting).perform 4 { directory := d }
    (∃ code s c n, perform ["run", "p.asm", "--trace"] none = some (code, s) ∧
      Cpu.Account Host.collector c #[] n (c.steps Host.collector n #[]) s.events ∧
      s.output = (c.steps Host.collector n #[]).host ∧
      s.events = [.execute 0 0x82 (.ldi 0 8), .execute 3 0x47 (.prn 0), .execute 5 1 .hlt,
        .halted 5 3]) ∧
    (perform ["run", "p.asm"] (some "error")).map (Prod.map id Console.unlogged) =
      (perform ["run", "p.asm", "--trace"] none).map (Prod.map id Console.unlogged) := by
  intro d perform
  have accepted : Invocation.ofArguments ["run", "p.asm", "--trace"] =
      .ok (.run { program := "p.asm", trace := true }) := by decide
  have plain : Invocation.ofArguments ["run", "p.asm"] =
      .ok (.run { program := "p.asm", trace := false }) := by decide
  have configured : configuration? d none = some {} := rfl
  have readable : text? d "p.asm" = some "LDI R0,8\nPRN R0\nHLT\n".toList := by decide
  have image : imageOf? "p.asm" "LDI R0,8\nPRN R0\nHLT\n".toList =
      some [0x82, 0, 8, 0x47, 0, 1] := by decide
  have told : (perform ["run", "p.asm", "--trace"] none).map (fun (_, s) => s.events) =
      some [.execute 0 0x82 (.ldi 0 8), .execute 3 0x47 (.prn 0), .execute 5 1 .hlt,
        .halted 5 3] := by decide
  obtain ⟨⟨code, s⟩, ended, events⟩ := Option.map_eq_some_iff.mp told
  obtain ⟨c, -, replays, same⟩ :=
    trace_replays_run accepted configured readable image (by decide) .free 4 none
  simp only [Script.performThrough_free, Outlet.host_free] at replays same
  obtain ⟨n, account, -, output, -⟩ := replays rfl code s ended
  exact ⟨⟨code, s, c, n, ended, account, output, events⟩,
    same ["run", "p.asm"] false (some "error") plain (by decide)⟩

/-- A setting that begins with a wide blank would be cut inside it. The run that asks for this setting is
not made; a traced run does not ask. -/
theorem cut_setting_prevents_run :
    let d : Directory := ⟨[("p.asm", Text.Utf8.encode "LDI R0,8\nPRN R0\nHLT\n")]⟩
    let seen arguments setting :=
      ((script arguments setting).perform 4 { directory := d }).map fun (code, s) =>
        (code.number, s.output)
    seen ["run", "p.asm"] none = some (0, #[0x38, 0x0a]) ∧
      seen ["run", "p.asm", "--trace"] (some "\u3000x=debug") = some (0, #[0x38, 0x0a]) ∧
      seen ["run", "p.asm"] (some "\u3000x=debug") = some (101, #[]) := by
  decide

end Ls8.Command
