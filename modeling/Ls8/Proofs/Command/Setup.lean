import Ls8.Proofs.Command.Script

/-! # What comes before a run

A command finds its configuration, its log filter and its program before it does anything else. The
first two do not depend on the program: they are found, or the command fails, in the same way for
every program. -/

namespace Ls8.Command

open Log (Filter)

/-- The console after a record has been offered to the log. -/
def Console.logged (s : Console) (filter : Filter) (record : Log.Record) : Console :=
  if filter.admits record then s.report (.log record) else s

namespace Console

theorem directory_print (s : Console) (bytes : List UInt8) :
    (s.print bytes).directory = s.directory := rfl

theorem directory_wrote (s : Console) (written : Written) :
    (s.wrote written).directory = written.directory := by
  rw [wrote]
  split
  · rfl
  · rfl

theorem directory_logged (s : Console) (filter : Filter) (record : Log.Record) :
    (s.logged filter record).directory = s.directory := by
  rw [logged]
  split
  · rfl
  · rfl

theorem output_logged (s : Console) (filter : Filter) (record : Log.Record) :
    (s.logged filter record).output = s.output := by
  rw [logged]
  split
  · rfl
  · rfl

end Console

theorem textOfContent_encode (text : String) :
    textOfContent (Text.Utf8.encode text) = .ok text.toList := by
  rw [textOfContent, Text.Utf8.decode?_encode]

namespace Script

variable {setting : Option String} {filter : Filter} {s : Console} {path : String}

/-! ## Files -/

theorem leads_log (filter : Filter) (record : Log.Record) (next : Script) (s : Console) :
    Leads (log filter record next) s next (s.logged filter record) := by
  rw [log, Console.logged]
  split
  · exact .report (.here _ _)
  · exact .here _ _

theorem leads_withProgram {file : ProgramFile}
    (loaded : (s.directory.read path).bind programOfContent = .ok file)
    (next : ProgramFile → Script) :
    Leads (withProgram filter path next) s (next file)
      (s.logged filter (.fileRead path file.bytes.length)) := by
  apply Leads.read
  rw [loaded]
  exact leads_log ..

theorem leads_withProgram_of_error {e : FileError}
    (refused : (s.directory.read path).bind programOfContent = .error e)
    (next : ProgramFile → Script) :
    Leads (withProgram filter path next) s (fail (.programUnreadable path e)) s := by
  apply Leads.read
  rw [refused]
  exact .here _ s

/-- A source text that is encoded in a file is assembled. -/
theorem leads_withSource {text : String}
    (stored : s.directory.read path = .ok (Text.Utf8.encode text)) (next : List UInt8 → Script) :
    Leads (withSource path next) s
      (match assemble text with
        | .ok image => next image
        | .error e => fail (.assembly e)) s := by
  have found : (Except.ok (Text.Utf8.encode text)).bind textOfContent = .ok text.toList :=
    textOfContent_encode text
  apply Leads.read
  rw [stored, found]
  exact .here _ _

theorem withFilter_eq (logging : Filter.ofSetting? setting = some filter) (next : Filter → Script) :
    withFilter setting next = next filter := by
  rw [withFilter, logging]

/-! ## Setting up a run -/

/-- What comes before a run looks for its image: whatever the program is, the same configuration and
the same filter have been found, or the same failure. -/
inductive Setup (setting : Option String) (o : RunOptions) (s : Console) : Prop
  | ready (config : Config) (filter : Filter)
      (leads : ∀ program, Leads (runProgram setting { o with program }) s
        (withImage filter program (runImage config filter o.dumpState)) s)
      (plain : o.config = none → o.trace = false → Filter.ofSetting? setting = some filter)
  | failed (reason : Failure)
      (leads : ∀ program, Leads (runProgram setting { o with program }) s (fail reason) s)
      (cause : o.config = none → Filter.ofSetting? setting = none)

theorem leads_withConfig (path : Option String) (s : Console) :
    (∃ config, (path = none → config = {}) ∧
        ∀ next, Leads (withConfig path next) s (next config) s) ∨
      ∃ reason, path ≠ none ∧ ∀ next, Leads (withConfig path next) s (fail reason) s := by
  cases path with
  | none =>
    refine .inl ⟨{}, fun _ => rfl, ?_⟩
    intro next
    exact .here _ _
  | some path =>
    have given : some path ≠ none := Option.some_ne_none path
    cases found : (s.directory.read path).bind textOfContent with
    | error e =>
      refine .inr ⟨.configUnreadable path e, given, ?_⟩
      intro next
      apply Leads.read
      rw [found]
      exact .here _ _
    | ok text =>
      cases parsed : Config.parse (String.ofList text) with
      | error e =>
        refine .inr ⟨.config e, given, ?_⟩
        intro next
        apply Leads.read
        rw [found]
        simp only [parsed]
        exact .here _ _
      | ok config =>
        refine .inl ⟨config, fun unset => absurd unset given, ?_⟩
        intro next
        apply Leads.read
        rw [found]
        simp only [parsed]
        exact .here _ _

/-- The filter of a run, if there is one. A traced run does not ask the environment. -/
def runFilter? (config : Config) (setting : Option String) : Option Filter :=
  if config.trace then some .detailed else Filter.ofSetting? setting

theorem withRunFilter_eq_match (config : Config) (setting : Option String) (next : Filter → Script) :
    withRunFilter config setting next =
      match runFilter? config setting with
      | some filter => next filter
      | none => fail .logSetting := by
  rw [withRunFilter, runFilter?]
  split
  · rfl
  · rfl

theorem runFilter?_eq_none_iff {config : Config} {setting : Option String} :
    runFilter? config setting = none ↔ config.trace = false ∧ Filter.ofSetting? setting = none := by
  rw [runFilter?]
  cases config.trace <;> simp

theorem withRunFilter_cases (config : Config) (setting : Option String) :
    (∃ filter, (config.trace = false → Filter.ofSetting? setting = some filter) ∧
        ∀ next, withRunFilter config setting next = next filter) ∨
      Filter.ofSetting? setting = none ∧
        ∀ next, withRunFilter config setting next = fail .logSetting := by
  cases found : runFilter? config setting with
  | some filter =>
    refine .inl ⟨filter, ?_, ?_⟩
    · intro untraced
      rwa [runFilter?, if_neg (by simp [untraced])] at found
    · intro next
      rw [withRunFilter_eq_match, found]
  | none =>
    refine .inr ⟨(runFilter?_eq_none_iff.mp found).2, ?_⟩
    intro next
    rw [withRunFilter_eq_match, found]

theorem setup (setting : Option String) (o : RunOptions) (s : Console) : Setup setting o s := by
  obtain ⟨config, default, read⟩ | ⟨reason, given, failed⟩ := leads_withConfig o.config s
  · have configured (program : String) := read fun config =>
      withRunFilter (o.settings config) setting fun filter =>
        withImage filter program (runImage (o.settings config) filter o.dumpState)
    obtain ⟨filter, plain, found⟩ | ⟨cut, found⟩ := withRunFilter_cases (o.settings config) setting
    · refine .ready (o.settings config) filter ?_ ?_
      · intro program
        have leads := configured program
        rwa [found] at leads
      · intro unset untraced
        apply plain
        rw [default unset]
        exact untraced
    · refine .failed .logSetting ?_ fun _ => cut
      intro program
      have leads := configured program
      rwa [found] at leads
  · refine .failed reason ?_ fun unset => absurd unset given
    intro program
    exact failed _

/-! ## Images -/

theorem withImage_source (source : isSource path = true) (filter : Filter)
    (next : List UInt8 → Script) : withImage filter path next = withSource path next := by
  rw [withImage, if_pos source]

theorem withImage_program (program : isSource path = false) (filter : Filter)
    (next : List UInt8 → Script) :
    withImage filter path next = withProgram filter path fun file => next file.bytes := by
  rw [withImage, if_neg (by simp [program])]

end Script

end Ls8.Command
