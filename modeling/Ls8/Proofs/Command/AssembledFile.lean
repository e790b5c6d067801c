import Ls8.Proofs.Command.Directory
import Ls8.Proofs.Command.Setup
import Ls8.Proofs.ProgramFile

/-! # Sources and the files assembled from them

A source text can be run directly, or assembled into a program file that is run later. Either it has
an error, and then both ways report the same failure and no file is written; or the file holds its
image, is listed as that image, and runs as the source does. -/

namespace Ls8.Command

open Log (Filter)

/-- The console without its reports. -/
def Console.withoutReports (s : Console) : Console := { s with reports := #[] }

/-- The content of the program file that is made of an image. -/
def programContent (image : List UInt8) : List UInt8 := Text.Utf8.encode (annotate image).render

/-- The program file of an image holds the image. -/
theorem programOfContent_programContent (image : List UInt8) :
    ∃ file, programOfContent (programContent image) = .ok file ∧ file.bytes = image := by
  refine ⟨ProgramFile.parse (annotate image).render, ?_, bytes_parse_annotate image⟩
  rw [programOfContent, programContent, ProgramFile.ofBytes?_encode]

/-! ## Invocations -/

namespace Invocation

/-- What an invocation does in a directory, if a run without a budget ends within `fuel` steps. -/
def perform (fuel : Nat) (setting : Option String) (d : Directory) (invocation : Invocation) :
    Option (ExitCode × Console) :=
  (invocation.script setting).perform fuel { directory := d }

/-- The machine that an invocation leaves. -/
def machine? (fuel : Nat) (setting : Option String) (d : Directory) (invocation : Invocation) :
    Option Cpu :=
  (invocation.script setting).machine? fuel { directory := d }

/-- An invocation ends with an exit code, whatever a run would need. -/
def Ends (setting : Option String) (d : Directory) (invocation : Invocation) (code : ExitCode)
    (s : Console) : Prop :=
  ∀ fuel, invocation.perform fuel setting d = some (code, s)

theorem ends_of_leads {setting : Option String} {d : Directory} {invocation : Invocation}
    {code : ExitCode} {s : Console}
    (leads : Script.Leads (invocation.script setting) { directory := d } (.exit code) s) :
    invocation.Ends setting d code s := by
  intro fuel
  exact leads.perform fuel

end Invocation

/-- Two programs run alike in a directory, whatever the options are: they end with the same exit code,
output, files and machine, if they end, and without a configuration, a trace and a log setting of
one's own also with the same reports. -/
structure RunAlike (setting : Option String) (d : Directory) (program other : String) : Prop where
  perform : ∀ fuel (o : RunOptions),
    ((Invocation.run { o with program }).perform fuel setting d).map
        (Prod.map id Console.withoutReports) =
      ((Invocation.run { o with program := other }).perform fuel setting d).map
        (Prod.map id Console.withoutReports)
  machine : ∀ fuel (o : RunOptions),
    (Invocation.run { o with program }).machine? fuel setting d =
      (Invocation.run { o with program := other }).machine? fuel setting d
  reports : Filter.ofSetting? setting = some .warnings →
    ∀ fuel (o : RunOptions), o.config = none → o.trace = false →
      (Invocation.run { o with program }).perform fuel setting d =
        (Invocation.run { o with program := other }).perform fuel setting d

/-- The log setting by default does not show that a file has been read. -/
theorem not_admits_fileRead (path : String) (size : Nat) :
    Filter.warnings.admits (.fileRead path size) = false := rfl

section Run

variable {setting : Option String} {d : Directory} {program source : String}

/-- A program file that holds the image of a source text goes on as the text does, after what the log
may say about reading it. -/
theorem leads_alike (isText : isSource source = true) (isFile : isSource program = false)
    {text : String} (stored : d.read source = .ok (Text.Utf8.encode text)) {file : ProgramFile}
    (loaded : (d.read program).bind programOfContent = .ok file)
    (assembled : assemble text = .ok file.bytes) (o : RunOptions) :
    ∃ next earlier,
      Script.Leads ((Invocation.run { o with program }).script setting) { directory := d } next
          (Console.after earlier { directory := d }) ∧
        Script.Leads ((Invocation.run { o with program := source }).script setting)
          { directory := d } next { directory := d } ∧
        (Filter.ofSetting? setting = some .warnings → o.config = none → o.trace = false →
          earlier = #[]) := by
  cases Script.setup setting o { directory := d } with
  | failed reason leads cause =>
    exact ⟨.fail reason, #[], leads program, leads source, fun _ _ _ => rfl⟩
  | ready config filter leads plain =>
    let record : Log.Record := .fileRead program file.bytes.length
    have logged : ({ directory := d } : Console).logged filter record =
        Console.after (if filter.admits record then #[.log record] else #[]) { directory := d } := by
      rw [Console.logged]
      split
      · rfl
      · rfl
    refine ⟨Script.runImage config filter o.dumpState file.bytes,
      if filter.admits record then #[.log record] else #[], ?_, ?_, ?_⟩
    · apply (leads program).trans
      rw [Script.withImage_program isFile, ← logged]
      exact Script.leads_withProgram (s := { directory := d }) loaded _
    · apply (leads source).trans
      rw [Script.withImage_source isText]
      have next := Script.leads_withSource (s := { directory := d }) stored
        (Script.runImage config filter o.dumpState)
      rwa [assembled] at next
    · intro default unset untraced
      have usual : filter = .warnings :=
        Option.some.inj ((plain unset untraced).symm.trans default)
      rw [usual, not_admits_fileRead]
      rfl

theorem runAlike (isText : isSource source = true) (isFile : isSource program = false)
    {text : String} (stored : d.read source = .ok (Text.Utf8.encode text)) {file : ProgramFile}
    (loaded : (d.read program).bind programOfContent = .ok file)
    (assembled : assemble text = .ok file.bytes) : RunAlike setting d program source := by
  have alike := @leads_alike setting d program source isText isFile text stored file loaded assembled
  constructor
  · intro fuel o
    obtain ⟨next, earlier, first, second, -⟩ := alike o
    rw [Invocation.perform, Invocation.perform, first.perform, second.perform,
      Script.perform_after, Option.map_map]
    rfl
  · intro fuel o
    obtain ⟨next, earlier, first, second, -⟩ := alike o
    rw [Invocation.machine?, Invocation.machine?, first.machine?, second.machine?,
      Script.machine?_after]
  · intro default fuel o unset untraced
    obtain ⟨next, earlier, first, second, none⟩ := alike o
    rw [Invocation.perform, Invocation.perform, first.perform, second.perform,
      none default unset untraced]
    rfl

end Run

/-! ## Assembling -/

/-- A source text cannot be run, and not be assembled into a file, because of an error, which is all
that is reported. Nothing is written. -/
structure StopsWith (setting : Option String) (d : Directory) (source target : String)
    (e : Assembly.Error) : Prop where
  message : ({ directory := d, reports := #[.failure (.assembly e)] } : Console).errorText =
    "Assembly error: " ++ e.message ++ "\n"
  assembling : (Invocation.assemble source (some target)).Ends setting d .failure
    { directory := d, reports := #[.failure (.assembly e)] }
  running : ∀ o : RunOptions, o.config = none →
    (Invocation.run { o with program := source }).Ends setting d .failure
      { directory := d, reports := #[.failure (.assembly e)] }

/-- A source text is assembled into a file, and in the directory that this leaves the file holds the
image of the text, is listed as this image, and runs as the text does. -/
structure StandsFor (setting : Option String) (d : Directory) (source target : String)
    (image : List UInt8) (after : Directory) : Prop where
  assembling : ∃ s, (Invocation.assemble source (some target)).Ends setting d .success s ∧
    s.directory = after
  loading : ∃ file, (after.read target).bind programOfContent = .ok file ∧ file.bytes = image
  listing : ∃ s, (Invocation.disassemble target).Ends setting after .success s ∧
    s.directory = after ∧ s.output.toList = Text.Utf8.encode (Ls8.disassemble image)
  running : RunAlike setting after target source

section Assemble

variable {setting : Option String} {filter : Filter} {d : Directory} {source target : String}
  {text : String}

/-- A source text stays as it is when a program file is written. -/
theorem read_source_of_write (isText : isSource source = true) (isFile : isSource target = false)
    {old content : List UInt8} (stored : d.read source = .ok old) {written : Written}
    (write : d.write target content = .ok written) : written.directory.read source = .ok old := by
  have plain : '/' ∉ sourceSuffix := by decide
  have ends : sourceSuffix <:+ source.toList := List.isSuffixOf_iff_suffix.mp isText
  have other : ¬sourceSuffix <:+ target.toList := by
    rw [← List.isSuffixOf_iff_suffix]
    exact ne_true_of_eq_false isFile
  exact Directory.read_of_write_other stored write plain ends other

theorem ends_of_error (logging : Filter.ofSetting? setting = some filter)
    (isText : isSource source = true) (stored : d.read source = .ok (Text.Utf8.encode text))
    {e : Assembly.Error} (wrong : assemble text = .error e) (o : RunOptions)
    (unset : o.config = none) :
    (Invocation.run { o with program := source }).Ends setting d .failure
      { directory := d, reports := #[.failure (.assembly e)] } := by
  apply Invocation.ends_of_leads
  cases Script.setup setting o { directory := d } with
  | failed reason leads cause =>
    rw [cause unset] at logging
    contradiction
  | ready config filter leads plain =>
    apply (leads source).trans
    rw [Script.withImage_source isText]
    have next := Script.leads_withSource (s := { directory := d }) stored
      (Script.runImage config filter o.dumpState)
    rw [wrong] at next
    exact next.trans (.fail _ _)

theorem assemble_ends_of_error (logging : Filter.ofSetting? setting = some filter)
    (stored : d.read source = .ok (Text.Utf8.encode text)) {e : Assembly.Error}
    (wrong : assemble text = .error e) :
    (Invocation.assemble source (some target)).Ends setting d .failure
      { directory := d, reports := #[.failure (.assembly e)] } := by
  apply Invocation.ends_of_leads
  rw [Invocation.script, Script.assembleFile, Script.withFilter_eq logging]
  apply (Script.leads_withSource (s := { directory := d }) stored _).trans
  rw [wrong]
  exact .fail _ _

theorem assemble_ends (logging : Filter.ofSetting? setting = some filter)
    (stored : d.read source = .ok (Text.Utf8.encode text)) {image : List UInt8}
    (assembled : assemble text = .ok image) {written : Written}
    (write : d.write target (programContent image) = .ok written) :
    ∃ s, (Invocation.assemble source (some target)).Ends setting d .success s ∧
      s.directory = written.directory := by
  let report := "Assembled " ++ Nat.repr image.length ++ " bytes to " ++ target ++ "\n"
  refine ⟨(({ directory := d } : Console).wrote written).print (Text.Utf8.encode report), ?_, ?_⟩
  · apply Invocation.ends_of_leads
    rw [Invocation.script, Script.assembleFile, Script.withFilter_eq logging]
    apply (Script.leads_withSource (s := { directory := d }) stored _).trans
    rw [assembled]
    exact .write write (.print (.here _ _))
  · rw [Console.directory_print, Console.directory_wrote]

theorem disassemble_ends (logging : Filter.ofSetting? setting = some filter) {file : ProgramFile}
    (loaded : (d.read target).bind programOfContent = .ok file) :
    ∃ s, (Invocation.disassemble target).Ends setting d .success s ∧
      s.directory = d ∧ s.output.toList = Text.Utf8.encode (Ls8.disassemble file.bytes) := by
  let record : Log.Record := .fileRead target file.bytes.length
  let listed := Text.Utf8.encode (Ls8.disassemble file.bytes)
  refine ⟨(({ directory := d } : Console).logged filter record).print listed, ?_, ?_, ?_⟩
  · apply Invocation.ends_of_leads
    rw [Invocation.script, Script.disassembleFile, Script.withFilter_eq logging]
    exact (Script.leads_withProgram (s := { directory := d }) loaded _).trans (.print (.here _ _))
  · rw [Console.directory_print, Console.directory_logged]
  · rw [Console.print, Console.output_logged]
    simp [listed]

/-- A source text with an error fails in the same way whether it is run or assembled, and no file is
written. -/
theorem stopsWith (logging : Filter.ofSetting? setting = some filter)
    (isText : isSource source = true) (stored : d.read source = .ok (Text.Utf8.encode text))
    {e : Assembly.Error} (wrong : assemble text = .error e) : StopsWith setting d source target e where
  message := by
    simp only [Console.errorText, List.foldl_toArray, List.foldl_cons, List.foldl_nil,
      String.empty_append]
    rfl
  assembling := assemble_ends_of_error logging stored wrong
  running o unset := ends_of_error logging isText stored wrong o unset

theorem standsFor (logging : Filter.ofSetting? setting = some filter)
    (isText : isSource source = true) (isFile : isSource target = false)
    (stored : d.read source = .ok (Text.Utf8.encode text)) {image : List UInt8}
    (assembled : assemble text = .ok image) {written : Written}
    (write : d.write target (programContent image) = .ok written)
    (kept : written.directory.read target = .ok (programContent image)) :
    StandsFor setting d source target image written.directory := by
  obtain ⟨file, loaded, rfl⟩ := programOfContent_programContent image
  have found : (written.directory.read target).bind programOfContent = .ok file := by
    rw [kept, Except.bind, loaded]
  have still := read_source_of_write isText isFile stored write
  exact ⟨assemble_ends logging stored assembled write, ⟨file, found, rfl⟩,
    disassemble_ends logging found, runAlike isText isFile still found assembled⟩

/-- A source text with an error fails in the same way whether it is run or assembled, and no file is
written. Otherwise the file that it is assembled into, if it can be written and is read back as it
was written, stands for the text: it holds the image of the text, is listed as this image, and runs
as the text does. -/
theorem assembled_file_stands_for_source (logging : Filter.ofSetting? setting = some filter)
    (isText : isSource source = true) (isFile : isSource target = false)
    (stored : d.read source = .ok (Text.Utf8.encode text)) :
    match assemble text with
    | .error e => StopsWith setting d source target e
    | .ok image =>
      ∀ written, d.write target (programContent image) = .ok written →
        written.directory.read target = .ok (programContent image) →
        StandsFor setting d source target image written.directory := by
  cases assembled : assemble text with
  | error e => exact stopsWith logging isText stored assembled
  | ok image =>
    intro written write kept
    exact standsFor logging isText isFile stored assembled write kept

/-- A source text that prints 8, and one with an unknown word. -/
theorem printing_assembled_into_file :
    let printing : Directory := ⟨[("p.asm", Text.Utf8.encode "LDI R0,8\nPRN R0\nHLT\n")]⟩
    let wrong : Directory := ⟨[("p.asm", Text.Utf8.encode "GO R0\n")]⟩
    let image : List UInt8 := [0x82, 0, 8, 0x47, 0, 1]
    Invocation.ofArguments ["asm", "p.asm", "-o", "q.ls8"] =
        .ok (.assemble "p.asm" (some "q.ls8")) ∧
      Invocation.ofArguments ["run", "q.ls8", "-m", "3"] =
        .ok (.run { program := "q.ls8", maxCycles := some 3 }) ∧
      StandsFor none printing "p.asm" "q.ls8" image
        ⟨printing.files ++ [("q.ls8", programContent image)]⟩ ∧
      StopsWith none wrong "p.asm" "q.ls8" (.onLine 1 (.unknownMnemonic "GO")) := by
  intro printing wrong image
  have usual : Filter.ofSetting? none = some .warnings := rfl
  have isText : isSource "p.asm" = true := by decide
  have isFile : isSource "q.ls8" = false := by decide
  have assembled : assemble "LDI R0,8\nPRN R0\nHLT\n" = .ok image := by decide
  have refused : assemble "GO R0\n" = .error (.onLine 1 (.unknownMnemonic "GO")) := by decide
  have stored : printing.read "p.asm" = .ok (Text.Utf8.encode "LDI R0,8\nPRN R0\nHLT\n") := by
    decide
  have storedWrong : wrong.read "p.asm" = .ok (Text.Utf8.encode "GO R0\n") := by decide
  have good := @assembled_file_stands_for_source none .warnings printing "p.asm" "q.ls8"
    "LDI R0,8\nPRN R0\nHLT\n" usual isText isFile stored
  have bad := @assembled_file_stands_for_source none .warnings wrong "p.asm" "q.ls8" "GO R0\n" usual
    isText isFile storedWrong
  rw [assembled] at good
  rw [refused] at bad
  have file : printing.resolve "q.ls8".toList = .ok (.entry "q.ls8") := by decide
  have write : printing.write "q.ls8" (programContent image) =
      .ok { directory := ⟨printing.files ++ [("q.ls8", programContent image)]⟩ } := rfl
  exact ⟨by decide, by decide, good _ write (Directory.read_of_write write file), bad⟩

end Assemble

end Ls8.Command
