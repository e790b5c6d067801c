import Ls8.Assembly.Image
import Ls8.Command.Script
import Ls8.Listing
import Ls8.ProgramFile

/-! # The commands

The script of every invocation. A path that ends in `.asm` names a source text, every other path a
program file; only `disasm` reads every path as a program file. -/

namespace Ls8.Command

open Log (Filter)

/-! ## Files -/

/-- The end of the paths of source texts. -/
def sourceSuffix : List Char := ".asm".toList

/-- Whether a path names a source text. -/
def isSource (path : String) : Bool := sourceSuffix.isSuffixOf path.toList

/-- The path of the program file that is made from a source text. -/
def programPath (source : String) : String :=
  (if isSource source then String.ofList (source.toList.take (source.length - sourceSuffix.length))
    else source) ++ ".ls8"

/-- The text in the content of a file. -/
def textOfContent (content : List UInt8) : Except FileError (List Char) :=
  match Text.Utf8.decode? content with
  | some text => .ok text
  | none => .error .notText

/-- The program in the content of a file. -/
def programOfContent (content : List UInt8) : Except FileError ProgramFile :=
  match ProgramFile.ofBytes? content with
  | some program => .ok program
  | none => .error .notText

namespace Script

/-- Reads a program file. -/
def withProgram (filter : Filter) (path : String) (next : ProgramFile → Script) : Script :=
  read path fun content =>
    match content.bind programOfContent with
    | .ok program => log filter (.fileRead path program.bytes.length) (next program)
    | .error e => fail (.programUnreadable path e)

/-- Reads and assembles a source text. -/
def withSource (path : String) (next : List UInt8 → Script) : Script :=
  read path fun content =>
    match content.bind textOfContent with
    | .ok source =>
      match Assembly.assembleChars source with
      | .ok image => next image
      | .error e => fail (.assembly e)
    | .error e => fail (.sourceUnreadable path e)

/-- Gets an image from a source text or a program file. -/
def withImage (filter : Filter) (path : String) (next : List UInt8 → Script) : Script :=
  if isSource path then withSource path next
  else withProgram filter path fun program => next program.bytes

/-- Reads a configuration, if there is a path to one. -/
def withConfig (path : Option String) (next : Config → Script) : Script :=
  match path with
  | none => next {}
  | some path =>
    read path fun content =>
      match content.bind textOfContent with
      | .ok text =>
        match Config.parse (String.ofList text) with
        | .ok config => next config
        | .error e => fail (.config e)
      | .error e => fail (.configUnreadable path e)

end Script

/-! ## Runs -/

/-- The settings of a run: those of a configuration, as far as the command line does not override
them. -/
def RunOptions.settings (o : RunOptions) (config : Config) : Config :=
  { mode := if o.strict then .trap else config.mode
    maxCycles := o.maxCycles <|> config.maxCycles
    trace := config.trace || o.trace }

namespace Script

/-- Sets up the log as the environment asks for. -/
def withFilter (setting : Option String) (next : Filter → Script) : Script :=
  match Filter.ofSetting? setting with
  | some filter => next filter
  | none => fail .logSetting

/-- Sets up the log of a run. -/
def withRunFilter (config : Config) (setting : Option String) (next : Filter → Script) : Script :=
  if config.trace then next .detailed else withFilter setting next

/-- Reports the state of a machine if that is wanted. -/
def dump (wanted : Bool) (c : Cpu) (next : Script) : Script :=
  if wanted then report (.state c) next else next

/-- What follows a run. -/
def conclude (dumpState : Bool) (result : Result CpuError UInt64) (final : Cpu) : Script :=
  match result with
  | .ok _ =>
    dump dumpState final
      (if final.state = .running then report (.cutShort final.cycles) (exit .success)
      else exit .success)
  | .error e => dump dumpState final (fail (.machine e))
  | .panicked => fail .cycleCounter

/-- Loads an image into a new machine and lets it run. -/
def runImage (config : Config) (filter : Filter) (dumpState : Bool) (image : List UInt8) :
    Script :=
  match (Cpu.load image).run config.cpu with
  | .ok () c => log filter (.programLoaded 0 image.length)
      (run c config.maxCycles filter (conclude dumpState))
  | .error e _ => fail (.load e)

/-- Runs a program. -/
def runProgram (setting : Option String) (o : RunOptions) : Script :=
  withConfig o.config fun config =>
    let config := o.settings config
    withRunFilter config setting fun filter =>
      withImage filter o.program (runImage config filter o.dumpState)

/-! ## The other commands -/

/-- Assembles a source text into a program file. -/
def assembleFile (setting : Option String) (source : String) (output : Option String) : Script :=
  let target := output.getD (programPath source)
  withFilter setting fun _ =>
    withSource source fun image =>
      write target (Text.Utf8.encode (annotate image).render) fun
        | .ok () =>
          print ("Assembled " ++ Nat.repr image.length ++ " bytes to " ++ target ++ "\n")
            (exit .success)
        | .error e => fail (.notSaved target e)

/-- Prints the listing of a program file. -/
def disassembleFile (setting : Option String) (path : String) : Script :=
  withFilter setting fun filter =>
    withProgram filter path fun program =>
      print (Ls8.disassemble program.bytes) (exit .success)

/-- What is printed when nothing is asked for. -/
def bannerText : String :=
  "LS-8 Emulator v0.1.0\nAn eight-bit computer emulator\n\nUse --help for available commands\n"

/-- What is printed as the version. -/
def versionText : String := "ls8-emu 0.1.0\n"

/-- What is printed as help. -/
def helpText : String :=
  "An emulator, assembler and debugger for the LS-8 eight-bit computer\n\n" ++
    "Usage:\n" ++
    "  ls8-emu run PROGRAM [-m|--max-cycles N] [-t|--trace] [-s|--strict]\n" ++
    "                      [-c|--config FILE] [--dump-state]\n" ++
    "  ls8-emu debug PROGRAM\n" ++
    "  ls8-emu asm SOURCE [-o|--output FILE]\n" ++
    "  ls8-emu disasm PROGRAM\n" ++
    "  ls8-emu help [COMMAND]\n" ++
    "  ls8-emu --version\n"

end Script

/-- The environment variable that holds the log setting. -/
def settingVariable : String := "RUST_LOG"

/-- The script of an invocation, given the log setting of the environment. -/
def Invocation.script (setting : Option String) : Invocation → Script
  | banner => .print Script.bannerText (.exit .success)
  | version => .print Script.versionText (.exit .success)
  | help => .print Script.helpText (.exit .success)
  | run options => Script.runProgram setting options
  | debug program => Script.withImage .silent program .debug
  | assemble source output => Script.assembleFile setting source output
  | disassemble program => Script.disassembleFile setting program

/-- The script of a command line, given the log setting of the environment. -/
def script (arguments : List String) (setting : Option String) : Script :=
  match Invocation.ofArguments arguments with
  | .ok invocation => invocation.script setting
  | .error e => .fail (.usage e)

end Ls8.Command
