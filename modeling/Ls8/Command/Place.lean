import Ls8.Command.FileError
import Ls8.Text.Utf8

/-! # Places

Where a path can lead. A command works in a directory of files, and that directory lies in one of
the directories at the top. Of everything else only the fixed names are known: those of the
directories at the top, of the devices, and of what a process finds under its own name: its working
directory, the top, its program and its open streams. What is written under another name outside
the working directory goes out of sight. -/

namespace Ls8

/-- What stands behind a name that is no file. -/
inductive Device
  /-- It holds nothing, and what is written to it is lost. -/
  | sink
  /-- It has no room. -/
  | full
  /-- It holds bytes that are no text, and what is written to it is lost. -/
  | noise
  /-- There is nobody at it. -/
  | terminal
  /-- What is written to it comes out of the command. -/
  | output
  /-- What is written to it comes out beside the reports of the command. -/
  | errors
  /-- The program that the command runs, which is no text and cannot change. -/
  | program
  /-- The name of the command. -/
  | name
  deriving DecidableEq, Repr

/-- Where a path leads. -/
inductive Place
  /-- The working directory. -/
  | here
  /-- The directory at the top. -/
  | root
  /-- A directory at the top without known names. -/
  | top
  /-- The directory of the devices. -/
  | devices
  /-- The directory of the processes. -/
  | processes
  /-- The directory of the command's own process. -/
  | process
  /-- The directory of the open streams of the command. -/
  | streams
  | device (device : Device)
  /-- A file of the working directory, or a name that is still free there. -/
  | entry (name : String)
  /-- A name outside the working directory of which nothing is known. -/
  | unseen
  /-- A name that is not there and cannot be made. -/
  | absent
  deriving DecidableEq, Repr

namespace Place

/-- The names in the directory at the top. -/
def rootNames : List (String × Place) :=
  [("dev", devices), ("proc", processes)] ++
    ["bin", "boot", "etc", "home", "lib", "media", "mnt", "opt", "root", "run", "sbin", "srv",
      "sys", "tmp", "usr", "var"].map fun name => (name, top)

/-- The names of the devices. -/
def deviceNames : List (String × Place) :=
  [("null", device .sink), ("zero", device .sink), ("full", device .full),
    ("random", device .noise), ("urandom", device .noise), ("tty", device .terminal),
    ("stdin", device .sink), ("stdout", device .output), ("stderr", device .errors),
    ("fd", streams), ("shm", top)]

/-- The names of the directory of a process. -/
def processNames : List (String × Place) :=
  [("self", process), ("thread-self", process)]

/-- The names in the directory of a process. -/
def ownNames : List (String × Place) :=
  [("cwd", here), ("root", root), ("fd", streams), ("exe", device .program),
    ("comm", device .name), ("cmdline", device .name)]

/-- The names of the open streams: the input, which is empty, the output, and the reports. -/
def streamNames : List (String × Place) :=
  [("0", device .sink), ("1", device .output), ("2", device .errors)]

/-- The directory around a directory. -/
def parent : Place → Place
  | here => top
  | streams => process
  | process => processes
  | _ => root

/-- Where a name leads from a directory. -/
def child : Place → String → Place
  | here, name => entry name
  | root, name => (rootNames.lookup name).getD unseen
  | devices, name => (deviceNames.lookup name).getD unseen
  | processes, name => (processNames.lookup name).getD absent
  | process, name => (ownNames.lookup name).getD absent
  | streams, name => (streamNames.lookup name).getD absent
  | _, _ => unseen

/-- Whether something new can get a name here. -/
def isFree : Place → Bool
  | entry _ | unseen => true
  | _ => false

end Place

namespace Device

/-- What is read from a device. -/
def read : Device → Except FileError (List UInt8)
  | sink | full | output | errors => .ok []
  | noise | program => .error .notText
  | terminal => .error (.system "No such device or address" 6)
  | name => .ok (Text.Utf8.encode "ls8-emu\n")

/-- Why nothing can be written to a device. -/
def obstacle? : Device → Option FileError
  | full => some (.system "No space left on device" 28)
  | program => some (.system "Text file busy" 26)
  | terminal => some (.system "No such device or address" 6)
  | sink | noise | output | errors | name => none

end Device

end Ls8
