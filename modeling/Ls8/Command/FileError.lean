/-! # File errors

Why the content of a path cannot be had or changed, and how the operating system says so. -/

namespace Ls8

/-- Why a file cannot be read or written. -/
inductive FileError
  | notFound
  | notDirectory
  | isDirectory
  | nameTooLong
  | notText
  /-- An error with a description and a number of the operating system's own. -/
  | system (description : String) (number : Nat)
  deriving DecidableEq, Repr

/-- A description and a number in words. -/
def FileError.numbered (description : String) (number : Nat) : String :=
  description ++ " (os error " ++ Nat.repr number ++ ")"

/-- A file error in words. -/
def FileError.message : FileError → String
  | notFound => numbered "No such file or directory" 2
  | notDirectory => numbered "Not a directory" 20
  | isDirectory => numbered "Is a directory" 21
  | nameTooLong => numbered "File name too long" 36
  | notText => "stream did not contain valid UTF-8"
  | system description number => numbered description number

end Ls8
