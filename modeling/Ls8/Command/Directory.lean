import Ls8.Command.Place
import Ls8.Text.Lines
import Ls8.Text.Utf8

/-! # The working directory

A command reads and writes files by path, in a directory that holds files and no other directories.
`resolve` follows a path piece by piece to a place; reading and writing then depend on the place
alone. -/

namespace Ls8

/-- The files of a directory by name, each name once. -/
structure Directory where
  files : List (String × List UInt8)
  deriving DecidableEq, Repr

/-- What a write leaves behind: the files, and the bytes that come out of the command instead. -/
structure Written where
  directory : Directory
  output : List UInt8 := []
  errors : List UInt8 := []
  deriving DecidableEq, Repr

namespace Directory

/-- The content of the file with a name. -/
def find? (d : Directory) (name : String) : Option (List UInt8) := d.files.lookup name

/-- Why a path cannot go on from a place, unless that is a directory. -/
def obstacle? (d : Directory) : Place → Option FileError
  | .entry name => some (if (d.find? name).isSome then .notDirectory else .notFound)
  | .device _ => some .notDirectory
  | .unseen | .absent => some .notFound
  | _ => none

/-- The greatest number of bytes in a name. -/
def longestName : Nat := 255

/-- The greatest number of bytes in a path. -/
def longestPath : Nat := 4095

/-- Where one piece of a path leads. -/
def walk (d : Directory) (place : Place) (piece : List Char) : Except FileError Place :=
  match d.obstacle? place with
  | some reason => .error reason
  | none =>
    if piece = [] ∨ piece = ['.'] then .ok place
    else if piece = ['.', '.'] then .ok place.parent
    else
      let name := String.ofList piece
      let child := place.child name
      if child.isFree ∧ longestName < name.utf8ByteSize then .error .nameTooLong else .ok child

/-- Where a path leads, whatever its length. A path that begins with a slash leads from the top. -/
def resolve (d : Directory) (path : List Char) : Except FileError Place :=
  match path with
  | [] => .error .notFound
  | '/' :: path => (Text.pieces (· == '/') path).foldlM d.walk .root
  | path => (Text.pieces (· == '/') path).foldlM d.walk .here

/-- A path, if it is not too long. -/
def checkPath (path : String) : Except FileError (List Char) :=
  if longestPath < path.utf8ByteSize then .error .nameTooLong else .ok path.toList

/-- The content of the file at a path. -/
def read (d : Directory) (path : String) : Except FileError (List UInt8) := do
  match ← d.resolve (← checkPath path) with
  | .entry name =>
    match d.find? name with
    | some content => return content
    | none => throw .notFound
  | .device device => device.read
  | .unseen | .absent => throw .notFound
  | _ => throw .isDirectory

/-- The files after one has been given a content; a new file comes last. -/
def put (name : String) (content : List UInt8) :
    List (String × List UInt8) → List (String × List UInt8)
  | [] => [(name, content)]
  | (other, old) :: rest =>
    if other = name then (name, content) :: rest else (other, old) :: put name content rest

/-- The part of a path before its last name, as the path of a directory. -/
def around (path : List Char) : List Char :=
  ((path.reverse.dropWhile (· == '/')).dropWhile (· != '/')).reverse ++ ['.']

/-- What is left when the file at a path has been written, whether it was there or not. A path that
ends with a slash is never that of a file. -/
def write (d : Directory) (path : String) (content : List UInt8) : Except FileError Written := do
  let path ← checkPath path
  if path.getLast? = some '/' then
    let _ ← d.resolve (around path)
    throw .isDirectory
  match ← d.resolve path with
  | .entry name => return { directory := ⟨put name content d.files⟩ }
  | .unseen => return { directory := d }
  | .absent => throw .notFound
  | .device device =>
    match device, device.obstacle? with
    | _, some reason => throw reason
    | .output, none => return { directory := d, output := content }
    | .errors, none => return { directory := d, errors := content }
    | _, none => return { directory := d }
  | _ => throw .isDirectory

/-- A file that has been put is found with its new content. -/
theorem lookup_put (name other : String) (content : List UInt8)
    (files : List (String × List UInt8)) :
    (put name content files).lookup other =
      if other = name then some content else files.lookup other := by
  induction files with
  | nil =>
    by_cases h : other = name
    · simp [put, h]
    · simp [put, List.lookup_cons, h, beq_false_of_ne h]
  | cons file rest ih =>
    obtain ⟨first, old⟩ := file
    by_cases h : first = name <;> by_cases h' : other = first
    · simp [put, h, h']
    · have : (other == first) = false := beq_false_of_ne h'
      simp [put, List.lookup_cons, ← h, this, h']
    · simp [put, h, h']
    · have : (other == first) = false := beq_false_of_ne h'
      simp [put, List.lookup_cons, h, this, ih]

end Directory

end Ls8
