import Ls8.Text.Alphanumeric
import Ls8.Text.Blank
import Ls8.Text.Numeral

/-! # Patterns

The regular expressions that a filter may compare the value of a field with. Nothing is ever matched
against one: what counts is whether a text is a pattern.

A pattern is read from the left, under flags that last to the end of the group in which they are
set. The character tables of Unicode are not known to patterns. While the flag `u` is on, they can
therefore use neither the families of digits, blanks and word characters, nor the edges of words,
nor letters in both cases. While it is off, those of ASCII serve, but then nothing that might match
half a character is allowed: no wildcard, no complement, and no byte from 128. There are no counted
repetitions, since braces end a field, and neither references back nor conditions on what is before
or ahead. -/

namespace Ls8.Log

namespace Pattern

/-! ## Flags -/

/-- The flags that bear on what is a pattern. -/
structure Flags where
  /-- Letters stand for both of their cases. -/
  caseless : Bool := false
  /-- Blanks and comments are passed over. -/
  spaced : Bool := false
  /-- Characters are those of Unicode rather than those of ASCII. -/
  unicode : Bool := true
  deriving DecidableEq, Repr

/-- The letters of all flags. -/
def flagLetters : List Char := "imsUuRx".toList

/-- The flags after a change, written as the letters to switch on and, behind a minus, those to
switch off. No letter may come twice. -/
def Flags.change? (f : Flags) (change : List Char) : Option Flags :=
  let on := change.takeWhile (· != '-')
  let off := (change.dropWhile (· != '-')).drop 1
  if change.getLast? = some '-' ∨ ¬(on ++ off).Nodup ∨ ¬(on ++ off).all flagLetters.contains then
    none
  else
    let after (letter : Char) (before : Bool) : Bool :=
      on.contains letter || (before && !off.contains letter)
    some ⟨after 'i' f.caseless, after 'x' f.spaced, after 'u' f.unicode⟩

/-- A text without the blanks and comments that it begins with, read from inside a comment or not. A
comment reaches from a number sign to the end of the line. -/
def skipBlanks : Bool → List Char → List Char
  | _, [] => []
  | true, c :: rest => skipBlanks (c != '\n') rest
  | false, c :: rest =>
    if Text.isBlank c then skipBlanks false rest
    else if c = '#' then skipBlanks true rest
    else c :: rest

/-- A text without what the flags pass over at its beginning. -/
def Flags.skip (f : Flags) (s : List Char) : List Char :=
  if f.spaced then skipBlanks false s else s

/-! ## Single characters -/

/-- What a character or an escape stands for. -/
inductive Atom
  /-- A character by its code, or a byte if it is written as one. -/
  | literal (code : Nat) (isByte : Bool)
  /-- The digits, the blanks or the word characters, or all the others. -/
  | family (complement : Bool)
  /-- A place between two characters: an edge of the text, or one of a word. -/
  | edge (ofWord : Bool)
  deriving DecidableEq, Repr

/-- The letters that stand for control characters, with their codes. -/
def controls : List (Char × Nat) :=
  [('a', 7), ('t', 9), ('n', 10), ('v', 11), ('f', 12), ('r', 13)]

/-- The values of a number of hexadecimal digits, and what follows them. -/
def Flags.hexDigits? (f : Flags) : Nat → List Char → Option (List Nat × List Char)
  | 0, s => some ([], f.skip s)
  | count + 1, s =>
    match f.skip s with
    | [] => none
    | c :: rest => do
      let digit ← Text.digitValue? 16 c
      let (digits, rest) ← f.hexDigits? count rest
      return (digit :: digits, rest)

/-- The character whose code is given by a number of hexadecimal digits, and what follows. Two
digits are the code of a byte. -/
def Flags.coded? (f : Flags) (count : Nat) (s : List Char) : Option (Atom × List Char) := do
  let (digits, rest) ← f.hexDigits? count s
  let code := Text.ofDigits 16 digits
  if code.isValidChar then some (.literal code (count == 2), rest) else none

/-- What an escape stands for, read behind its backslash, and what follows. Every ASCII character
that is neither letter nor digit can be escaped. -/
def Flags.escape? (f : Flags) : List Char → Option (Atom × List Char)
  | [] => none
  | 'x' :: rest => f.coded? 2 rest
  | 'u' :: rest => f.coded? 4 rest
  | 'U' :: rest => f.coded? 8 rest
  | c :: rest =>
    if ['d', 's', 'w'].contains c then some (.family false, rest)
    else if ['D', 'S', 'W'].contains c then some (.family true, rest)
    else if ['A', 'z'].contains c then some (.edge false, rest)
    else if ['b', 'B', '<', '>'].contains c then some (.edge true, rest)
    else match controls.lookup c with
      | some code => some (.literal code false, rest)
      | none => if c.isAlphanum || 128 ≤ c.toNat then none else some (.literal c.toNat false, rest)

/-- What a text begins with, a character or an escape, and what follows. -/
def Flags.atom? (f : Flags) : List Char → Option (Atom × List Char)
  | [] => none
  | '\\' :: rest => f.escape? rest
  | c :: rest => some (.literal c.toNat false, rest)

/-- Whether the flags allow an atom outside classes. -/
def Flags.admits (f : Flags) : Atom → Bool
  | .literal code isByte => if f.unicode then !f.caseless else !isByte || code < 128
  | .family complement => !f.unicode && !complement
  | .edge ofWord => !f.unicode || !ofWord

/-- Whether the flags allow an atom as the member of a class. -/
def Flags.admitsMember (f : Flags) : Atom → Bool
  | .literal code _ => if f.unicode then !f.caseless else code < 128
  | .family complement => !f.unicode && !complement
  | .edge _ => false

/-! ## Depth -/

/-- The depth of what consists of parts of given depths; a part by itself counts as it is. -/
def depthOf : List Nat → Nat
  | [] => 0
  | [depth] => depth
  | depths => depths.foldl max 0 + 1

/-- The greatest depth of a pattern. -/
def greatestDepth : Nat := 250

/-! ## Classes -/

/-- A class that has been opened. -/
structure Class where
  /-- The depth of all that stands before the last operator. -/
  left : Option Nat := none
  /-- The depths of the members behind it. -/
  members : List Nat := []
  /-- Nothing has been read yet but minus signs. -/
  begins : Bool := true
  deriving DecidableEq, Repr

namespace Class

/-- The class with one more member. -/
def add (c : Class) (depth : Nat) : Class := ⟨c.left, depth :: c.members, false⟩

/-- The depth of what stands in the class. -/
def depth (c : Class) : Nat :=
  match c.left with
  | none => depthOf c.members
  | some left => max left (depthOf c.members) + 1

/-- The class behind an operator. -/
def operate (c : Class) : Class := ⟨some c.depth, [], false⟩

/-- Whether a character is a member of the class because of its place: a minus at the beginning, or
a bracket that would close a class without members. -/
def beginsWith (c : Class) (first : Char) : Bool :=
  c.begins && (first == '-' || (first == ']' && c.members.isEmpty))

end Class

/-- The names of the classes of ASCII characters. -/
def classNames : List String :=
  ["alnum", "alpha", "ascii", "blank", "cntrl", "digit", "graph", "lower", "print", "punct",
    "space", "upper", "word", "xdigit"]

/-- Whether a named class, read behind its bracket, is a complement, and what follows it. -/
def namedClass? : List Char → Option (Bool × List Char)
  | ':' :: rest =>
    let complement := rest.head? == some '^'
    let rest := if complement then rest.drop 1 else rest
    match rest.dropWhile (· != ':') with
    | ':' :: ']' :: behind =>
      if classNames.contains (String.ofList (rest.takeWhile (· != ':'))) then
        some (complement, behind)
      else none
    | _ => none
  | _ => none

/-- Whether the flags allow a named class. -/
def Flags.admitsNamed (f : Flags) (complement : Bool) : Bool :=
  if f.unicode then !f.caseless else !complement

/-- The character that decides what a minus before a text is for. Of a comment only the number sign
is passed over. -/
def Flags.decider? (f : Flags) (s : List Char) : Option Char :=
  if f.spaced then
    match Text.trimStart s with
    | '#' :: rest => (Text.trimStart rest).head?
    | rest => rest.head?
  else s.head?

/-- What follows a member of a class, which is an atom or a range of characters. -/
def Flags.member? (f : Flags) (s : List Char) : Option (List Char) := do
  let (first, rest) ← f.atom? s
  guard (f.admitsMember first)
  match f.skip rest with
  | '-' :: behind =>
    if [some ']', some '-'].contains (f.decider? behind) then return rest
    let (last, rest) ← f.atom? (f.skip behind)
    match first, last with
    | .literal low _, .literal high _ => if low ≤ high ∧ f.admitsMember last then rest else none
    | _, _ => none
  | rest => return rest

/-- What follows an opening bracket and the caret behind it, if there is one. -/
def Flags.openClass? (f : Flags) (s : List Char) : Option (List Char) :=
  match f.skip s with
  | '^' :: rest => if f.unicode then some rest else none
  | rest => some rest

/-- The depth of a class and what follows it. The class is read from inside, and the classes around
it are given from the innermost. -/
def Flags.readClass? (f : Flags) : Nat → Class → List Class → List Char → Option (Nat × List Char)
  | 0, _, _, _ => none
  | fuel + 1, c, outer, s =>
    match f.skip s with
    | [] => none
    | first :: rest =>
      if c.beginsWith first then
        if f.admitsMember (.literal first.toNat false) then
          f.readClass? fuel ⟨c.left, 0 :: c.members, first == '-'⟩ outer rest
        else none
      else match first, rest with
        | ']', rest =>
          match outer with
          | [] => some (c.depth + 1, rest)
          | parent :: outer => f.readClass? fuel (parent.add (c.depth + 1)) outer rest
        | '[', rest =>
          match namedClass? rest with
          | some (complement, rest) =>
            if f.admitsNamed complement then f.readClass? fuel (c.add 0) outer rest else none
          | none => (f.openClass? rest).bind (f.readClass? fuel {} (c :: outer))
        | '&', '&' :: rest | '-', '-' :: rest | '~', '~' :: rest =>
          f.readClass? fuel c.operate outer rest
        | first, rest => (f.member? (first :: rest)).bind (f.readClass? fuel (c.add 0) outer)

/-- The depth of a class, read behind its bracket, and what follows it. -/
def Flags.class? (f : Flags) (s : List Char) : Option (Nat × List Char) := do
  let inside ← f.openClass? s
  f.readClass? (inside.length + 1) {} [] inside

/-! ## Groups -/

/-- A group that has been opened, or the pattern as a whole. -/
structure Group where
  flags : Flags
  /-- The depths of the alternatives before the current one. -/
  alternatives : List Nat := []
  /-- The depths of the parts of the current alternative, from the last. A change of flags is a part
  without depth, which cannot be repeated. -/
  parts : List (Option Nat) := []
  deriving DecidableEq, Repr

namespace Group

/-- The group with one more part. -/
def add (g : Group) (part : Option Nat) : Group := { g with parts := part :: g.parts }

/-- The depth of the current alternative. -/
def currentDepth (g : Group) : Nat := depthOf (g.parts.map (·.getD 0))

/-- The depth of what stands in the group. -/
def depth (g : Group) : Nat := depthOf (g.currentDepth :: g.alternatives)

/-- The group at the beginning of its next alternative. -/
def alternate (g : Group) : Group :=
  { g with alternatives := g.currentDepth :: g.alternatives, parts := [] }

/-- The group after its last part has been made a repetition. -/
def repeatLast? (g : Group) : Option Group :=
  match g.parts with
  | some depth :: parts => some { g with parts := some (depth + 1) :: parts }
  | _ => none

end Group

/-- Whether the name of a group may begin with a character. -/
def isNameStart (c : Char) : Bool := c == '_' || Text.isAlphabetic c

/-- Whether a character may stand in the name of a group. -/
def isNamePart (c : Char) : Bool := ['_', '.', '[', ']'].contains c || Text.isAlphanumeric c

/-- The name of a group, closed by a greater sign, and what follows. -/
def name? (s : List Char) : Option (List Char × List Char) :=
  match s.takeWhile (· != '>'), s.dropWhile (· != '>') with
  | first :: others, _ :: rest =>
    if isNameStart first && others.all isNamePart then some (first :: others, rest) else none
  | _, _ => none

/-- What a parenthesis opens. -/
inductive Opening
  /-- A group with its flags, and with its name if it has one. -/
  | group (flags : Flags) (name : Option (List Char))
  /-- A change of flags up to the end of the group around it. -/
  | change (flags : Flags)
  deriving DecidableEq, Repr

/-- What a parenthesis opens, read behind it, and what follows. -/
def Flags.opening? (f : Flags) (s : List Char) : Option (Opening × List Char) :=
  match f.skip s with
  | '?' :: 'P' :: '<' :: rest | '?' :: '<' :: rest =>
    (name? rest).map fun (name, rest) => (.group f (some name), rest)
  | '?' :: rest =>
    let inChange (c : Char) : Bool := c != ':' && c != ')'
    let change := rest.takeWhile inChange
    match rest.dropWhile inChange with
    | ':' :: rest => (f.change? change).map fun flags => (.group flags none, rest)
    | ')' :: rest =>
      if change.isEmpty then none else (f.change? change).map fun flags => (.change flags, rest)
    | _ => none
  | rest => some (.group f none, rest)

/-! ## Patterns -/

/-- How far a pattern has been read: the group at hand, the groups around it from the innermost, and
the names of groups so far. -/
structure Reading where
  current : Group
  outer : List Group := []
  names : List (List Char) := []
  deriving DecidableEq, Repr

namespace Reading

/-- The reading after one more part of the group at hand. -/
def add (r : Reading) (part : Option Nat) : Reading := { r with current := r.current.add part }

/-- The reading behind what a parenthesis opens. No two groups have the same name. -/
def enter? (r : Reading) : Opening → Option Reading
  | .change flags => some { r with current := { r.current.add none with flags } }
  | .group flags none => some { r with current := { flags }, outer := r.current :: r.outer }
  | .group flags (some name) =>
    if r.names.contains name then none
    else some ⟨{ flags }, r.current :: r.outer, name :: r.names⟩

/-- The reading behind a closing parenthesis. -/
def leave? (r : Reading) : Option Reading :=
  match r.outer with
  | [] => none
  | parent :: outer => some { r with current := parent.add (some (r.current.depth + 1)), outer }

/-- The reading behind what begins with a character, and what follows. -/
def advance? (r : Reading) (c : Char) (rest : List Char) : Option (Reading × List Char) :=
  let flags := r.current.flags
  match c with
  | '(' => do
    let (opening, rest) ← flags.opening? rest
    return (← r.enter? opening, rest)
  | ')' => do return (← r.leave?, rest)
  | '|' => some ({ r with current := r.current.alternate }, rest)
  | '*' | '+' | '?' => do
    let current ← r.current.repeatLast?
    return ({ r with current }, if rest.head? = some '?' then rest.drop 1 else rest)
  | '{' => none
  | '[' => do
    let (depth, rest) ← flags.class? rest
    return (r.add (some depth), rest)
  | '.' => if flags.unicode then some (r.add (some 0), rest) else none
  | '^' | '$' => some (r.add (some 0), rest)
  | c => do
    let (atom, rest) ← flags.atom? (c :: rest)
    if flags.admits atom then return (r.add (some 0), rest) else none

/-- The depth of a pattern, of which the given text is still to be read. -/
def finish? : Nat → Reading → List Char → Option Nat
  | 0, _, _ => none
  | fuel + 1, r, s =>
    match r.current.flags.skip s with
    | [] => if r.outer.isEmpty then some r.current.depth else none
    | c :: rest => do
      let (r, rest) ← r.advance? c rest
      finish? fuel r rest

end Reading

/-- The depth of the pattern in a text. -/
def depth? (s : List Char) : Option Nat :=
  Reading.finish? (s.length + 1) ⟨{ flags := {} }, [], []⟩ s

end Pattern

/-- Whether a text is a pattern. -/
def isPattern (s : List Char) : Bool :=
  match Pattern.depth? s with
  | some depth => depth ≤ Pattern.greatestDepth
  | none => false

example : isPattern "a.*b|[^x-z&&\\n]+?".toList = true := by decide +kernel
example : isPattern "(?-u:\\d)(?P<n>x)".toList = true := by decide +kernel
example : isPattern "\\d".toList = false := by decide +kernel
example : isPattern "(?i)x".toList = false := by decide +kernel
example : isPattern "[b-a]".toList = false := by decide +kernel

end Ls8.Log
