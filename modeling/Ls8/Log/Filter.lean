import Ls8.Log.Pattern
import Ls8.Log.Record
import Ls8.Text.Lines
import Ls8.Text.Numeral
import Ls8.Text.Utf8

/-! # Log filters

A filter is a list of directives between commas. A directive is a threshold alone, a target alone,
or a target with a threshold behind an equals sign; a target may be followed by a scope in brackets.
Of the directives that concern a record the most specific decides, and of two equally specific ones
the later. A record that no directive concerns is not logged. -/

namespace Ls8.Log

/-- The least important level that is logged, if any is. -/
abbrev Threshold := Option Level

/-- Whether a threshold admits a level. -/
def Threshold.admits (threshold : Threshold) (level : Level) : Bool :=
  match threshold with
  | some least => level.rank ≤ least.rank
  | none => false

/-- The names of the thresholds in lower case, in the order of their numbers from 0. -/
def Threshold.names : List (String × Threshold) :=
  [("off", none), ("error", some .error), ("warn", some .warn), ("info", some .info),
    ("debug", some .debug), ("trace", some .trace)]

/-- The threshold that a text names, by its number or by its name in either case. -/
def Threshold.ofText? (s : List Char) : Option Threshold :=
  match Text.readBelow? 6 s with
  | some number => names[number]?.map Prod.snd
  | none => names.lookup (String.ofList (s.map Char.toLower))

/-- Which records of its target a directive concerns. -/
inductive Scope
  /-- Every record. -/
  | all
  /-- The records with a field of a name. -/
  | field (name : String)
  /-- The records inside a span or with a field of a given value, of which there are none. -/
  | span
  deriving DecidableEq, Repr

/-- One rule of a filter; an empty target stands for all. -/
structure Directive where
  target : String
  scope : Scope
  threshold : Threshold
  deriving DecidableEq, Repr

/-- Why a text is no directive. -/
inductive Fault
  | malformed
  /-- A part of the text would begin or end inside a character. -/
  | cutCharacter
  deriving DecidableEq, Repr

/-! ## Values -/

/-- Whether a text is the exponent of a number, or nothing. -/
def isExponent : List Char → Bool
  | [] => true
  | mark :: rest =>
    let digits := if ['+', '-'].contains (rest.headD ' ') then rest.drop 1 else rest
    ['e', 'E'].contains mark && !digits.isEmpty && digits.all Char.isDigit

/-- Whether a text is a number without a sign: digits, with or without a point among them and an
exponent behind them. -/
def isUnsignedNumber (s : List Char) : Bool :=
  let rest := s.dropWhile Char.isDigit
  let hasPoint := rest.head? == some '.'
  let decimals := if hasPoint then (rest.drop 1).takeWhile Char.isDigit else []
  let rest := if hasPoint then (rest.drop 1).dropWhile Char.isDigit else rest
  !(s.takeWhile Char.isDigit ++ decimals).isEmpty && isExponent rest

/-- Whether a text is a number. What is infinite, or not a number at all, has a name. -/
def isNumber (s : List Char) : Bool :=
  let unsigned := if ['+', '-'].contains (s.headD ' ') then s.drop 1 else s
  ["inf", "infinity", "nan"].contains (String.ofList (unsigned.map Char.toLower)) ||
    isUnsignedNumber unsigned

/-- Whether a field can be compared with what a text writes, a number or a pattern. -/
def isValue (s : List Char) : Bool := isNumber s || isPattern s

/-! ## The form of a directive -/

/-- The parts of a directive: what stands in front, the scope in brackets, and what follows an
equals sign. -/
structure Form where
  head : List Char
  scope : Option Scope
  level : Option (List Char)
  deriving DecidableEq, Repr

/-- Whether a directive may begin with a character, unless it begins with its brackets. -/
def isTargetStart (c : Char) : Bool := ['-', ':', '_'].contains c || Text.isAlphanumeric c

/-- The number of bytes in a text. -/
def size (s : List Char) : Nat := (String.ofList s).utf8ByteSize

/-- The part of a text behind a number of bytes. -/
def partFrom (whole : List Char) (start : Nat) : Except Fault (List Char) :=
  match Text.Utf8.decode? ((Text.Utf8.encode (String.ofList whole)).drop start) with
  | some part => .ok part
  | none => .error .cutCharacter

/-- The part of a text behind a number of bytes that has as many bytes as a given text. -/
def partLike (whole : List Char) (start : Nat) (given : List Char) : Except Fault (List Char) := do
  let bytes := Text.Utf8.encode (String.ofList (← partFrom whole start))
  match Text.Utf8.decode? (bytes.take (size given)) with
  | some part => return part
  | none => throw .cutCharacter

/-- The scope of a span and a field in braces. A field is a name, with a value if an equals sign
follows; a further equals sign ends the value, and what stands behind it says nothing. -/
def fieldScope (span field : List Char) : Except Fault Scope :=
  match Text.pieces (· == '=') field with
  | _ :: value :: _ => if isValue value then .ok .span else .error .malformed
  | _ =>
    if field.isEmpty then .error .malformed
    else .ok (if span.isEmpty then .field (String.ofList field) else .span)

namespace Form

/-! The reading of a form follows a text without the blanks around it, but takes its parts, byte by
byte, from the same places of the text with them. -/

/-- The form that ends behind a head and a scope, with or without a level. -/
def close (whole head : List Char) (scope : Option Scope) (start : Nat) :
    List Char → Except Fault Form
  | [] => return ⟨head, scope, none⟩
  | '=' :: _ => return ⟨head, scope, some (← partFrom whole (start + 1))⟩
  | _ => throw .malformed

/-- The form of a text whose braces have been opened behind a head and a span. -/
def inBraces (whole head span : List Char) (start : Nat) (inside : List Char) :
    Except Fault Form := do
  let field := inside.takeWhile (· != '\x7d')
  match inside.dropWhile (· != '\x7d') with
  | [] => throw .malformed
  | _ :: behind =>
    let scope ← fieldScope span (← partLike whole start field)
    match behind with
    | ']' :: rest => close whole head (some scope) (start + size field + 2) rest
    | _ => throw .malformed

/-- The form of a text whose brackets have been opened behind a head. -/
def inBrackets (whole head : List Char) (start : Nat) (inside : List Char) : Except Fault Form := do
  let inSpan (c : Char) : Bool := c != ']' && c != '\x7b'
  let span := inside.takeWhile inSpan
  match inside.dropWhile inSpan with
  | [] => throw .malformed
  | bracket :: rest =>
    let name ← partLike whole start span
    let start := start + size span + 1
    if bracket = ']' then close whole head (some .span) start rest
    else inBraces whole head name start rest

/-- The form of a text. -/
def ofText (whole : List Char) : Except Fault Form := do
  let inHead (c : Char) : Bool := c != '=' && c != '['
  let text := Text.trim whole
  let head := text.takeWhile inHead
  match head.head?.map isTargetStart, text.dropWhile inHead with
  | some true, [] => return ⟨whole, none, none⟩
  | none, '[' :: inside => inBrackets whole [] 1 inside
  | some true, '[' :: inside => inBrackets whole (← partLike whole 0 head) (size head + 1) inside
  | some true, rest => close whole (← partLike whole 0 head) none (size head) rest
  | _, _ => throw .malformed

end Form

/-- The threshold behind an equals sign; nothing there admits everything. -/
def Threshold.ofLevel? (level : List Char) : Option Threshold :=
  if level.isEmpty then some (some .trace) else Threshold.ofText? level

namespace Directive

/-- The directive of a form. A text by itself is a threshold if it can be one, and otherwise a
target that admits everything. -/
def ofForm? : Form → Option Directive
  | ⟨head, none, none⟩ =>
    match Threshold.ofText? head with
    | some threshold => some ⟨"", .all, threshold⟩
    | none => some ⟨String.ofList head, .all, some .trace⟩
  | ⟨head, scope, level⟩ =>
    (Threshold.ofLevel? (level.getD [])).map fun threshold =>
      ⟨String.ofList head, scope.getD .all, threshold⟩

/-- The directive in a text. -/
def ofText (s : List Char) : Except Fault Directive := do
  match ofForm? (← Form.ofText s) with
  | some directive => return directive
  | none => throw .malformed

end Directive

/-! ## Filters -/

/-- A list of directives. -/
abbrev Filter := List Directive

/-- Whether a directive concerns a record. -/
def Directive.concerns (d : Directive) (r : Record) : Bool :=
  d.target.toList.isPrefixOf r.target.toList &&
    match d.scope with
    | .all => true
    | .field name => name == "message" || (r.fields.map Prod.fst).contains name
    | .span => false

/-- The name of the field that a directive asks for. -/
def Directive.fieldName (d : Directive) : String :=
  match d.scope with
  | .field name => name
  | _ => ""

/-- Whether one directive is more specific than another: by a longer target, then by the name of a
field. -/
def Directive.outranks (d e : Directive) : Bool :=
  e.target.length < d.target.length ||
    (e.target.length == d.target.length && e.fieldName < d.fieldName)

namespace Filter

/-- The directives in a text. The first that is none decides. -/
def ofText (s : List Char) : Except Fault Filter :=
  (Text.fields (· == ',') s).mapM Directive.ofText

/-- Of a directive that has decided so far and another one, the one that decides. -/
def prefer (best : Option Directive) (d : Directive) : Option Directive :=
  match best with
  | some b => if b.outranks d then some b else some d
  | none => some d

/-- The directive that decides about a record. -/
def deciding? (f : Filter) (r : Record) : Option Directive :=
  (f.filter (·.concerns r)).foldl prefer none

/-- Whether a record is logged. Its level is looked at first: if no directive admits it, it does not
matter which of them decides. -/
def admits (f : Filter) (r : Record) : Bool :=
  f.any (·.threshold.admits r.level) &&
    match f.deciding? r with
    | some d => d.threshold.admits r.level
    | none => false

theorem mem_of_foldl_prefer {d : Directive} {ds : List Directive} {best : Option Directive}
    (h : ds.foldl prefer best = some d) : best = some d ∨ d ∈ ds := by
  induction ds generalizing best with
  | nil => exact .inl h
  | cons e rest ih =>
    rcases ih h with h | h
    · cases best with
      | none => exact .inr (by simp_all [prefer])
      | some b =>
        rw [prefer] at h
        split at h
        · exact .inl h
        · exact .inr (by simp_all)
    · exact .inr (List.mem_cons_of_mem e h)

/-- The directive that decides is one of the filter, and concerns the record. -/
theorem mem_of_deciding? {f : Filter} {r : Record} {d : Directive} (h : f.deciding? r = some d) :
    d ∈ f ∧ d.concerns r = true := by
  rcases mem_of_foldl_prefer h with h | h
  · simp at h
  · exact List.mem_filter.1 h

/-- The directive that decides says alone whether a record is logged. -/
theorem admits_eq (f : Filter) (r : Record) :
    f.admits r = (f.deciding? r).any (·.threshold.admits r.level) := by
  cases h : f.deciding? r with
  | none => simp [admits, h]
  | some d =>
    simp only [admits, h, Option.any_some, Bool.and_eq_right_iff_imp]
    exact fun hd => List.any_eq_true.2 ⟨d, (mem_of_deciding? h).1, hd⟩

/-- The filter that logs nothing. -/
def silent : Filter := []

/-- The filter that logs warnings and errors. -/
def warnings : Filter := [⟨"", .all, some .warn⟩]

/-- The filter that logs all that concerns the machine, and warnings and errors besides. -/
def detailed : Filter := [⟨"", .all, some .warn⟩, ⟨"ls8", .all, some .trace⟩]

/-- The filter that a setting asks for: warnings and errors if there is none, or if it is malformed.
There is no filter if a character would be cut. -/
def ofSetting? (setting : Option String) : Option Filter :=
  match setting.map fun text => ofText text.toList with
  | none | some (.error .malformed) => some warnings
  | some (.error .cutCharacter) => none
  | some (.ok filter) => some filter

end Filter

end Ls8.Log
