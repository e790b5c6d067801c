import Mathlib.Data.List.DropRight
import Ls8.Proofs.Json.Tokens

/-! # Values read back

A value that is written, compactly or indented, is read back as it was, if all its numbers are
integers that fit a word. Both forms are put together from texts in the same few ways, with white
space between the tokens or without. What such a text means is said by `Reads`, `ItemsRead` and
`MembersRead`: where a text of this kind stands, and the right thing follows it, the reader finds the
value and leaves what follows. Two units of fuel for every character of the text are enough for it. -/

namespace Ls8.Json

-- Most proofs here unfold the reader, so its equations are made once, in front of all of them.
attribute [local simp] value items members

/-! ## White space -/

theorem skipSpace_skipSpace (s : List Char) : skipSpace (skipSpace s) = skipSpace s :=
  List.dropWhile_idempotent isSpace s

theorem skipSpace_nil : skipSpace [] = [] := rfl

theorem skipSpace_append {gap : List Char} (blank : skipSpace gap = []) (s : List Char) :
    skipSpace (gap ++ s) = skipSpace s :=
  List.dropWhile_append_of_pos (List.dropWhile_eq_nil_iff.mp blank)

theorem skipSpace_cons {c : Char} (token : isSpace c = false) (s : List Char) :
    skipSpace (c :: s) = c :: s := by
  rw [skipSpace, List.dropWhile_cons, token]
  rfl

theorem value_skipSpace (fuel : Nat) (s : List Char) : value fuel (skipSpace s) = value fuel s := by
  cases fuel with
  | zero => simp only [value]
  | succ fuel => simp only [value, skipSpace_skipSpace]

theorem items_skipSpace (fuel : Nat) (s : List Char) : items fuel (skipSpace s) = items fuel s := by
  cases fuel with
  | zero => simp only [items]
  | succ fuel => simp only [items, value_skipSpace]

theorem members_skipSpace (fuel : Nat) (s : List Char) :
    members fuel (skipSpace s) = members fuel s := by
  cases fuel with
  | zero => simp only [members]
  | succ fuel => simp only [members, skipSpace_skipSpace]

/-- A token that no number goes on with may have white space in front. -/
theorem ends_of_skipSpace {s token : List Char} (same : skipSpace s = token) (ends : Ends token) :
    Ends s := by
  cases s with
  | nil => exact .nil
  | cons c s =>
    by_cases space : isSpace c
    · simp only [isSpace, Bool.or_eq_true, beq_iff_eq] at space
      rcases space with ((rfl | rfl) | rfl) | rfl
      all_goals exact ends_cons (by decide) (by decide)
    · rw [skipSpace_cons (Bool.eq_false_iff.mpr space)] at same
      rwa [same]

/-! ## What the reader does with each kind of value -/

theorem items_closing (fuel : Nat) (s : List Char) : items fuel (']' :: s) = none := by
  have closing : ∀ fuel, value fuel (']' :: s) = none := by
    intro fuel
    cases fuel with
    | zero => simp only [value]
    | succ fuel => simp [value, skipSpace, isSpace, numeral, digits]
  cases fuel with
  | zero => simp only [items]
  | succ fuel => simp [items, closing]

theorem members_closing (fuel : Nat) (s : List Char) : members fuel ('\x7d' :: s) = none := by
  cases fuel with
  | zero => simp only [members]
  | succ fuel => simp [members, skipSpace, isSpace]

theorem value_array {fuel : Nat} {s rest : List Char} {found : List Value}
    (read : items fuel s = some (found, rest)) :
    value (fuel + 1) ('[' :: s) = some (.array found, rest) := by
  rw [← items_skipSpace] at read
  unfold value
  rw [skipSpace_cons (by decide)]
  simp only
  split
  -- The array is not empty: where a bracket closes at once no items are read.
  · next same =>
    rw [same, items_closing] at read
    contradiction
  · rw [read]
    rfl

theorem value_object {fuel : Nat} {s rest : List Char} {found : List (String × Value)}
    (read : members fuel s = some (some found, rest)) :
    value (fuel + 1) ('\x7b' :: s) = some (.object found, rest) := by
  rw [← members_skipSpace] at read
  unfold value
  rw [skipSpace_cons (by decide)]
  simp only
  split
  · next same =>
    rw [same, members_closing] at read
    contradiction
  · rw [read]
    rfl

theorem toList_stringText_append (s : String) (rest : List Char) :
    (stringText s).toList ++ rest = '"' :: (s.toList.flatMap escapeChar ++ '"' :: rest) := by
  rw [stringText, String.toList_ofList, List.append_assoc]
  rfl

theorem value_string (fuel : Nat) (s : String) (rest : List Char) :
    value (fuel + 1) ((stringText s).toList ++ rest) = some (.string s, rest) := by
  rw [toList_stringText_append]
  unfold value
  rw [skipSpace_cons (by decide)]
  simp only [stringBody_text]
  rfl

/-- A number begins with a minus or a digit. -/
theorem exists_start_of_numeral {s rest : List Char} {found : Numeral}
    (read : numeral s = some (found, rest)) : ∃ c t, s = c :: t ∧ (c = '-' ∨ c.isDigit) := by
  cases s with
  | nil => simp [numeral, digits] at read
  | cons c t =>
    refine ⟨c, t, rfl, ?_⟩
    by_contra other
    obtain ⟨sign, digit⟩ := not_or.mp other
    simp [numeral, digits, sign, digit] at read

theorem value_numeral {fuel : Nat} {s rest : List Char} {found : Numeral} {n : Number}
    (read : numeral s = some (found, rest)) (denotes : found.number? = some n) :
    value (fuel + 1) s = some (.number n, rest) := by
  obtain ⟨c, t, rfl, start⟩ := exists_start_of_numeral read
  have other : c ∉ [' ', '\n', '\r', '\t', 'n', 't', 'f', '"', '[', '\x7b'] := by
    rcases start with rfl | digit
    · decide
    · rintro member
      have table : [' ', '\n', '\r', '\t', 'n', 't', 'f', '"', '[', '\x7b'].all
          (fun c => !c.isDigit) := by decide
      simpa [digit] using List.all_eq_true.mp table c member
  have token : isSpace c = false := by
    simp only [List.mem_cons, not_or] at other
    simp [isSpace, other]
  unfold value
  rw [skipSpace_cons token]
  split
  case h_7 =>
    rw [read]
    simp [denotes]
  all_goals
    next same => exact absurd (by simp [List.head_eq_of_cons_eq same]) other

theorem items_single {fuel : Nat} {s close rest : List Char} {v : Value}
    (read : value fuel s = some (v, close)) (closes : skipSpace close = ']' :: rest) :
    items (fuel + 1) s = some ([v], rest) := by
  simp only [items, read, Option.bind_eq_bind, Option.bind_some, closes]
  rfl

theorem items_cons {fuel : Nat} {s next rest : List Char} {v : Value} {others : List Value}
    (read : value fuel s = some (v, ',' :: next)) (further : items fuel next = some (others, rest)) :
    items (fuel + 1) s = some (v :: others, rest) := by
  simp only [items, read, Option.bind_eq_bind, Option.bind_some, skipSpace_cons (c := ',') rfl,
    further]
  rfl

theorem members_single {fuel : Nat} (name : String) {s close rest : List Char} {v : Value}
    (read : value fuel s = some (v, close)) (closes : skipSpace close = '\x7d' :: rest) :
    members (fuel + 1) ((stringText name).toList ++ ':' :: s) = some (some [(name, v)], rest) := by
  rw [toList_stringText_append]
  simp only [members, skipSpace_cons (c := '"') rfl, stringBody_text, Option.bind_eq_bind,
    Option.bind_some, skipSpace_cons (c := ':') rfl, read, closes]
  rfl

theorem members_cons {fuel : Nat} (name : String) {s next rest : List Char} {v : Value}
    {others : List (String × Value)} (read : value fuel s = some (v, ',' :: next))
    (further : members fuel next = some (some others, rest)) :
    members (fuel + 1) ((stringText name).toList ++ ':' :: s) =
      some (some ((name, v) :: others), rest) := by
  rw [toList_stringText_append]
  simp only [members, skipSpace_cons (c := '"') rfl, stringBody_text, Option.bind_eq_bind,
    Option.bind_some, skipSpace_cons (c := ':') rfl, read, skipSpace_cons (c := ',') rfl, further]
  rfl

/-! ## Texts that are read back -/

/-- Where the text stands and no number goes on after it, the reader finds the value. -/
def Reads (v : Value) (s : List Char) : Prop :=
  ∀ fuel rest, 2 * s.length ≤ fuel → Ends rest → value fuel (s ++ rest) = some (v, rest)

/-- Where the text stands and a bracket closes after it, the reader finds the items. -/
def ItemsRead (found : List Value) (s : List Char) : Prop :=
  ∀ fuel close rest, 2 * s.length < fuel → skipSpace close = ']' :: rest →
    items fuel (s ++ close) = some (found, rest)

/-- Where the text stands and a brace closes after it, the reader finds the members. -/
def MembersRead (found : List (String × Value)) (s : List Char) : Prop :=
  ∀ fuel close rest, 2 * s.length < fuel → skipSpace close = '\x7d' :: rest →
    members fuel (s ++ close) = some (some found, rest)

namespace Reads

variable {v : Value} {s gap : List Char}

theorem of_succ (written : s ≠ [])
    (read : ∀ fuel rest, Ends rest → value (fuel + 1) (s ++ rest) = some (v, rest)) :
    Reads v s := by
  intro fuel rest enough ends
  have length := List.length_pos_iff.mpr written
  cases fuel with
  | zero => omega
  | succ fuel => exact read fuel rest ends

theorem null : Reads .null "null".toList := by
  refine of_succ (by simp) fun fuel rest _ => ?_
  simp [value, skipSpace, isSpace]

theorem bool (b : Bool) : Reads (.bool b) (Value.bool b).compact.toList := by
  cases b <;>
  · refine of_succ (by simp [Value.compact]) fun fuel rest _ => ?_
    simp [Value.compact, value, skipSpace, isSpace]

theorem integer {n : Int} (kept : (Number.integer n).IsExact) :
    Reads (.number (.integer n)) (Text.integer n).toList := by
  have written : (Text.integer n).toList ≠ [] := by
    rw [Text.integer]
    split <;> simp [Nat.toDigits_ne_nil]
  refine of_succ written fun fuel rest ends => ?_
  obtain ⟨found, read, denotes⟩ := numeral_integer kept ends
  exact value_numeral read denotes

theorem string (text : String) : Reads (.string text) (stringText text).toList :=
  of_succ (by simp [stringText]) fun fuel rest _ => value_string fuel text rest

/-- White space in front of a value. -/
theorem after (read : Reads v s) (blank : skipSpace gap = []) : Reads v (gap ++ s) := by
  intro fuel rest enough ends
  rw [List.length_append] at enough
  rw [List.append_assoc, ← value_skipSpace, skipSpace_append blank, value_skipSpace]
  exact read fuel rest (by omega) ends

theorem emptyArray : Reads (.array []) ['[', ']'] := by
  refine of_succ (by simp) fun fuel rest _ => ?_
  simp [value, skipSpace, isSpace]

theorem emptyObject : Reads (.object []) ['\x7b', '\x7d'] := by
  refine of_succ (by simp) fun fuel rest _ => ?_
  simp [value, skipSpace, isSpace]

theorem array {found : List Value} (read : ItemsRead found s) (blank : skipSpace gap = []) :
    Reads (.array found) ('[' :: (s ++ (gap ++ [']']))) := by
  intro fuel rest enough ends
  simp only [List.length_cons, List.length_append] at enough
  cases fuel with
  | zero => omega
  | succ fuel =>
    simp only [List.cons_append, List.append_assoc, List.nil_append]
    apply value_array
    exact read fuel _ rest (by omega) (by rw [skipSpace_append blank, skipSpace_cons rfl])

theorem object {found : List (String × Value)} (read : MembersRead found s)
    (blank : skipSpace gap = []) :
    Reads (.object found) ('\x7b' :: (s ++ (gap ++ ['\x7d']))) := by
  intro fuel rest enough ends
  simp only [List.length_cons, List.length_append] at enough
  cases fuel with
  | zero => omega
  | succ fuel =>
    simp only [List.cons_append, List.append_assoc, List.nil_append]
    apply value_object
    exact read fuel _ rest (by omega) (by rw [skipSpace_append blank, skipSpace_cons rfl])

end Reads

namespace ItemsRead

variable {v : Value} {others : List Value} {s t : List Char}

theorem single (read : Reads v s) : ItemsRead [v] s := by
  intro fuel close rest enough closes
  cases fuel with
  | zero => omega
  | succ fuel =>
    have ends := ends_of_skipSpace closes (ends_cons (by decide) (by decide))
    exact items_single (read fuel close (by omega) ends) closes

theorem cons (read : Reads v s) (further : ItemsRead others t) :
    ItemsRead (v :: others) (s ++ ',' :: t) := by
  intro fuel close rest enough closes
  simp only [List.length_append, List.length_cons] at enough
  cases fuel with
  | zero => omega
  | succ fuel =>
    rw [List.append_assoc, List.cons_append]
    have first := read fuel (',' :: (t ++ close)) (by omega) (ends_cons (by decide) (by decide))
    exact items_cons first (further fuel close rest (by omega) closes)

end ItemsRead

namespace MembersRead

variable {v : Value} {others : List (String × Value)} {s t gap : List Char}

theorem single (name : String) (read : Reads v s) :
    MembersRead [(name, v)] ((stringText name).toList ++ ':' :: s) := by
  intro fuel close rest enough closes
  simp only [List.length_append, List.length_cons] at enough
  cases fuel with
  | zero => omega
  | succ fuel =>
    rw [List.append_assoc, List.cons_append]
    have ends := ends_of_skipSpace closes (ends_cons (by decide) (by decide))
    exact members_single name (read fuel close (by omega) ends) closes

theorem cons (name : String) (read : Reads v s) (further : MembersRead others t) :
    MembersRead ((name, v) :: others) ((stringText name).toList ++ ':' :: (s ++ ',' :: t)) := by
  intro fuel close rest enough closes
  simp only [List.length_append, List.length_cons] at enough
  cases fuel with
  | zero => omega
  | succ fuel =>
    rw [List.append_assoc, List.cons_append, List.append_assoc, List.cons_append]
    have first := read fuel (',' :: (t ++ close)) (by omega) (ends_cons (by decide) (by decide))
    exact members_cons name first (further fuel close rest (by omega) closes)

/-- White space in front of members. -/
theorem after (read : MembersRead others s) (blank : skipSpace gap = []) :
    MembersRead others (gap ++ s) := by
  intro fuel close rest enough closes
  rw [List.length_append] at enough
  rw [List.append_assoc, ← members_skipSpace, skipSpace_append blank, members_skipSpace]
  exact read fuel close rest (by omega) closes

end MembersRead

/-- A text that stands alone for a value is a document with that value. -/
theorem Reads.parse? {v : Value} {text : String} (read : Reads v text.toList) :
    parse? text = some v := by
  have found := read (2 * text.toList.length + 2) [] (by omega) .nil
  rw [List.append_nil] at found
  simp only [Json.parse?, found, Option.bind_eq_bind, Option.bind_some, skipSpace_nil]
  rfl

/-! ## Written values -/

mutual

/-- No part of a value is a double or denotes nothing. -/
def Value.IsExact : Value → Prop
  | .number n => n.IsExact
  | .array items => ItemsExact items
  | .object members => MembersExact members
  | .unrepresentable => False
  | _ => True

/-- All items of an array are exact. -/
def ItemsExact : List Value → Prop
  | [] => True
  | item :: rest => item.IsExact ∧ ItemsExact rest

/-- The values of all members of an object are exact. -/
def MembersExact : List (String × Value) → Prop
  | [] => True
  | (_, value) :: rest => value.IsExact ∧ MembersExact rest

end

mutual

theorem reads_compact : ∀ v : Value, v.IsExact → Reads v v.compact.toList
  | .null, _ => .null
  | .bool b, _ => .bool b
  | .number (.integer _), kept => .integer kept
  | .string s, _ => .string s
  | .array [], _ => .emptyArray
  | .array (item :: rest), kept => by
    rw [Value.compact, String.toList_append, String.toList_append]
    exact .array (itemsRead_compact (item :: rest) kept (List.cons_ne_nil _ _)) skipSpace_nil
  | .object [], _ => .emptyObject
  | .object (member :: rest), kept => by
    rw [Value.compact, String.toList_append, String.toList_append]
    exact .object (membersRead_compact (member :: rest) kept (List.cons_ne_nil _ _)) skipSpace_nil

theorem itemsRead_compact : ∀ found : List Value, ItemsExact found → found ≠ [] →
    ItemsRead found (compactItems found).toList
  | [], _, filled => absurd rfl filled
  | [item], kept, _ => .single (reads_compact item kept.1)
  | item :: next :: rest, kept, _ => by
    rw [compactItems, String.toList_append, String.toList_append, List.append_assoc]
    · exact .cons (reads_compact item kept.1)
        (itemsRead_compact (next :: rest) kept.2 (List.cons_ne_nil _ _))
    · exact List.cons_ne_nil next rest

theorem membersRead_compact : ∀ found : List (String × Value), MembersExact found → found ≠ [] →
    MembersRead found (compactMembers found).toList
  | [], _, filled => absurd rfl filled
  | [(name, v)], kept, _ => by
    rw [compactMembers, String.toList_append, String.toList_append, List.append_assoc]
    exact .single name (reads_compact v kept.1)
  | (name, v) :: next :: rest, kept, _ => by
    rw [compactMembers]
    · simp only [String.toList_append, List.append_assoc]
      exact .cons name (reads_compact v kept.1)
        (membersRead_compact (next :: rest) kept.2 (List.cons_ne_nil _ _))
    · exact List.cons_ne_nil next rest

end

/-- A value that has been written compactly is read back. -/
theorem parse?_compact {v : Value} (kept : v.IsExact) : parse? v.compact = some v :=
  (reads_compact v kept).parse?

theorem blank_indentation (level : Nat) : skipSpace (indentation level).toList = [] := by
  rw [indentation, String.toList_append, String.toList_ofList]
  exact List.dropWhile_eq_nil_iff.mpr (by simp [isSpace])

mutual

theorem reads_indentedAt : ∀ (level : Nat) (v : Value), v.IsExact →
    Reads v (v.indentedAt level).toList
  | _, .null, _ => .null
  | _, .bool b, _ => .bool b
  | _, .number (.integer _), kept => .integer kept
  | _, .string s, _ => .string s
  | level, .array [], _ => by
    have closed : (Value.array []).indentedAt level = (Value.array []).compact := by
      simp [Value.indentedAt]
    rw [closed]
    exact .emptyArray
  | level, .array (item :: rest), kept => by
    rw [Value.indentedAt]
    simp only [String.toList_append, List.append_assoc]
    exact .array (itemsRead_indented (level + 1) (item :: rest) kept (List.cons_ne_nil _ _))
      (blank_indentation level)
  | level, .object [], _ => by
    have closed : (Value.object []).indentedAt level = (Value.object []).compact := by
      simp [Value.indentedAt]
    rw [closed]
    exact .emptyObject
  | level, .object (member :: rest), kept => by
    rw [Value.indentedAt]
    simp only [String.toList_append, List.append_assoc]
    exact .object (membersRead_indented (level + 1) (member :: rest) kept (List.cons_ne_nil _ _))
      (blank_indentation level)

theorem itemsRead_indented : ∀ (level : Nat) (found : List Value), ItemsExact found → found ≠ [] →
    ItemsRead found (indentedItems level found).toList
  | _, [], _, filled => absurd rfl filled
  | level, [item], kept, _ => by
    rw [indentedItems, String.toList_append]
    exact .single ((reads_indentedAt level item kept.1).after (blank_indentation level))
  | level, item :: next :: rest, kept, _ => by
    rw [indentedItems]
    · rw [String.toList_append, String.toList_append, String.toList_append, List.append_assoc]
      exact .cons ((reads_indentedAt level item kept.1).after (blank_indentation level))
        (itemsRead_indented level (next :: rest) kept.2 (List.cons_ne_nil _ _))
    · exact List.cons_ne_nil next rest

theorem membersRead_indented : ∀ (level : Nat) (found : List (String × Value)),
    MembersExact found → found ≠ [] → MembersRead found (indentedMembers level found).toList
  | _, [], _, filled => absurd rfl filled
  | level, [(name, v)], kept, _ => by
    rw [indentedMembers]
    simp only [String.toList_append, List.append_assoc]
    have spaced := (reads_indentedAt level v kept.1).after (by decide : skipSpace [' '] = [])
    exact (MembersRead.single name spaced).after (blank_indentation level)
  | level, (name, v) :: next :: rest, kept, _ => by
    rw [indentedMembers]
    · simp only [String.toList_append, List.append_assoc]
      have spaced := (reads_indentedAt level v kept.1).after (by decide : skipSpace [' '] = [])
      have further := membersRead_indented level (next :: rest) kept.2 (List.cons_ne_nil _ _)
      exact (MembersRead.cons name spaced further).after (blank_indentation level)
    · exact List.cons_ne_nil next rest

end

/-- A value that has been written with indentation is read back. -/
theorem parse?_indented {v : Value} (kept : v.IsExact) : parse? v.indented = some v :=
  (reads_indentedAt 0 v kept).parse?

end Ls8.Json
