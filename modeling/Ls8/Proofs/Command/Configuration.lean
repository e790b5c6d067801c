import Ls8.Proofs.Command.Setup
import Ls8.Proofs.Machine.Snapshot

/-! # Configurations read and overridden

An object gives a configuration exactly if it lists the fields of this configuration: every member is
one of them, none stands twice, and one that does not stand there has its default. The order of the
members does not matter, because every field is filled by itself: the members that are still to come
complete what has been read. A command that runs a program with such a file does what it would do
without the file if the command line asked for the mode, the budget and the trace that come of both. -/

namespace Ls8

open Json (Value Reader)

/-! ## Values of the fields -/

theorem map_eq_ok_iff {ε α β : Type} {f : α → β} {x : Except ε α} {b : β} :
    f <$> x = .ok b ↔ ∃ a, x = .ok a ∧ f a = b := by
  cases x <;> simp

namespace Json

variable {value : Value}

theorem eq_ofNat_of_natBelow {bound n : Nat} {expected : String}
    (read : natBelow bound expected value = .ok n) : value = .ofNat n ∧ n < bound := by
  unfold natBelow at read
  split at read
  · next found =>
    split at read
    · next fits =>
      cases read
      have same : (found.toNat : Int) = found := Int.toNat_of_nonneg fits.1
      rw [Value.ofNat, same]
      exact ⟨rfl, by omega⟩
    · contradiction
  · contradiction

theorem word_eq_ok_iff {w : UInt64} : word value = .ok w ↔ value = .ofNat w.toNat := by
  constructor
  · intro read
    obtain ⟨n, found, rfl⟩ := map_eq_ok_iff.mp read
    obtain ⟨rfl, small⟩ := eq_ofNat_of_natBelow found
    rw [UInt64.toNat_ofNat_of_lt' small]
  · rintro rfl
    exact word_ofNat w

/-- The value that gives a budget, or says that there is none. -/
def Value.ofBudget : Option UInt64 → Value
  | none => .null
  | some budget => .ofNat budget.toNat

theorem budget_eq_ok_iff {budget : Option UInt64} :
    nullable word value = .ok budget ↔ value = .ofBudget budget := by
  unfold nullable
  split
  · cases budget <;> simp [Value.ofBudget, Value.ofNat]
  · next other =>
    rw [map_eq_ok_iff]
    cases budget with
    | none => simpa [Value.ofBudget] using other
    | some budget => simp [Value.ofBudget, word_eq_ok_iff]

theorem bool_eq_ok_iff {b : Bool} : bool value = .ok b ↔ value = .bool b := by
  cases value <;> simp [bool]

theorem membersExact_of_forall {members : List (String × Value)}
    (each : ∀ member ∈ members, member.2.IsExact) : MembersExact members := by
  induction members with
  | nil => trivial
  | cons member rest ih =>
    obtain ⟨first, others⟩ := List.forall_mem_cons.mp each
    exact ⟨first, ih others⟩

theorem named_find_eq_ok {α : Type} {choices : List (String × α)} {name : String} {found : α}
    (read : named.find choices name = .ok found) : choices.lookup name = some found := by
  unfold named.find at read
  split at read
  · next found same =>
    cases read
    exact same
  · contradiction

end Json

theorem OverflowMode.name_of_lookup {name : String} {mode : OverflowMode}
    (known : names.lookup name = some mode) : name = mode.name := by
  obtain ⟨front, rest, same, -⟩ := List.lookup_eq_some_iff.mp known
  have listed : (name, mode) ∈ names := by simp [same]
  have table : ∀ row ∈ names, row.1 = row.2.name := by decide
  exact table _ listed

theorem OverflowMode.reader_eq_ok_iff {value : Value} {mode : OverflowMode} :
    reader value = .ok mode ↔
      value = .string mode.name ∨ value = .object [(mode.name, .null)] := by
  constructor
  · intro read
    unfold reader Json.named at read
    split at read
    · next name => exact .inl (congrArg Value.string (name_of_lookup (Json.named_find_eq_ok read)))
    · next name data =>
      obtain ⟨found, known, rest⟩ := bind_eq_ok_iff.mp read
      split at rest
      · cases rest
        rw [name_of_lookup (Json.named_find_eq_ok known)]
        exact .inr rfl
      · contradiction
    · next name data other more =>
      obtain ⟨found, -, rest⟩ := bind_eq_ok_iff.mp read
      split at rest
      · contradiction
      · contradiction
    · contradiction
  · rintro (rfl | rfl)
    · exact reader_name mode
    · cases mode <;> rfl

namespace Config

/-! ## Fields in any order -/

/-- The members that give the fields of a configuration. The overflow mode is given by its name, alone
or with nothing as its data. -/
def fields (c : Config) : List (String × Value) :=
  [("overflow", .string c.mode.name), ("overflow", .object [(c.mode.name, .null)]),
    ("max_cycles", .ofBudget c.maxCycles), ("trace", .bool c.trace)]

/-- The members of an object list the fields of a configuration: in any order, each at most once, and
none is left out but those with their defaults. -/
structure Lists (c : Config) (members : List (String × Value)) : Prop where
  each : ∀ member ∈ members, member ∈ c.fields
  once : (members.map Prod.fst).Nodup
  mode : "overflow" ∉ members.map Prod.fst → c.mode = .wrap
  maxCycles : "max_cycles" ∉ members.map Prod.fst → c.maxCycles = none
  trace : "trace" ∉ members.map Prod.fst → c.trace = false

variable {c : Config} {value : Value}

theorem overflow_mem_fields_iff :
    ("overflow", value) ∈ c.fields ↔ OverflowMode.reader value = .ok c.mode := by
  rw [OverflowMode.reader_eq_ok_iff]
  simp [fields]

theorem maxCycles_mem_fields_iff :
    ("max_cycles", value) ∈ c.fields ↔ Json.nullable Json.word value = .ok c.maxCycles := by
  rw [Json.budget_eq_ok_iff]
  simp [fields]

theorem trace_mem_fields_iff : ("trace", value) ∈ c.fields ↔ Json.bool value = .ok c.trace := by
  rw [Json.bool_eq_ok_iff]
  simp [fields]

theorem name_mem_of_mem_fields {member : String × Value} (field : member ∈ c.fields) :
    member.1 ∈ fieldNames := by
  have names : c.fields.map Prod.fst ⊆ fieldNames := by simp [fields, fieldNames]
  exact names (List.mem_map_of_mem field)

theorem isExact_of_mem_fields {member : String × Value} (field : member ∈ c.fields) :
    member.2.IsExact := by
  have budget : (Value.ofBudget c.maxCycles).IsExact := by
    cases c.maxCycles with
    | none => trivial
    | some budget => exact isExact_ofNat budget.toNat_lt
  simp only [fields, List.mem_cons, List.not_mem_nil, or_false] at field
  rcases field with rfl | rfl | rfl | rfl
  · trivial
  · exact ⟨trivial, trivial⟩
  · exact budget
  · trivial

/-- A field can become what it has to be with the names that are still to come. What has been read of it
is this already, and does not come again; if nothing has been read and it does not come, this is its
default. -/
def Awaits {α : Type} (name : String) (names : List String) (default final : α) : Option α → Prop
  | some found => found = final ∧ name ∉ names
  | none => name ∉ names → final = default

/-- Members list what is still missing of a configuration when some of its fields have been read. -/
@[mk_iff]
structure Completes (fields : Fields) (c : Config) (members : List (String × Value)) : Prop where
  each : ∀ member ∈ members, member ∈ c.fields
  once : (members.map Prod.fst).Nodup
  mode : Awaits "overflow" (members.map Prod.fst) .wrap c.mode fields.mode
  maxCycles : Awaits "max_cycles" (members.map Prod.fst) none c.maxCycles fields.maxCycles
  trace : Awaits "trace" (members.map Prod.fst) false c.trace fields.trace

section Awaits

variable {α : Type} {name : String} {names : List String} {default final : α} {slot : Option α}

theorem awaits_nil_iff : Awaits name [] default final slot ↔ slot.getD default = final := by
  cases slot with
  | some found => simp [Awaits]
  | none => simp [Awaits, eq_comm]

/-- The name of another field does not matter. -/
theorem awaits_cons_of_ne {other : String} (ne : name ≠ other) :
    Awaits name (other :: names) default final slot ↔ Awaits name names default final slot := by
  cases slot <;> simp [Awaits, ne]

end Awaits

/-- A field that is filled has not been read before and will not be read again. -/
theorem exists_fill_iff {α : Type} (name : String) (names : List String) (default final : α)
    (slot : Option α) (reader : Reader α) (value : Value) :
    (∃ next, Json.fill name slot reader value = .ok next ∧ Awaits name names default final next) ↔
      reader value = .ok final ∧ name ∉ names ∧ Awaits name (name :: names) default final slot := by
  cases slot with
  | some found => simp [Json.fill, Awaits]
  | none =>
    simp only [Json.fill, map_eq_ok_iff]
    constructor
    · rintro ⟨-, ⟨found, read, rfl⟩, rfl, last⟩
      exact ⟨read, last, by simp [Awaits]⟩
    · rintro ⟨read, last, -⟩
      exact ⟨some final, ⟨final, read, rfl⟩, rfl, last⟩

theorem read_of_not_mem {fields : Fields} {name : String} (unknown : name ∉ fieldNames) :
    fields.read (name, value) = .error (.unknownField name fieldNames) := by
  simp only [fieldNames, List.mem_cons, List.not_mem_nil, or_false, not_or] at unknown
  unfold Fields.read
  split <;> simp_all

/-- A member is read if its field has been waiting for it; the other fields go on waiting. -/
theorem completes_cons_iff {fields : Fields} {member : String × Value}
    {rest : List (String × Value)} :
    Completes fields c (member :: rest) ↔
      ∃ next, fields.read member = .ok next ∧ Completes next c rest := by
  obtain ⟨name, value⟩ := member
  by_cases known : name ∈ fieldNames
  · simp only [fieldNames, List.mem_cons, List.not_mem_nil, or_false] at known
    -- The fields are filled alike, and the name of one means nothing to the other two.
    rcases known with rfl | rfl | rfl
    all_goals
      simp (disch := decide) only [completes_iff, List.forall_mem_cons, List.map_cons,
        List.nodup_cons, awaits_cons_of_ne, Fields.read, bind_eq_ok_iff, pure_eq_ok,
        Except.ok.injEq, exists_exists_and_eq_and]
    · have filled := exists_fill_iff "overflow" (rest.map Prod.fst) .wrap c.mode fields.mode
        OverflowMode.reader value
      grind [overflow_mem_fields_iff]
    · have filled := exists_fill_iff "max_cycles" (rest.map Prod.fst) none c.maxCycles
        fields.maxCycles (Json.nullable Json.word) value
      grind [maxCycles_mem_fields_iff]
    · have filled := exists_fill_iff "trace" (rest.map Prod.fst) false c.trace fields.trace
        Json.bool value
      grind [trace_mem_fields_iff]
  · have foreign : ¬Completes fields c ((name, value) :: rest) := fun complete =>
      known (name_mem_of_mem_fields (complete.each _ List.mem_cons_self))
    simp [foreign, read_of_not_mem known]

/-- Members that are read one after the other give a configuration exactly if they complete what has
been read before. -/
theorem foldlM_read_eq_ok_iff {fields : Fields} {members : List (String × Value)} :
    Fields.config <$> members.foldlM Fields.read fields = .ok c ↔ Completes fields c members := by
  induction members generalizing fields with
  | nil =>
    obtain ⟨mode, maxCycles, trace⟩ := c
    simp [completes_iff, awaits_nil_iff, Fields.config]
  | cons member rest ih =>
    rw [completes_cons_iff, List.foldlM_cons]
    simp only [← ih]
    cases fields.read member <;> simp

theorem reader_object_eq_ok_iff {members : List (String × Value)} :
    reader (.object members) = .ok c ↔ c.Lists members := by
  have completes : reader (.object members) = .ok c ↔ Completes {} c members :=
    foldlM_read_eq_ok_iff
  rw [completes]
  exact ⟨fun ⟨each, once, mode, maxCycles, trace⟩ => ⟨each, once, mode, maxCycles, trace⟩,
    fun ⟨each, once, mode, maxCycles, trace⟩ => ⟨each, once, mode, maxCycles, trace⟩⟩

/-! ## Texts -/

theorem parse_eq_ok_iff {text : String} :
    parse text = .ok c ↔ ∃ value, Json.parse? text = some value ∧ reader value = .ok c := by
  rw [parse, Json.read]
  cases Json.parse? text with
  | none => simp [Except.mapError]
  | some value => cases read : reader value <;> simp [Except.mapError, read]

/-- An object gives a configuration exactly if it lists its fields. -/
theorem parse_object_eq_ok_iff {text : String} {members : List (String × Value)}
    (object : Json.parse? text = some (.object members)) :
    parse text = .ok c ↔ c.Lists members := by
  rw [parse_eq_ok_iff, object]
  simp [reader_object_eq_ok_iff]

theorem exists_error_of_forall {text : String} (never : ∀ c, parse text ≠ .ok c) :
    ∃ e, parse text = .error e := by
  cases read : parse text with
  | error e => exact ⟨e, rfl⟩
  | ok c => exact absurd read (never c)

/-- An object with a foreign name, or with a name that stands twice, gives no configuration. -/
theorem exists_error_of_foreign_or_repeated {text : String} {members : List (String × Value)}
    (object : Json.parse? text = some (.object members))
    (wrong : (∃ member ∈ members, member.1 ∉ fieldNames) ∨ ¬(members.map Prod.fst).Nodup) :
    ∃ e, parse text = .error e := by
  apply exists_error_of_forall
  intro c parsed
  have lists := (parse_object_eq_ok_iff object).mp parsed
  rcases wrong with ⟨member, present, foreign⟩ | repeated
  · exact foreign (name_mem_of_mem_fields (lists.each member present))
  · exact repeated lists.once

/-- A text that denotes nothing gives no configuration; an object with a name that denotes nothing is
such a text. -/
theorem exists_error_of_unrepresentable {text : String}
    (nothing : Json.parse? text = some .unrepresentable) : ∃ e, parse text = .error e := by
  apply exists_error_of_forall
  intro c parsed
  obtain ⟨value, read, fits⟩ := parse_eq_ok_iff.mp parsed
  rw [nothing] at read
  cases read
  contradiction

theorem Lists.isExact {members : List (String × Value)} (lists : c.Lists members) :
    (Value.object members).IsExact :=
  Json.membersExact_of_forall fun member listed => isExact_of_mem_fields (lists.each member listed)

end Config

namespace Command

open Log (Filter)

variable {s : Console} {text path : String} {c : Config} {o : RunOptions}

/-- A configuration that is read from a file is handed on. -/
theorem Script.leads_withConfig_of_parse
    (stored : s.directory.read path = .ok (Text.Utf8.encode text))
    (parsed : Config.parse text = .ok c) (next : Config → Script) :
    Leads (withConfig (some path) next) s (next c) s := by
  have found : (Except.ok (Text.Utf8.encode text)).bind textOfContent = .ok text.toList :=
    textOfContent_encode text
  apply Leads.read
  rw [stored, found]
  simp only [String.ofList_toList, parsed]
  exact .here _ _

/-- The settings of a run are those of its configuration, each overridden by the command line in its
own way. -/
structure RunOptions.Overrides (o : RunOptions) (c settings : Config) : Prop where
  mode : settings.mode = .trap ↔ o.strict = true ∨ c.mode = .trap
  maxCycles : settings.maxCycles =
    match o.maxCycles with
    | some budget => some budget
    | none => c.maxCycles
  trace : settings.trace = true ↔ o.trace = true ∨ c.trace = true

theorem RunOptions.overrides_settings (o : RunOptions) (c : Config) : o.Overrides c (o.settings c) where
  mode := by simp [settings, or_iff_not_imp_left]
  maxCycles := by cases given : o.maxCycles <;> simp [settings, given]
  trace := by simp [settings, or_comm]

/-- The options that ask on the command line for all settings of a run. -/
def RunOptions.spelledOut (o : RunOptions) (settings : Config) : RunOptions :=
  { o with
    config := none
    strict := settings.mode = .trap
    maxCycles := settings.maxCycles
    trace := settings.trace }

theorem RunOptions.settings_spelledOut (o : RunOptions) (settings : Config) :
    (o.spelledOut settings).settings {} = settings := by
  obtain ⟨mode, maxCycles, trace⟩ := settings
  cases mode <;> simp [spelledOut, RunOptions.settings]

namespace Script

/-- What a run does when its settings have been found: it finds its log filter, and its image, and lets
a machine run. -/
theorem leads_runProgram_of_parse (given : o.config = some path)
    (stored : s.directory.read path = .ok (Text.Utf8.encode text))
    (parsed : Config.parse text = .ok c) (setting : Option String) :
    Leads (runProgram setting o) s
      (withRunFilter (o.settings c) setting fun filter =>
        withImage filter o.program (runImage (o.settings c) filter o.dumpState)) s := by
  rw [runProgram, given]
  exact leads_withConfig_of_parse stored parsed _

theorem runProgram_spelledOut (setting : Option String) (o : RunOptions) (settings : Config) :
    runProgram setting (o.spelledOut settings) =
      withRunFilter settings setting fun filter =>
        withImage filter o.program (runImage settings filter o.dumpState) := by
  have unconfigured : runProgram setting (o.spelledOut settings) =
      withRunFilter ((o.spelledOut settings).settings {}) setting fun filter =>
        withImage filter o.program
          (runImage ((o.spelledOut settings).settings {}) filter o.dumpState) := rfl
  rw [unconfigured, RunOptions.settings_spelledOut]

end Script

/-- Configurations are read in any order of their fields and overridden one field at a time. An object
gives a configuration exactly if it lists its fields; in particular one with another name, with a name
that stands twice or with one that denotes nothing gives none. Every list of the fields of a
configuration is what both of its written forms are read as. A run with such a file overrides its fields
by the options of the command line, each in its own way: it finds its image under the filter that logs
every instruction if it is traced and under that of the environment otherwise, and loads it into a
machine of the overridden mode, which runs for the overridden budget. It does the same as a run without a
file whose options ask for all that. -/
theorem configuration_overridden_field_by_field :
    (∀ {c : Config} {members : List (String × Value)}, c.Lists members →
      Json.parse? (Value.object members).compact = some (.object members) ∧
      Json.parse? (Value.object members).indented = some (.object members)) ∧
    (∀ {text : String}, Json.parse? text = some .unrepresentable →
      ∃ e, Config.parse text = .error e) ∧
    ∀ {text : String} {members : List (String × Value)},
      Json.parse? text = some (.object members) →
      ((∃ member ∈ members, member.1 ∉ Config.fieldNames) ∨ ¬(members.map Prod.fst).Nodup →
        ∃ e, Config.parse text = .error e) ∧
      ∀ c : Config, (Config.parse text = .ok c ↔ c.Lists members) ∧
        (c.Lists members → ∀ {arguments : List String} {o : RunOptions} {path : String} {s : Console}
          (setting : Option String), Invocation.ofArguments arguments = .ok (.run o) →
          o.config = some path → s.directory.read path = .ok (Text.Utf8.encode text) →
          ∃ settings, o.Overrides c settings ∧
            Script.Leads (script arguments setting) s
              (match if settings.trace then some .detailed else Filter.ofSetting? setting with
                | some filter => .withImage filter o.program fun image =>
                  match (Cpu.load image).run (.powerOn settings.mode) with
                  | .ok () machine => .log filter (.programLoaded 0 image.length)
                      (.run machine settings.maxCycles filter (.conclude o.dumpState))
                  | .error e _ => .fail (.load e)
                | none => .fail .logSetting) s ∧
            ∀ fuel, (script arguments setting).perform fuel s =
              ((Invocation.run (o.spelledOut settings)).script setting).perform fuel s) := by
  refine ⟨fun lists => ⟨Json.parse?_compact lists.isExact, Json.parse?_indented lists.isExact⟩,
    Config.exists_error_of_unrepresentable, ?_⟩
  intro text members object
  refine ⟨Config.exists_error_of_foreign_or_repeated object, fun c => ?_⟩
  have reads := Config.parse_object_eq_ok_iff (c := c) object
  refine ⟨reads, ?_⟩
  intro lists arguments o path s setting accepted given stored
  have scripted : script arguments setting = Script.runProgram setting o := by
    rw [script, accepted]
    rfl
  have leads := Script.leads_runProgram_of_parse given stored (reads.mpr lists) setting
  rw [scripted]
  refine ⟨o.settings c, o.overrides_settings c, ?_, ?_⟩
  · rw [Script.withRunFilter_eq_match, Script.runFilter?] at leads
    exact leads
  · intro fuel
    rw [leads.perform, Invocation.script, Script.runProgram_spelledOut]

/-- A file that leaves the trace out, and a command line that asks for it and for a smaller budget; and
a text in which a name stands twice. -/
theorem reordered_file_overridden :
    let twice := "\x7b\"trace\":true,\"trace\":true\x7d"
    let text := "\x7b\n  \"max_cycles\": 18446744073709551615,\n  \"overflow\": \"trap\"\n\x7d"
    let s : Console := { directory := ⟨[("c.json", Text.Utf8.encode text)]⟩ }
    (∃ e, Config.parse twice = .error e) ∧
      Config.parse text = .ok { mode := .trap, maxCycles := some (UInt64.ofNat (UInt64.size - 1)) } ∧
      Script.Leads (script ["run", "p.asm", "-c", "c.json", "-tm2"] none) s
        (.withImage .detailed "p.asm" fun image =>
          match (Cpu.load image).run (.powerOn .trap) with
          | .ok () machine => .log .detailed (.programLoaded 0 image.length)
              (.run machine (some 2) .detailed (.conclude false))
          | .error e _ => .fail (.load e)) s := by
  intro twice text s
  obtain ⟨written, -, read⟩ := configuration_overridden_field_by_field
  have repeated : Json.parse? twice =
      some (.object [("trace", .bool true), ("trace", .bool true)]) := by
    have compact : (Value.object [("trace", .bool true), ("trace", .bool true)]).compact = twice := by
      decide
    rw [← compact]
    exact Json.parse?_compact ⟨trivial, trivial, trivial⟩
  let c : Config := { mode := .trap, maxCycles := some (UInt64.ofNat (UInt64.size - 1)) }
  let members : List (String × Value) :=
    [("max_cycles", .ofBudget c.maxCycles), ("overflow", .string c.mode.name)]
  have lists : c.Lists members :=
    ⟨by simp [members, Config.fields], by decide, by decide, by decide, fun _ => rfl⟩
  have object : Json.parse? text = some (.object members) := by
    have indented : (Value.object members).indented = text := by decide
    rw [← indented]
    exact (written lists).2
  obtain ⟨parsed, runs⟩ := (read object).2 c
  have accepted : Invocation.ofArguments ["run", "p.asm", "-c", "c.json", "-tm2"] =
      .ok (.run { program := "p.asm", maxCycles := some 2, trace := true, config := "c.json" }) := by
    decide
  obtain ⟨⟨mode, budget, trace⟩, merged, leads, -⟩ :=
    runs lists (s := s) none accepted rfl (by decide)
  obtain rfl : mode = .trap := merged.mode.mpr (.inr rfl)
  obtain rfl : budget = some 2 := merged.maxCycles
  obtain rfl : trace = true := merged.trace.mpr (.inl rfl)
  exact ⟨(read repeated).1 (.inr (by decide)), parsed.mpr lists, leads⟩

end Command

end Ls8
