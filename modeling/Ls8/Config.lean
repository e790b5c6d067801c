import Ls8.Machine.Snapshot

/-! # Configuration

The settings of a run, read from a JSON text in which every field may be left out and no other field
may stand. -/

namespace Ls8

open Json (Value Reader Mismatch)

/-- The settings of a run: the overflow mode, the greatest number of instructions (`none` for a run
until the machine stops), and whether every instruction is logged. -/
structure Config where
  mode : OverflowMode := .wrap
  maxCycles : Option UInt64 := none
  trace : Bool := false
  deriving DecidableEq, Repr

/-- Why a text is no configuration. -/
structure ConfigError where
  reason : Json.ReadError
  deriving DecidableEq, Repr

/-- A configuration error in words. Where a text is no JSON document, and at which line and column the
reading of any text stopped, is not modelled: the words for the former are made up, and the latter is
left out. -/
def ConfigError.message (e : ConfigError) : String :=
  "invalid config: " ++
    match e.reason with
    | .notJson => "not a JSON document"
    | .mismatch reason => reason.message

namespace Config

/-- The names of the fields in order. -/
def fieldNames : List String := ["overflow", "max_cycles", "trace"]

/-- The fields of a configuration as far as they have been read. -/
structure Fields where
  mode : Option OverflowMode := none
  maxCycles : Option (Option UInt64) := none
  trace : Option Bool := none

/-- Reads one member of a configuration. -/
def Fields.read (fields : Fields) : String × Value → Except Mismatch Fields
  | ("overflow", value) =>
    return { fields with mode := ← Json.fill "overflow" fields.mode OverflowMode.reader value }
  | ("max_cycles", value) =>
    return { fields with
      maxCycles := ← Json.fill "max_cycles" fields.maxCycles (Json.nullable Json.word) value }
  | ("trace", value) =>
    return { fields with trace := ← Json.fill "trace" fields.trace Json.bool value }
  | (name, _) => throw (.unknownField name fieldNames)

/-- The configuration with the fields that have been read, and defaults for the others. -/
def Fields.config (fields : Fields) : Config :=
  { mode := fields.mode.getD .wrap
    maxCycles := fields.maxCycles.getD none
    trace := fields.trace.getD false }

/-- Reads the item at an index of the array form, if it is there. -/
def optionalItem {α : Type} (items : List Value) (index : Nat) (reader : Reader α) :
    Except Mismatch (Option α) :=
  match items[index]? with
  | some item => some <$> reader item
  | none => return none

/-- Reads a configuration. -/
def reader : Reader Config
  | .object members => do return (← members.foldlM Fields.read {}).config
  | .array items => do
    let mode ← optionalItem items 0 OverflowMode.reader
    let maxCycles ← optionalItem items 1 (Json.nullable Json.word)
    let trace ← optionalItem items 2 Json.bool
    Json.noMoreThan 3 items
    return Fields.config { mode, maxCycles, trace }
  | value => throw (.invalidType value.kind "struct MachineConfig")

/-- The configuration in a text. -/
def parse (text : String) : Except ConfigError Config :=
  (Json.read reader text).mapError ConfigError.mk

/-- A machine with the settings of a configuration. -/
def cpu (config : Config) : Cpu := .powerOn config.mode

end Config

end Ls8
