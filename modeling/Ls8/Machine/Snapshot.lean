import Ls8.Json.Reader
import Ls8.Machine.Cpu

/-! # Snapshots

Memory, registers and whole machines as JSON. A snapshot of a machine holds everything but the last
instruction, which is absent from a machine that has been restored. -/

namespace Ls8

open Json (Value Reader Mismatch)

/-- The names of the overflow modes. -/
def OverflowMode.names : List (String × OverflowMode) := [("wrap", .wrap), ("trap", .trap)]

/-- The name of an overflow mode. -/
def OverflowMode.name : OverflowMode → String
  | .wrap => "wrap"
  | .trap => "trap"

/-- Reads an overflow mode. -/
def OverflowMode.reader : Reader OverflowMode := Json.named OverflowMode.names

/-- Reads a run state. -/
def RunState.reader : Reader RunState :=
  Json.named ([RunState.running, .halted, .error].map fun state => (state.name, state))

/-- Bytes as an array of numbers. -/
def bytesToJson (bytes : List UInt8) : Value := .array (bytes.map fun b => .ofNat b.toNat)

/-- A vector of a fixed length from a list, if the list has that length. -/
def vectorOfList? (n : Nat) (bytes : List UInt8) : Option (Vector UInt8 n) :=
  if h : bytes.toArray.size = n then some ⟨bytes.toArray, h⟩ else none

namespace Memory

/-- The snapshot of a memory. -/
def toJson (m : Memory) : Value := .object [("cells", bytesToJson m.toList)]

/-- Reads the cells of a memory, which have to be all of them. -/
def cellsReader : Reader (Vector UInt8 memorySize) := fun value => do
  let bytes ← Json.list Json.byte value
  match vectorOfList? memorySize bytes with
  | some cells => return cells
  | none => throw (.invalidLength bytes.length "256 memory cells")

/-- Reads a memory. -/
def reader : Reader Memory
  | .object members => do
    let cells ← members.foldlM (fun cells (name, value) =>
      if name = "cells" then Json.fill name cells cellsReader value else return cells) none
    return ⟨← Json.require "cells" cells⟩
  | .array items => do
    let cells ← Json.itemAt items 0 cellsReader "struct Memory with 1 element"
    Json.noMoreThan 1 items
    return ⟨cells⟩
  | value => throw (.invalidType value.kind "struct Memory")

end Memory

namespace Registers

/-- The snapshot of a register file. -/
def toJson (rs : Registers) : Value :=
  .object [("r", bytesToJson rs.general.toList), ("pc", .ofNat rs.counter.toNat),
    ("fl", .bool rs.flag)]

/-- Reads the eight general registers. -/
def generalReader : Reader (Vector UInt8 8)
  | .array items => do
    let bytes ← (items.take 8).mapM Json.byte
    match vectorOfList? 8 bytes with
    | some general => do
      Json.noMoreThan 8 items
      return general
    | none => throw (.invalidLength bytes.length "an array of length 8")
  | value => throw (.invalidType value.kind "an array of length 8")

/-- The fields of a register file as far as they have been read. -/
structure Fields where
  general : Option (Vector UInt8 8) := none
  counter : Option UInt8 := none
  flag : Option Bool := none

/-- Reads one member of a register file. -/
def Fields.read (fields : Fields) : String × Value → Except Mismatch Fields
  | ("r", value) =>
    return { fields with general := ← Json.fill "r" fields.general generalReader value }
  | ("pc", value) =>
    return { fields with counter := ← Json.fill "pc" fields.counter Json.byte value }
  | ("fl", value) => return { fields with flag := ← Json.fill "fl" fields.flag Json.bool value }
  | _ => return fields

/-- Reads a register file. -/
def reader : Reader Registers
  | .object members => do
    let fields ← members.foldlM Fields.read {}
    return { general := ← Json.require "r" fields.general
             counter := ← Json.require "pc" fields.counter
             flag := ← Json.require "fl" fields.flag }
  | .array items => do
    let shape := "struct Registers with 3 elements"
    let general ← Json.itemAt items 0 generalReader shape
    let counter ← Json.itemAt items 1 Json.byte shape
    let flag ← Json.itemAt items 2 Json.bool shape
    Json.noMoreThan 3 items
    return { general, counter, flag }
  | value => throw (.invalidType value.kind "struct Registers")

end Registers

namespace Cpu

/-- The snapshot of a machine. -/
def toJson (c : Cpu) : Value :=
  .object [("regs", c.registers.toJson), ("mem", c.memory.toJson), ("state", .string c.state.name),
    ("cycles", .ofNat c.cycles.toNat), ("overflow", .string c.mode.name)]

/-- The fields of a machine as far as they have been read. -/
structure Fields where
  registers : Option Registers := none
  memory : Option Memory := none
  state : Option RunState := none
  cycles : Option UInt64 := none
  mode : Option OverflowMode := none

/-- Reads one member of a machine. -/
def Fields.read (fields : Fields) : String × Value → Except Mismatch Fields
  | ("regs", value) =>
    return { fields with registers := ← Json.fill "regs" fields.registers Registers.reader value }
  | ("mem", value) =>
    return { fields with memory := ← Json.fill "mem" fields.memory Memory.reader value }
  | ("state", value) =>
    return { fields with state := ← Json.fill "state" fields.state RunState.reader value }
  | ("cycles", value) =>
    return { fields with cycles := ← Json.fill "cycles" fields.cycles Json.word value }
  | ("overflow", value) =>
    return { fields with mode := ← Json.fill "overflow" fields.mode OverflowMode.reader value }
  | _ => return fields

/-- Reads a machine. -/
def reader : Reader Cpu
  | .object members => do
    let fields ← members.foldlM Fields.read {}
    return { registers := ← Json.require "regs" fields.registers
             memory := ← Json.require "mem" fields.memory
             state := ← Json.require "state" fields.state
             cycles := ← Json.require "cycles" fields.cycles
             mode := ← Json.require "overflow" fields.mode
             last := none }
  | .array items => do
    let shape := "struct Cpu with 5 elements"
    let registers ← Json.itemAt items 0 Registers.reader shape
    let memory ← Json.itemAt items 1 Memory.reader shape
    let state ← Json.itemAt items 2 RunState.reader shape
    let cycles ← Json.itemAt items 3 Json.word shape
    let mode ← Json.itemAt items 4 OverflowMode.reader shape
    Json.noMoreThan 5 items
    return { registers, memory, state, cycles, mode, last := none }
  | value => throw (.invalidType value.kind "struct Cpu")

/-- The machine in a snapshot. -/
def restore (text : String) : Except Json.ReadError Cpu := Json.read reader text

end Cpu

/-- The memory in a snapshot. -/
def Memory.restore (text : String) : Except Json.ReadError Memory := Json.read Memory.reader text

end Ls8
