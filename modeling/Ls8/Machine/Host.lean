import Ls8.Machine.Cpu

/-! # The surroundings of a machine

What a machine does to the world: it prints bytes and reports events. A `Host` says how its own
state takes them up, and whether printing failed. Everything that a machine does is stated for an
arbitrary host; the hosts here collect the output, with or without a limit. -/

namespace Ls8

/-- What a machine reports while it runs. -/
inductive Event
  /-- An instruction has been decoded and is about to be executed. -/
  | execute (counter byte : UInt8) (instruction : Instruction Register)
  /-- The machine has halted. -/
  | halted (counter : UInt8) (cycles : UInt64)
  /-- The machine has been stopped by an error. -/
  | stopped (counter : UInt8) (error : CpuError)
  deriving DecidableEq

/-- How surroundings with state `σ` take up output and events. Writing may take only part of the
bytes and fail with a reason. -/
structure Host (σ : Type) where
  write : σ → List UInt8 → σ × Option String
  log : σ → Event → σ

/-- The host that keeps all output and ignores events. -/
def Host.collector : Host (Array UInt8) :=
  { write := fun s bytes => (s ++ bytes, none), log := fun s _ => s }

/-- Output with room for a limited number of further bytes, or for any number. -/
structure Sink where
  content : Array UInt8
  room : Option Nat
  deriving DecidableEq

namespace Sink

/-- A sink without content and without limit. -/
def unlimited : Sink := ⟨#[], none⟩

/-- The sink after as many bytes as fit have been written; it is full if some did not. -/
def write (s : Sink) (bytes : List UInt8) : Sink × Option String :=
  match s.room with
  | none => (⟨s.content ++ bytes, none⟩, none)
  | some room =>
    (⟨s.content ++ bytes.take room, some (room - bytes.length)⟩,
      if bytes.length ≤ room then none else some "sink full")

/-- The host that keeps the output in a sink and ignores events. -/
def host : Host Sink := { write := write, log := fun s _ => s }

end Sink

end Ls8
