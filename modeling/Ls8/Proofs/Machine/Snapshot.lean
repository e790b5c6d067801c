import Ls8.Machine.Snapshot
import Ls8.Proofs.Basic
import Ls8.Proofs.Json.RoundTrip
import Ls8.Proofs.Machine.Requests

/-! # Snapshots restored

A snapshot is a complete save point. Every part of a machine is read back from its snapshot, and so
is the text of the snapshot in either form; what is restored is the machine itself without its last
instruction. Since no request reads the last instruction, the restored machine goes on as the machine
itself would have done. -/

namespace Ls8

open Json (Value)

/-! ## Bytes -/

theorem byte_ofNat (b : UInt8) : Json.byte (.ofNat b.toNat) = .ok b := by
  have bound := b.toNat_lt
  have fits : (0 : Int) ≤ b.toNat ∧ (b.toNat : Int) < UInt8.size := by
    constructor
    · omega
    · exact_mod_cast bound
  rw [Json.byte, Value.ofNat, Json.natBelow, if_pos fits]
  simp

theorem word_ofNat (w : UInt64) : Json.word (.ofNat w.toNat) = .ok w := by
  have bound := w.toNat_lt
  have fits : (0 : Int) ≤ w.toNat ∧ (w.toNat : Int) < UInt64.size := by
    constructor
    · omega
    · exact_mod_cast bound
  rw [Json.word, Value.ofNat, Json.natBelow, if_pos fits]
  simp

theorem mapM_byte (bytes : List UInt8) :
    (bytes.map fun b => Value.ofNat b.toNat).mapM Json.byte = .ok bytes := by
  induction bytes with
  | nil => rfl
  | cons b rest ih => simp [byte_ofNat, ih]

theorem list_byte_bytesToJson (bytes : List UInt8) :
    Json.list Json.byte (bytesToJson bytes) = .ok bytes := mapM_byte bytes

theorem vectorOfList?_toList {n : Nat} (v : Vector UInt8 n) : vectorOfList? n v.toList = some v := by
  have same : v.toList.toArray = v.toArray := by
    rw [← Vector.toList_toArray, Array.toArray_toList]
  simp [vectorOfList?, same]

/-- A number below the bound of words is written as an integer. -/
theorem isExact_ofNat {n : Nat} (fits : n < UInt64.size) : (Value.ofNat n).IsExact := by
  have small : (n : Int) < UInt64.size := by exact_mod_cast fits
  exact ⟨by omega, small⟩

theorem isExact_byte (b : UInt8) : (Value.ofNat b.toNat).IsExact :=
  isExact_ofNat (Nat.lt_trans b.toNat_lt (by decide))

theorem isExact_bytesToJson (bytes : List UInt8) : (bytesToJson bytes).IsExact := by
  rw [bytesToJson]
  induction bytes with
  | nil => trivial
  | cons b rest ih => exact ⟨isExact_byte b, ih⟩

/-! ## Parts of a machine -/

theorem OverflowMode.reader_name (mode : OverflowMode) : reader (.string mode.name) = .ok mode := by
  cases mode <;> rfl

theorem RunState.reader_name (state : RunState) : reader (.string state.name) = .ok state := by
  cases state <;> rfl

theorem Memory.cellsReader_bytesToJson (m : Memory) :
    cellsReader (bytesToJson m.toList) = .ok m.cells := by
  simp only [cellsReader, list_byte_bytesToJson, ok_bind]
  simp [Memory.toList, vectorOfList?_toList]

theorem Memory.reader_toJson (m : Memory) : reader m.toJson = .ok m := by
  simp [reader, toJson, Json.fill, cellsReader_bytesToJson, Json.require]

theorem Registers.generalReader_bytesToJson (general : Vector UInt8 8) :
    generalReader (bytesToJson general.toList) = .ok general := by
  have all : (general.toList.map fun b => Value.ofNat b.toNat).take 8 =
      general.toList.map fun b => Value.ofNat b.toNat := List.take_of_length_le (by simp)
  simp only [generalReader, bytesToJson, all, mapM_byte, ok_bind]
  simp [vectorOfList?_toList, Json.noMoreThan]

theorem Registers.reader_toJson (rs : Registers) : reader rs.toJson = .ok rs := by
  simp [reader, toJson, Fields.read, Json.fill, generalReader_bytesToJson, byte_ofNat, Json.bool,
    Json.require]

namespace Cpu

/-- A machine is read back from its snapshot without its last instruction. -/
theorem reader_toJson (c : Cpu) : reader c.toJson = .ok (c.withLast none) := by
  simp [reader, toJson, Fields.read, Json.fill, Registers.reader_toJson, Memory.reader_toJson,
    RunState.reader_name, word_ofNat, OverflowMode.reader_name, Json.require, withLast]

theorem isExact_toJson (c : Cpu) : c.toJson.IsExact := by
  have registers : c.registers.toJson.IsExact :=
    ⟨isExact_bytesToJson _, isExact_byte _, trivial, trivial⟩
  have memory : c.memory.toJson.IsExact := ⟨isExact_bytesToJson _, trivial⟩
  exact ⟨registers, memory, trivial, isExact_ofNat c.cycles.toNat_lt, trivial, trivial⟩

/-- A machine is restored from any text in which its snapshot is read. -/
theorem restore_of_parse? (c : Cpu) {text : String} (read : Json.parse? text = some c.toJson) :
    restore text = .ok (c.withLast none) := by
  simp [restore, Json.read, read, reader_toJson]

/-- A snapshot is a complete save point, in either form. The machine that is restored has the
registers, the memory, the state, the cycles and the mode of the machine that was saved, and no last
instruction. Whatever is asked of both, they answer alike, do the same to their surroundings and stay
alike; and they agree on the last instruction as soon as one has been executed or the machine has
been reset. -/
theorem snapshot_resumes (c : Cpu) :
    restore c.toJson.compact = .ok { c with last := none } ∧
      restore c.toJson.indented = .ok { c with last := none } ∧
      ∀ {σ : Type} (host : Host σ) (s : σ) (requests : List Request),
        let saved := c.serveAll host s requests
        let restored := serveAll host { c with last := none } s requests
        restored.answers = saved.answers ∧ restored.host = saved.host ∧
          { restored.cpu with last := none } = { saved.cpu with last := none } ∧
          (c.Renewed host s requests → restored.cpu = saved.cpu) := by
  refine ⟨c.restore_of_parse? (Json.parse?_compact c.isExact_toJson),
    c.restore_of_parse? (Json.parse?_indented c.isExact_toJson), ?_⟩
  intro σ host s requests saved restored
  rcases serveAll_withLast host c s none requests with ⟨renewed, same⟩ | ⟨kept, same⟩
  · have same : restored = saved := same
    rw [same]
    exact ⟨rfl, rfl, rfl, fun _ => rfl⟩
  · have same : restored = saved.withLast none := same
    rw [same]
    exact ⟨rfl, rfl, rfl, fun renewed => absurd renewed kept⟩

/-- A machine that has pushed a byte: after it has been restored the byte is popped and printed. -/
theorem pushed_byte_resumes :
    let c : Cpu := {
      registers := Registers.powerOn.setStackPointer 0xf3
      memory := (Memory.zero.place 0 [0x46, 0x00, 0x47, 0x00, 0x01]).write 0xf3 7
      state := .running, cycles := 41, mode := .trap
      last := some (.push 1) }
    let restored : Cpu := { c with last := none }
    restore c.toJson.indented = .ok restored ∧ restored ≠ c ∧
      (restored.serveAll Host.collector #[] [.push 5, .pop, .run 3]).host = #[55, 10] ∧
      (restored.serveAll Host.collector #[] [.push 5, .pop, .run 3]).cpu =
        (c.serveAll Host.collector #[] [.push 5, .pop, .run 3]).cpu := by
  intro c restored
  obtain ⟨-, read, resumes⟩ := snapshot_resumes c
  obtain ⟨-, printed, -, agree⟩ := resumes Host.collector #[] [.push 5, .pop, .run 3]
  have renewed : c.Renewed Host.collector #[] [.push 5, .pop, .run 3] :=
    .inr (.inr (.inl ⟨0, by decide, .pop 0, by decide⟩))
  refine ⟨read, ?_, ?_, agree renewed⟩
  · intro same
    exact absurd (congrArg Cpu.last same) (by decide)
  · rw [printed]
    decide

end Cpu

end Ls8
