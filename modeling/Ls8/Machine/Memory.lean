/-! # Memory

256 cells of one byte each. An address is a byte, so every address names a cell and all address
arithmetic wraps. A program image is copied in whole or not at all. -/

namespace Ls8

/-- The number of memory cells. -/
def memorySize : Nat := 256

/-- The cells of a machine. -/
structure Memory where
  cells : Vector UInt8 memorySize
  deriving DecidableEq

/-- A program image that does not fit, with its length and the space there was for it. -/
structure LoadError where
  size : Nat
  available : Nat
  deriving DecidableEq, Repr

/-- A load error in words. -/
def LoadError.message (e : LoadError) : String :=
  "program size " ++ Nat.repr e.size ++ " exceeds available space " ++ Nat.repr e.available

namespace Memory

/-- A memory of zeros. -/
def zero : Memory := ⟨Vector.replicate memorySize 0⟩

instance : Inhabited Memory := ⟨zero⟩

/-- The place of the cell with an address. -/
def cell (address : UInt8) : Fin memorySize := ⟨address.toNat, address.toNat_lt⟩

/-- The content of a cell. -/
def read (m : Memory) (address : UInt8) : UInt8 := m.cells[cell address]

/-- The memory after one cell has been set. -/
def write (m : Memory) (address value : UInt8) : Memory :=
  ⟨m.cells.set (cell address) value (cell address).isLt⟩

/-- The content of the cell `offset` places after an address, wrapping at the end of memory. -/
def readOffset (m : Memory) (address offset : UInt8) : UInt8 := m.read (address + offset)

/-- The memory after bytes have been written one after the other from an address on. -/
def place (m : Memory) (address : UInt8) : List UInt8 → Memory
  | [] => m
  | byte :: rest => (m.write address byte).place (address + 1) rest

/-- Loads an image at an address, if it ends within the memory. -/
def load (base : UInt8) (image : List UInt8) : EStateM LoadError Memory Unit := do
  if memorySize < base.toNat + image.length then
    throw ⟨image.length, memorySize - base.toNat⟩
  modify (·.place base image)

/-- A load either places the whole image or changes nothing. -/
theorem run_load (m : Memory) (base : UInt8) (image : List UInt8) :
    (load base image).run m =
      if base.toNat + image.length ≤ memorySize then .ok () (m.place base image)
      else .error ⟨image.length, memorySize - base.toNat⟩ m := by
  by_cases fits : base.toNat + image.length ≤ memorySize
  · rw [if_pos fits, load, if_neg (Nat.not_lt.mpr fits)]
    rfl
  · rw [if_neg fits, load, if_pos (Nat.not_le.mp fits)]
    rfl

/-- Up to `count` cells from an address on, ending at the last cell, with their addresses. -/
def dump (m : Memory) (start : UInt8) (count : Nat) : List (UInt8 × UInt8) :=
  (List.range (min count (memorySize - start.toNat))).map fun offset =>
    let address := start + UInt8.ofNat offset
    (address, m.read address)

/-- The contents of all cells in the order of their addresses. -/
def toList (m : Memory) : List UInt8 := m.cells.toList

/-- How much of the memory is in use, in words. -/
def summary (m : Memory) : String :=
  "Memory \x7b non_zero_cells: " ++ Nat.repr (m.toList.filter (· ≠ 0)).length ++
    ", total_cells: " ++ Nat.repr memorySize ++ " \x7d"

/-- Reading after a write sees the write at its address and nothing of it elsewhere. -/
theorem read_write (m : Memory) (address value other : UInt8) :
    (m.write address value).read other = if other = address then value else m.read other := by
  simp only [read, write, cell, Fin.getElem_fin, Vector.getElem_set]
  by_cases h : other = address
  · simp [h]
  · have : address.toNat ≠ other.toNat := fun same => h (UInt8.toNat_inj.mp same).symm
    simp [h, this]

@[simp] theorem read_write_self (m : Memory) (address value : UInt8) :
    (m.write address value).read address = value := by
  simp [read_write]

theorem read_write_of_ne (m : Memory) {address other : UInt8} (value : UInt8)
    (h : other ≠ address) : (m.write address value).read other = m.read other := by
  simp [read_write, h]

@[simp] theorem read_zero (address : UInt8) : zero.read address = 0 := by
  simp [read, zero]

/-- Two memories with the same contents are the same. -/
theorem ext_read {m n : Memory} (h : ∀ address, m.read address = n.read address) : m = n := by
  obtain ⟨cells⟩ := m
  obtain ⟨others⟩ := n
  congr 1
  apply Vector.ext
  intro i bound
  have same := h (UInt8.ofNat i)
  have index : (UInt8.ofNat i).toNat = i := UInt8.toNat_ofNat_of_lt' bound
  simpa only [read, cell, Fin.getElem_fin, index] using same

@[simp] theorem length_toList (m : Memory) : m.toList.length = memorySize := by
  simp [toList]

end Memory

end Ls8
