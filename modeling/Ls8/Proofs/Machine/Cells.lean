import Ls8.Machine.Cpu
import Mathlib.Data.List.Basic

/-! # Runs of cells

Cells that follow each other, wrapping at the end of memory. A write changes a run only where it
contains the cell that is written. An image that has been placed is the run of its length from its
base on, and no other cell is changed. -/

namespace Ls8

/-- Fewer than 256 places further on in memory is another place. -/
theorem add_ofNat_ne_self (address : UInt8) {distance : Nat} (positive : 0 < distance)
    (short : distance < memorySize) : address + UInt8.ofNat distance ≠ address := by
  intro same
  have places := congrArg UInt8.toNat same
  have bound := address.toNat_lt
  rw [UInt8.toNat_add, UInt8.toNat_ofNat_of_lt' short] at places
  rw [memorySize] at short
  omega

theorem add_one_add_ofNat (address : UInt8) (distance : Nat) :
    address + 1 + UInt8.ofNat distance = address + UInt8.ofNat (distance + 1) := by
  rw [UInt8.ofNat_add, UInt8.add_assoc, UInt8.add_comm (UInt8.ofNat distance)]
  rfl

namespace Memory

/-- The contents of a number of cells from an address on. -/
def slice (m : Memory) (address : UInt8) : Nat → List UInt8
  | 0 => []
  | count + 1 => m.read address :: m.slice (address + 1) count

@[simp] theorem length_slice (m : Memory) (address : UInt8) (count : Nat) :
    (m.slice address count).length = count := by
  induction count generalizing address with
  | zero => rfl
  | succ count ih => rw [slice, List.length_cons, ih]

theorem getElem?_slice (m : Memory) (address : UInt8) {count place : Nat} (within : place < count) :
    (m.slice address count)[place]? = some (m.read (address + UInt8.ofNat place)) := by
  induction count generalizing address place with
  | zero => contradiction
  | succ count ih =>
    cases place with
    | zero =>
      rw [slice, List.getElem?_cons_zero]
      exact congrArg (fun cell => some (m.read cell)) (UInt8.add_zero address).symm
    | succ place =>
      rw [slice, List.getElem?_cons_succ, ih _ (Nat.lt_of_succ_lt_succ within), add_one_add_ofNat]

/-- Two runs are the same if their cells hold the same. -/
theorem slice_congr {m other : Memory} {address : UInt8} {count : Nat}
    (same : ∀ place < count, m.read (address + UInt8.ofNat place) =
      other.read (address + UInt8.ofNat place)) : m.slice address count = other.slice address count := by
  apply List.ext_getElem?
  intro place
  by_cases within : place < count
  · rw [getElem?_slice m address within, getElem?_slice other address within, same place within]
  · have past := Nat.not_lt.mp within
    rw [List.getElem?_eq_none (by rwa [length_slice]), List.getElem?_eq_none (by rwa [length_slice])]

/-- A write outside a run leaves the run as it is. -/
theorem slice_write {m : Memory} {address target value : UInt8} {count : Nat}
    (outside : ∀ place < count, address + UInt8.ofNat place ≠ target) :
    (m.write target value).slice address count = m.slice address count := by
  apply slice_congr
  intro place within
  exact read_write_of_ne m value (outside place within)

/-! ## Images -/

/-- A cell that an image does not cover keeps its content. -/
theorem read_place_of_outside {m : Memory} {base address : UInt8} {image : List UInt8}
    (outside : ∀ place < image.length, base + UInt8.ofNat place ≠ address) :
    (m.place base image).read address = m.read address := by
  induction image generalizing m base with
  | nil => rfl
  | cons byte rest ih =>
    have first : address ≠ base := by
      have apart := outside 0 (Nat.zero_lt_succ _)
      rw [show base + UInt8.ofNat 0 = base from UInt8.add_zero base] at apart
      exact apart.symm
    rw [place, ih, read_write_of_ne m byte first]
    intro place within
    rw [add_one_add_ofNat]
    exact outside (place + 1) (Nat.succ_lt_succ within)

/-- An image that does not meet itself is found where it has been placed. -/
theorem read_place {base byte : UInt8} {image : List UInt8} (fits : image.length ≤ memorySize)
    {place : Nat} (holds : image[place]? = some byte) (m : Memory) :
    (m.place base image).read (base + UInt8.ofNat place) = byte := by
  induction image generalizing m base place with
  | nil => contradiction
  | cons first rest ih =>
    rw [List.length_cons] at fits
    cases place with
    | zero =>
      have here : base + UInt8.ofNat 0 = base := UInt8.add_zero base
      have kept : ((m.write base first).place (base + 1) rest).read base = first := by
        rw [read_place_of_outside, read_write_self]
        intro place within
        rw [add_one_add_ofNat]
        exact add_ofNat_ne_self base (Nat.zero_lt_succ place) (by omega)
      rw [here, Memory.place, kept]
      exact Option.some.inj holds
    | succ place =>
      rw [← add_one_add_ofNat]
      exact ih (by omega) holds (m.write base first)

/-- A memory of zeros with an image placed at address 0. -/
theorem read_zero_place {image : List UInt8} (fits : image.length ≤ memorySize) (address : UInt8) :
    (zero.place 0 image).read address = image[address.toNat]?.getD 0 := by
  have here : 0 + UInt8.ofNat address.toNat = address := by
    rw [UInt8.ofNat_toNat, UInt8.zero_add]
  cases found : image[address.toNat]? with
  | some byte =>
    have read : (zero.place 0 image).read (0 + UInt8.ofNat address.toNat) = byte :=
      read_place fits found zero
    rwa [here] at read
  | none =>
    have past := List.getElem?_eq_none_iff.mp found
    rw [read_place_of_outside, read_zero]
    · rfl
    intro place within same
    have code := congrArg UInt8.toNat same
    rw [UInt8.zero_add, UInt8.toNat_ofNat_of_lt' (Nat.lt_of_lt_of_le within fits)] at code
    omega

end Memory

theorem Cpu.reset_eq_powerOn (c : Cpu) : c.reset = powerOn c.mode := rfl

/-- An image is loaded at address 0 if it is not longer than the memory. -/
theorem Cpu.run_load (c : Cpu) (image : List UInt8) :
    (load image).run c =
      if image.length ≤ memorySize then .ok () { c with memory := c.memory.place 0 image }
      else .error ⟨image.length, memorySize⟩ c := by
  have place : (0 : UInt8).toNat + image.length = image.length := Nat.zero_add _
  rw [load, run_loadAt, place]
  rfl

/-- A new machine with an image, if the image fits. -/
theorem Cpu.run_load_powerOn (mode : OverflowMode) (image : List UInt8) :
    (load image).run (powerOn mode) =
      if image.length ≤ memorySize then
        .ok () { powerOn mode with memory := Memory.zero.place 0 image }
      else .error ⟨image.length, memorySize⟩ (powerOn mode) :=
  run_load (powerOn mode) image

end Ls8
