import Ls8.Proofs.Assembly.Layout
import Ls8.Proofs.Machine.Cells
import Ls8.Proofs.Machine.Requests

/-! # Images in memory

An image that ends within the memory is loaded as it is: its bytes stand from its address on, and
nothing else has changed. An image that does not is refused with its length and the room there was, and
nothing has changed at all. So two images that do not meet can be loaded in either order, whether they
are refused or not; and the assembler makes no image that a machine would refuse at address 0. -/

namespace Ls8

variable {σ : Type}

namespace Memory

variable {base other address : UInt8} {image code : List UInt8}

/-! ## Addresses -/

theorem base_add_ofNat (base : UInt8) (i : Nat) :
    base + UInt8.ofNat i = UInt8.ofNat (base.toNat + i) := by
  rw [UInt8.ofNat_add, UInt8.ofNat_toNat]

/-- The addresses of an image that ends within the memory do not wrap. -/
theorem toNat_base_add_ofNat (fits : base.toNat + image.length ≤ memorySize) {i : Nat}
    (within : i < image.length) : (base + UInt8.ofNat i).toNat = base.toNat + i := by
  rw [base_add_ofNat]
  exact UInt8.toNat_ofNat_of_lt' (Nat.lt_of_lt_of_le (Nat.add_lt_add_left within _) fits)

/-! ## Images placed -/

/-- What a cell holds after an image has been placed depends on no other cell. -/
theorem read_place_congr {m n : Memory} (same : m.read address = n.read address) (base : UInt8)
    (image : List UInt8) : (m.place base image).read address = (n.place base image).read address := by
  induction image generalizing m n base with
  | nil => exact same
  | cons byte rest ih =>
    apply ih
    rw [read_write, read_write, same]

/-- Images that have no cell in common can be placed in either order. -/
theorem place_comm (apart : ∀ i < image.length, ∀ j < code.length,
    base + UInt8.ofNat i ≠ other + UInt8.ofNat j) (m : Memory) :
    (m.place base image).place other code = (m.place other code).place base image := by
  apply ext_read
  intro address
  by_cases inside : ∃ i < image.length, base + UInt8.ofNat i = address
  · obtain ⟨i, within, rfl⟩ := inside
    have free (n : Memory) :
        (n.place other code).read (base + UInt8.ofNat i) = n.read (base + UInt8.ofNat i) :=
      read_place_of_outside fun j before => (apart i within j before).symm
    rw [free]
    exact read_place_congr (free m).symm base image
  · have outside : ∀ i < image.length, base + UInt8.ofNat i ≠ address := by simpa using inside
    have free (n : Memory) : (n.place base image).read address = n.read address :=
      read_place_of_outside outside
    rw [free]
    exact read_place_congr (free m) other code

/-! ## Images loaded -/

/-- An image is placed in a memory, and is all that is changed there. -/
structure Holds (m : Memory) (base : UInt8) (image : List UInt8) (next : Memory) : Prop where
  bytes : ∀ i byte, image[i]? = some byte → next.read (UInt8.ofNat (base.toNat + i)) = byte
  others : ∀ address, (∀ i < image.length, address.toNat ≠ base.toNat + i) →
    next.read address = m.read address

theorem holds_place (fits : base.toNat + image.length ≤ memorySize) (m : Memory) :
    m.Holds base image (m.place base image) where
  bytes i byte found := by
    rw [← base_add_ofNat]
    exact read_place (by omega) found m
  others address outside := by
    apply read_place_of_outside
    intro i within same
    apply outside i within
    rw [← same, toNat_base_add_ofNat fits within]

end Memory

namespace Cpu

variable (host : Host σ) (c : Cpu) (s : σ)

/-- Two requests to load images that have no cell in common. -/
theorem serveAll_loadAt_comm {base other : UInt8} {image code : List UInt8}
    (apart : ∀ i < image.length, ∀ j < code.length, base.toNat + i ≠ other.toNat + j) :
    let one := c.serveAll host s [.loadAt base image, .loadAt other code]
    let two := c.serveAll host s [.loadAt other code, .loadAt base image]
    two.cpu = one.cpu ∧ two.host = one.host ∧ two.answers = one.answers.reverse := by
  intro one two
  simp only [one, two, serveAll, serve_loadAt]
  by_cases fits : base.toNat + image.length ≤ memorySize
  · by_cases fits' : other.toNat + code.length ≤ memorySize
    · have unwrapped : ∀ i < image.length, ∀ j < code.length,
          base + UInt8.ofNat i ≠ other + UInt8.ofNat j := by
        intro i within j within' same
        apply apart i within j within'
        rw [← Memory.toNat_base_add_ofNat fits within, same,
          Memory.toNat_base_add_ofNat fits' within']
      simp [fits, fits', Memory.place_comm unwrapped]
    · simp [fits, fits']
  · by_cases fits' : other.toNat + code.length ≤ memorySize
    · simp [fits, fits']
    · simp [fits, fits']

/-- Loading is exact, and all or nothing. An image is loaded exactly if it ends within the memory. Then
every byte of it stands in its cell, and no other cell and nothing else of the machine is changed; else
the error tells the length of the image and the room from its address on, and nothing at all is changed.
What the assembler makes is loaded at address 0. Two images without a cell in common have the same
answers and leave the same machine in either order. -/
theorem loading_exact (base : UInt8) (image : List UInt8) :
    (if base.toNat + image.length ≤ memorySize then
      ∃ next, (Memory.load base image).run c.memory = .ok () next ∧
        c.memory.Holds base image next ∧
        c.serve host s (.loadAt base image) = ⟨.loaded (.ok ()), { c with memory := next }, s⟩
    else
      (Memory.load base image).run c.memory =
          .error ⟨image.length, memorySize - base.toNat⟩ c.memory ∧
        c.serve host s (.loadAt base image) =
          ⟨.loaded (.error ⟨image.length, memorySize - base.toNat⟩), c, s⟩) ∧
    (∀ source bytes, assemble source = .ok bytes → ∃ next, (load bytes).run c = .ok () next) ∧
    ∀ (other : UInt8) (code : List UInt8),
      (∀ i < image.length, ∀ j < code.length, base.toNat + i ≠ other.toNat + j) →
        let one := c.serveAll host s [.loadAt base image, .loadAt other code]
        let two := c.serveAll host s [.loadAt other code, .loadAt base image]
        two.cpu = one.cpu ∧ two.host = one.host ∧ two.answers = one.answers.reverse := by
  refine ⟨?_, ?_, fun other code => serveAll_loadAt_comm host c s⟩
  · rw [serve_loadAt, Memory.run_load]
    by_cases fits : base.toNat + image.length ≤ memorySize
    · simp only [if_pos fits]
      exact ⟨_, rfl, Memory.holds_place fits c.memory, rfl⟩
    · simp only [if_neg fits]
      exact ⟨trivial, trivial⟩
  · intro source bytes assembled
    have fits : (0 : UInt8).toNat + bytes.length ≤ memorySize := by
      rw [UInt8.toNat_zero, Nat.zero_add]
      exact Assembly.length_of_assemble assembled
    rw [load, run_loadAt, if_pos fits]
    exact ⟨_, rfl⟩

/-- Two bytes fill the memory to its last cell, and three do not fit there. An assembled image can be
loaded at address 0 before them or after them. -/
theorem last_cells_loaded :
    let c := powerOn .trap
    let answers := (c.serveAll Host.collector #[] [.loadAt 254 [0xaa, 0xbb], .loadAt 0 [0x01]]).answers
    (∃ next, (Memory.load 254 [0xaa, 0xbb]).run c.memory = .ok () next ∧ next.read 255 = 0xbb ∧
        next.read 0 = 0) ∧
      (Memory.load 254 [1, 2, 3]).run c.memory = .error ⟨3, 2⟩ c.memory ∧
      (assemble "HLT" = .ok [0x01] ∧ ∃ next, (load [0x01]).run c = .ok () next) ∧
      (c.serveAll Host.collector #[] [.loadAt 0 [0x01], .loadAt 254 [0xaa, 0xbb]]).answers =
        answers.reverse := by
  intro c answers
  obtain ⟨loads, assembles, commutes⟩ := loading_exact Host.collector c #[] 254 [0xaa, 0xbb]
  obtain ⟨refused, -⟩ := loading_exact Host.collector c #[] 254 [1, 2, 3]
  rw [if_pos (by decide)] at loads
  rw [if_neg (by decide)] at refused
  obtain ⟨next, loaded, holds, -⟩ := loads
  have halt : assemble "HLT" = .ok [0x01] := by decide
  refine ⟨⟨next, loaded, holds.bytes 1 0xbb rfl, ?_⟩, refused.1, ⟨halt, assembles "HLT" _ halt⟩, ?_⟩
  · exact holds.others 0 (by decide)
  · exact (commutes 0 [0x01] (by decide)).2.2

end Cpu

end Ls8
