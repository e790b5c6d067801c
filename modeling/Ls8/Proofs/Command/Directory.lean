import Ls8.Command.Directory
import Ls8.Proofs.Basic
import Ls8.Proofs.Text.Lines

/-! # Files written and read

Where a path leads depends on names alone, not on what the files hold. So a file that has been written
is read back as it was written, and every file whose path ends differently is read as before. -/

namespace Ls8.Directory

variable {d : Directory} {path : String} {content : List UInt8}

/-! ## Paths to files -/

theorem child_eq_entry {place : Place} {piece name : String}
    (leads : place.child piece = .entry name) : piece = name := by
  have unlisted {table : List (String × Place)} {default : Place}
      (known : ∀ row ∈ table, row.2.isFree = false) (free : default ≠ .entry name) :
      (table.lookup piece).getD default ≠ .entry name := by
    cases found : table.lookup piece with
    | none => exact free
    | some place =>
      obtain ⟨front, rest, rfl, -⟩ := List.lookup_eq_some_iff.mp found
      rintro rfl
      have listed := known (piece, .entry name) (by simp)
      contradiction
  cases place with
  | here => exact Place.entry.inj leads
  | root => exact absurd leads (unlisted (by decide) (by simp))
  | devices => exact absurd leads (unlisted (by decide) (by simp))
  | processes => exact absurd leads (unlisted (by decide) (by simp))
  | process => exact absurd leads (unlisted (by decide) (by simp))
  | streams => exact absurd leads (unlisted (by decide) (by simp))
  | top | device | entry | unseen | absent => contradiction

theorem parent_ne_entry (place : Place) (name : String) : place.parent ≠ .entry name := by
  cases place <;> simp [Place.parent]

/-- A piece of a path that leads to a file is the name of the file. -/
theorem walk_eq_entry {place : Place} {piece : List Char} {name : String}
    (leads : d.walk place piece = .ok (.entry name)) : piece = name.toList := by
  rw [walk] at leads
  split at leads
  · contradiction
  · next free =>
    split at leads
    · -- A file is no place from which a path goes on.
      cases leads
      contradiction
    · split at leads
      · exact absurd (Except.ok.inj leads) (parent_ne_entry place name)
      · simp only at leads
        split at leads
        · contradiction
        · rw [← child_eq_entry (Except.ok.inj leads), String.toList_ofList]

theorem suffix_iff_of_foldlM_walk {place : Place} {path : List Char} {name : String}
    (leads : (Text.pieces (· == '/') path).foldlM d.walk place = .ok (.entry name)) :
    ∀ part : List Char, '/' ∉ part → (part <:+ path ↔ part <:+ name.toList) := by
  intro part plain
  obtain ⟨others, last, cut, ends⟩ := Text.exists_last_piece (· == '/') path
  rw [cut, List.foldlM_append] at leads
  obtain ⟨before, -, final⟩ := bind_eq_ok_iff.mp leads
  rw [List.foldlM_cons] at final
  obtain ⟨place, reached, same⟩ := bind_eq_ok_iff.mp final
  cases same
  rw [← walk_eq_entry reached]
  apply ends part
  intro c member
  rw [beq_eq_false_iff_ne]
  rintro rfl
  exact plain member

/-- The path of a file ends as the name of the file does. -/
theorem suffix_iff_of_resolve {path : List Char} {name : String}
    (leads : d.resolve path = .ok (.entry name)) :
    ∀ part : List Char, '/' ∉ part → (part <:+ path ↔ part <:+ name.toList) := by
  intro part plain
  unfold resolve at leads
  split at leads
  · contradiction
  · next path =>
    rw [← suffix_iff_of_foldlM_walk leads part plain, List.suffix_cons_iff, or_iff_right]
    rintro rfl
    exact plain List.mem_cons_self
  · exact suffix_iff_of_foldlM_walk leads part plain

/-! ## Paths in another directory -/

/-- What the files hold does not matter for where a path leads. -/
theorem walk_of_walk (e : Directory) {place next : Place} {piece : List Char}
    (leads : d.walk place piece = .ok next) : e.walk place piece = .ok next := by
  have free : d.obstacle? place = none → e.obstacle? place = none := by
    cases place <;> simp [obstacle?]
  rw [walk] at leads ⊢
  split at leads
  · contradiction
  · next none => rwa [free none]

theorem foldlM_walk_of_foldlM_walk (e : Directory) {place next : Place} {pieces : List (List Char)}
    (leads : pieces.foldlM d.walk place = .ok next) : pieces.foldlM e.walk place = .ok next := by
  induction pieces generalizing place with
  | nil => exact leads
  | cons piece rest ih =>
    rw [List.foldlM_cons] at leads ⊢
    obtain ⟨between, first, others⟩ := bind_eq_ok_iff.mp leads
    exact bind_eq_ok_iff.mpr ⟨between, walk_of_walk e first, ih others⟩

theorem resolve_of_resolve (e : Directory) {path : List Char} {place : Place}
    (leads : d.resolve path = .ok place) : e.resolve path = .ok place := by
  unfold resolve at leads ⊢
  split at leads
  · contradiction
  · exact foldlM_walk_of_foldlM_walk e leads
  · exact foldlM_walk_of_foldlM_walk e leads

/-! ## Reading and writing -/

theorem checkPath_eq_ok {found : List Char} (short : checkPath path = .ok found) :
    found = path.toList := by
  rw [checkPath] at short
  split at short
  · contradiction
  · exact (Except.ok.inj short).symm

/-- What is read from a path is the content of a file or of a device. -/
theorem read_cases (read : d.read path = .ok content) :
    checkPath path = .ok path.toList ∧
      ((∃ name, d.resolve path.toList = .ok (.entry name) ∧ d.find? name = some content) ∨
        ∃ device : Device, d.resolve path.toList = .ok (.device device) ∧
          device.read = .ok content) := by
  rw [Directory.read] at read
  obtain ⟨found, short, read⟩ := bind_eq_ok_iff.mp read
  obtain rfl := checkPath_eq_ok short
  obtain ⟨place, leads, read⟩ := bind_eq_ok_iff.mp read
  refine ⟨short, ?_⟩
  split at read
  · next name =>
    split at read
    · next stored =>
      cases read
      exact .inl ⟨name, leads, stored⟩
    · contradiction
  · next device => exact .inr ⟨device, leads, read⟩
  · contradiction
  · contradiction
  · contradiction

theorem read_entry {name : String} (short : checkPath path = .ok path.toList)
    (leads : d.resolve path.toList = .ok (.entry name)) (stored : d.find? name = some content) :
    d.read path = .ok content := by
  rw [Directory.read, short, ok_bind, leads, ok_bind]
  simp only [stored]
  rfl

theorem read_device {device : Device} (short : checkPath path = .ok path.toList)
    (leads : d.resolve path.toList = .ok (.device device)) : d.read path = device.read := by
  rw [Directory.read, short, ok_bind, leads, ok_bind]

/-- What is written changes no file but the one at the path. -/
theorem write_cases {written : Written} (write : d.write path content = .ok written) :
    checkPath path = .ok path.toList ∧
      ((∃ name, d.resolve path.toList = .ok (.entry name) ∧
          written = { directory := ⟨put name content d.files⟩ }) ∨
        (∀ name, d.resolve path.toList ≠ .ok (.entry name)) ∧ written.directory = d) := by
  rw [Directory.write] at write
  obtain ⟨found, short, write⟩ := bind_eq_ok_iff.mp write
  obtain rfl := checkPath_eq_ok short
  refine ⟨short, ?_⟩
  split at write
  · obtain ⟨-, -, write⟩ := bind_eq_ok_iff.mp write
    contradiction
  · obtain ⟨place, leads, write⟩ := bind_eq_ok_iff.mp write
    rw [leads]
    split at write
    · next name =>
      cases write
      exact .inl ⟨name, rfl, rfl⟩
    · cases write
      exact .inr ⟨by simp, rfl⟩
    · contradiction
    · refine .inr ⟨by simp, ?_⟩
      split at write
      · contradiction
      · cases write
        rfl
      · cases write
        rfl
      · cases write
        rfl
    · contradiction

/-- A file that has been written is read back as it was written. -/
theorem read_of_write {written : Written} {name : String}
    (write : d.write path content = .ok written)
    (file : d.resolve path.toList = .ok (.entry name)) :
    written.directory.read path = .ok content := by
  obtain ⟨short, ⟨other, leads, rfl⟩ | ⟨absent, -⟩⟩ := write_cases write
  · rw [file] at leads
    cases leads
    apply read_entry short (resolve_of_resolve _ file)
    rw [find?, lookup_put, if_pos rfl]
  · exact absurd file (absent name)

/-- What is read from a path with another ending than that of what has been written. -/
theorem read_of_write_other {written : Written} {target : String} {old : List UInt8}
    (read : d.read path = .ok old) (write : d.write target content = .ok written)
    {part : List Char} (plain : '/' ∉ part) (ends : part <:+ path.toList)
    (other : ¬part <:+ target.toList) : written.directory.read path = .ok old := by
  obtain ⟨-, ⟨name, leads, rfl⟩ | ⟨-, same⟩⟩ := write_cases write
  · obtain ⟨short, ⟨source, found, stored⟩ | ⟨device, found, answer⟩⟩ := read_cases read
    · have different : source ≠ name := by
        rintro rfl
        rw [suffix_iff_of_resolve found part plain] at ends
        exact other ((suffix_iff_of_resolve leads part plain).mpr ends)
      apply read_entry short (resolve_of_resolve _ found)
      rw [find?, lookup_put, if_neg different]
      exact stored
    · rw [read_device short (resolve_of_resolve _ found), answer]
  · rwa [same]

end Ls8.Directory
