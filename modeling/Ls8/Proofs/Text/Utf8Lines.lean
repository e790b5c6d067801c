import Mathlib.Algebra.Group.Nat.Defs
import Ls8.Proofs.Basic
import Ls8.Proofs.Text.Utf8

/-! # Decoding line by line

An ASCII byte ends whatever has begun before it and stands for itself, and nothing that takes more
than one byte is an ASCII character. So the scan begins anew behind every ASCII byte, and it makes no
difference whether a content is decoded as a whole or line by line. -/

namespace Ls8.Text.Utf8

/-! ## Sequences that have begun -/

/-- A sequence that is not continued by an ASCII byte, and that stands for a character beyond ASCII
however it is continued. -/
structure Pending.Beyond (p : Pending) : Prop where
  low : 0x80 ≤ p.low
  least : 128 ≤ p.extend p.low * 64 ^ (p.missing - 1)

theorem beyond_ofLead? {b : UInt8} {p : Pending} (lead : Pending.ofLead? b = some p) : p.Beyond := by
  have table : ∀ code < 256, ∀ p ∈ Pending.ofLead? (UInt8.ofNat code),
      0x80 ≤ p.low ∧ 128 ≤ p.extend p.low * 64 ^ (p.missing - 1) := by
    decide +kernel
  have found := table b.toNat b.toNat_lt p
  rw [UInt8.ofNat_toNat] at found
  obtain ⟨low, least⟩ := found lead
  exact ⟨low, least⟩

namespace Pending.Beyond

variable {p : Pending}

theorem extend_le (beyond : p.Beyond) {b : UInt8} (within : p.low ≤ b) :
    128 ≤ p.extend b * 64 ^ (p.missing - 1) := by
  have order := UInt8.le_iff_toNat_le.mp within
  have bits : p.extend p.low ≤ p.extend b := by
    unfold extend
    omega
  exact Nat.le_trans beyond.least (Nat.mul_le_mul_right _ bits)

/-- A sequence that goes on stays as it is. -/
theorem extend (beyond : p.Beyond) {b : UInt8} (within : p.low ≤ b) (more : ¬p.missing ≤ 1) :
    Beyond ⟨p.missing - 1, 0x80, 0xbf, p.extend b⟩ where
  low := UInt8.le_refl _
  least := by
    obtain ⟨k, count⟩ : ∃ k, p.missing = k + 2 := ⟨p.missing - 2, by omega⟩
    have least := beyond.extend_le within
    rw [count] at least ⊢
    have power : 64 ^ (k + 2 - 1) = 64 * 64 ^ k := Nat.pow_succ'
    have value : Pending.extend ⟨k + 1, 0x80, 0xbf, p.extend b⟩ 0x80 = p.extend b * 64 :=
      Nat.add_zero _
    rw [power, ← Nat.mul_assoc, ← value] at least
    exact least

/-- What the last byte of a sequence completes is no ASCII character. -/
theorem completes (beyond : p.Beyond) {b : UInt8} (within : p.low ≤ b) (last : p.missing ≤ 1) :
    128 ≤ p.extend b := by
  have least := beyond.extend_le within
  rwa [Nat.sub_eq_zero_of_le last, Nat.pow_zero, Nat.mul_one] at least

end Pending.Beyond

/-! ## One byte -/

/-- A sequence may have begun, as far as bytes can begin one. -/
def Begun (pending : Option Pending) : Prop := ∀ p ∈ pending, p.Beyond

theorem begun_none : Begun none := fun _ member => by contradiction

theorem begun_start (b : UInt8) : Begun (start b).2 := by
  rw [start]
  split
  · exact begun_none
  · cases lead : Pending.ofLead? b with
    | none => exact begun_none
    | some p =>
      rintro q ⟨rfl⟩
      exact beyond_ofLead? lead

theorem begun_advance {pending : Option Pending} (begun : Begun pending) (b : UInt8) :
    Begun (advance pending b).2 := by
  cases pending with
  | none => exact begun_start b
  | some p =>
    have beyond := begun p rfl
    rw [advance]
    split
    · next within =>
      rw [Bool.and_eq_true, decide_eq_true_eq, decide_eq_true_eq] at within
      split
      · exact begun_none
      · next more =>
        rintro q ⟨rfl⟩
        exact beyond.extend within.1 more
    · exact begun_start b

/-- A code beyond ASCII is that of a character beyond ASCII, or of none; then it gives the null. -/
theorem toNat_ofNat_of_beyond {code : Nat} (beyond : 128 ≤ code) :
    (Char.ofNat code).toNat = 0 ∨ 128 ≤ (Char.ofNat code).toNat := by
  by_cases valid : code.isValidChar
  · rw [Char.ofNat, dif_pos valid]
    exact .inr beyond
  · rw [Char.ofNat, dif_neg valid]
    exact .inl rfl

/-- Only its own byte completes an ASCII character. -/
theorem eq_of_mem_start {b : UInt8} {c : Char} (member : some c ∈ (start b).1) :
    b = UInt8.ofNat c.toNat := by
  rw [start] at member
  split at member
  · next ascii =>
    have table : ∀ code < 128, (Char.ofNat code).toNat = code := by decide
    obtain rfl := Option.some.inj (List.mem_singleton.mp member)
    rw [table b.toNat (UInt8.lt_iff_toNat_lt.mp ascii), UInt8.ofNat_toNat]
  · split at member
    · contradiction
    · simp at member

theorem eq_of_mem_advance {pending : Option Pending} (begun : Begun pending) {b : UInt8} {c : Char}
    (positive : 0 < c.toNat) (ascii : c.toNat < 128) (member : some c ∈ (advance pending b).1) :
    b = UInt8.ofNat c.toNat := by
  cases pending with
  | none => exact eq_of_mem_start member
  | some p =>
    rw [advance] at member
    split at member
    · next within =>
      rw [Bool.and_eq_true, decide_eq_true_eq, decide_eq_true_eq] at within
      split at member
      · next last =>
        have beyond := toNat_ofNat_of_beyond ((begun p rfl).completes within.1 last)
        rw [List.mem_singleton, Option.some.injEq] at member
        rw [← member] at beyond
        rcases beyond with null | high
        · exact absurd null (Nat.ne_of_gt positive)
        · exact absurd ascii (Nat.not_lt.mpr high)
      · exact absurd member List.not_mem_nil
    · rcases List.mem_cons.mp member with none | later
      · contradiction
      · exact eq_of_mem_start later

/-! ## Sequences of bytes -/

/-- An ASCII character is found only where its byte is. -/
theorem mem_of_mem_scanFrom {pending : Option Pending} (begun : Begun pending) {bytes : List UInt8}
    {c : Char} (positive : 0 < c.toNat) (ascii : c.toNat < 128)
    (member : some c ∈ scanFrom pending bytes) : UInt8.ofNat c.toNat ∈ bytes := by
  induction bytes generalizing pending with
  | nil => cases pending <;> simp [scanFrom] at member
  | cons b rest ih =>
    rw [scanFrom] at member
    rcases List.mem_append.mp member with here | later
    · exact eq_of_mem_advance begun positive ascii here ▸ List.mem_cons_self
    · exact List.mem_cons_of_mem b (ih (begun_advance begun b) later)

theorem scanFrom_some_ne_nil (p : Pending) (bytes : List UInt8) : scanFrom (some p) bytes ≠ [] := by
  induction bytes generalizing p with
  | nil => exact List.cons_ne_nil none []
  | cons b rest ih =>
    rw [scanFrom, advance]
    split
    · split
      · exact List.cons_ne_nil _ _
      · exact ih _
    · exact List.cons_ne_nil none _

theorem scan_eq_nil_iff (bytes : List UInt8) : scan bytes = [] ↔ bytes = [] := by
  cases bytes with
  | nil => exact iff_of_true rfl rfl
  | cons b rest =>
    apply iff_of_false ?_ (List.cons_ne_nil b rest)
    rw [scan, scanFrom, advance, start]
    split
    · exact List.cons_ne_nil _ _
    · cases Pending.ofLead? b with
      | none => exact List.cons_ne_nil none _
      | some p => exact scanFrom_some_ne_nil p rest

/-- An ASCII byte stands for itself, whatever is around it. -/
theorem scanFrom_append_ascii {pending : Option Pending} (begun : Begun pending) {b : UInt8}
    (ascii : b < 0x80) (bytes rest : List UInt8) :
    scanFrom pending (bytes ++ b :: rest) =
      scanFrom pending bytes ++ some (Char.ofNat b.toNat) :: scan rest := by
  induction bytes generalizing pending with
  | nil =>
    cases pending with
    | none => exact scan_cons_ascii ascii rest
    | some p =>
      have outside : ¬(p.low ≤ b && b ≤ p.high) = true := by
        have low := UInt8.le_iff_toNat_le.mp (begun p rfl).low
        have small := UInt8.lt_iff_toNat_lt.mp ascii
        rw [Bool.and_eq_true, decide_eq_true_eq, UInt8.le_iff_toNat_le]
        omega
      rw [List.nil_append, scanFrom, scanFrom, advance, if_neg outside, start, if_pos ascii]
      rfl
  | cons a bytes ih =>
    rw [List.cons_append, scanFrom, scanFrom, ih (begun_advance begun a), List.append_assoc]

theorem readsLineEnds_scan : ReadsLineEnds scan 10 13 (some '\n') (some '\r') where
  nil_iff := scan_eq_nil_iff
  lineFeed s rest := scanFrom_append_ascii begun_none (by decide) s rest
  carriageReturn s rest := scanFrom_append_ascii begun_none (by decide) s rest
  lineFeed_only s := mem_of_mem_scanFrom begun_none (by decide) (by decide)
  carriageReturn_only s := mem_of_mem_scanFrom begun_none (by decide) (by decide)

/-! ## Lines -/

theorem readsLineEnds_some : ReadsLineEnds (List.map some) '\n' '\r' (some '\n') (some '\r') where
  nil_iff s := List.map_eq_nil_iff
  lineFeed s rest := List.map_append
  carriageReturn s rest := List.map_append
  lineFeed_only s member := by simpa using member
  carriageReturn_only s member := by simpa using member

theorem exists_map_some {items : List (Option Char)} (formed : none ∉ items) :
    ∃ text : List Char, items = text.map some := by
  induction items with
  | nil => exact ⟨[], rfl⟩
  | cons item rest ih =>
    obtain ⟨text, rfl⟩ := ih fun member => formed (List.mem_cons_of_mem item member)
    cases item with
    | none => exact absurd List.mem_cons_self formed
    | some c => exact ⟨c :: text, rfl⟩

theorem mapM_id_map_some (text : List Char) : (text.map some).mapM id = some text := by
  rw [List.mapM_map]
  exact (mapM_eq_some_map (fun _ => rfl) text).trans (congrArg some text.map_id)

/-- A content is text exactly when all its lines are, and these are then the lines of the text. -/
theorem mapM_decode?_linesBy (content : List UInt8) :
    (linesBy 10 13 content).mapM decode? = (decode? content).map lines := by
  have scanned : (linesBy 10 13 content).mapM decode? =
      (linesBy (some '\n') (some '\r') (scan content)).mapM (·.mapM id) := by
    rw [readsLineEnds_scan.linesBy_map, List.mapM_map]
    rfl
  rw [scanned, decode?]
  generalize scan content = items
  by_cases illFormed : none ∈ items
  · obtain ⟨line, among, inside⟩ := exists_mem_linesBy illFormed (Option.some_ne_none '\n').symm
      (Option.some_ne_none '\r').symm
    rw [mapM_eq_none_of_mem illFormed rfl, mapM_eq_none_of_mem among (mapM_eq_none_of_mem inside rfl)]
    rfl
  · obtain ⟨text, rfl⟩ := exists_map_some illFormed
    rw [readsLineEnds_some.linesBy_map, List.mapM_map, mapM_id_map_some]
    exact (mapM_eq_some_map mapM_id_map_some (lines text)).trans (congrArg some (List.map_id _))

/-! ## Lenient decoding -/

/-- What stands before a line feed is decoded apart from what stands behind it. -/
theorem decodeLenient_append_lineFeed (line rest : List UInt8) :
    decodeLenient (line ++ 10 :: rest) = decodeLenient line ++ '\n' :: decodeLenient rest := by
  have scanned : scan (line ++ 10 :: rest) = scan line ++ some '\n' :: scan rest :=
    scanFrom_append_ascii begun_none (by decide) line rest
  simp only [decodeLenient, scanned, List.map_append, List.map_cons, Option.getD_some]

/-- A byte alone is an ASCII character or none, whatever it might begin. -/
theorem decodeLenient_singleton (b : UInt8) :
    decodeLenient [b] = [if b < 0x80 then Char.ofNat b.toNat else '\uFFFD'] := by
  by_cases ascii : b < 0x80
  · rw [decodeLenient, scan_cons_ascii ascii, if_pos ascii]
    rfl
  · rw [if_neg ascii, decodeLenient, scan, scanFrom, advance, start, if_neg ascii]
    cases Pending.ofLead? b <;> rfl

end Ls8.Text.Utf8
