import Mathlib.Data.List.Induction
import Mathlib.Tactic.SplitIfs
import Ls8.Proofs.Text.LetterCase
import Ls8.Proofs.Text.Numeral

/-! # Digits and the numbers that they write

A run of digits writes a number: the last digit counts once, and what stands before it counts as often as
the radix says. `readNat?` reads exactly the runs of digits, in either letter case and of any length, and
gives the numbers that they write; `readInt?` reads them behind at most one sign. -/

namespace Ls8.Text

/-- A character is a digit of a radix, in either letter case. -/
def IsDigit (radix : Nat) (c : Char) (digit : Nat) : Prop :=
  digit < radix ∧ c.toLower = digit.digitChar

/-- A run of digits, which is not empty, writes a number. -/
inductive Digits (radix : Nat) : List Char → Nat → Prop
  | single {c : Char} {digit : Nat} (last : IsDigit radix c digit) : Digits radix [c] digit
  | snoc {s : List Char} {n : Nat} {c : Char} {digit : Nat} (front : Digits radix s n)
      (last : IsDigit radix c digit) : Digits radix (s ++ [c]) (n * radix + digit)

/-! ## Single digits -/

theorem ascii_of_le {c d : Char} (below : c ≤ d) (ascii : d.toNat < 128) : c.toNat < 128 :=
  Nat.lt_of_le_of_lt (UInt32.le_iff_toNat_le.mp below) ascii

theorem ascii_of_mem_capitals {c : Char} (capital : c ∈ capitals) : c.toNat < 128 := by
  have all : capitals.all (·.toNat < 128) = true := by decide
  simpa using List.all_eq_true.mp all c capital

/-- A value does not depend on the radix, as long as the radix has it. -/
theorem digitValue?_eq_some_iff_of_le {radix : Nat} (high : radix ≤ 16) {c : Char} {digit : Nat} :
    digitValue? radix c = some digit ↔ digit < radix ∧ digitValue? 16 c = some digit := by
  unfold digitValue?
  split_ifs <;> simp <;> omega

theorem ascii_of_digitValue? {c : Char} {digit : Nat} (value : digitValue? 16 c = some digit) :
    c.toNat < 128 := by
  unfold digitValue? at value
  by_cases decimal : '0' ≤ c ∧ c ≤ '9'
  · exact ascii_of_le decimal.2 (by decide)
  · by_cases small : 'a' ≤ c ∧ c ≤ 'z'
    · exact ascii_of_le small.2 (by decide)
    · by_cases large : 'A' ≤ c ∧ c ≤ 'Z'
      · exact ascii_of_le large.2 (by decide)
      · simp [decimal, small, large] at value

theorem digitValue?_eq_some_iff {radix : Nat} (high : radix ≤ 16) {c : Char} {digit : Nat} :
    digitValue? radix c = some digit ↔ IsDigit radix c digit := by
  rw [digitValue?_eq_some_iff_of_le high, IsDigit]
  refine and_congr_right fun small => ?_
  by_cases ascii : c.toNat < 128
  · have table : ∀ code < 128, ∀ digit < 16, digitValue? 16 (Char.ofNat code) = some digit ↔
        (Char.ofNat code).toLower = digit.digitChar := by decide +kernel
    obtain ⟨code, below, rfl⟩ := exists_code ascii
    exact table code below digit (by omega)
  · refine iff_of_false (mt ascii_of_digitValue? ascii) fun same => ?_
    have table : ∀ digit < 16, digit.digitChar.toNat < 128 := by decide
    have unchanged : c.toLower = c :=
      (toLower_eq_self_or_mem c).resolve_right (mt ascii_of_mem_capitals ascii)
    rw [← unchanged, same] at ascii
    exact ascii (table digit (by omega))

/-! ## Runs of digits -/

theorem readNat?_singleton (radix : Nat) (c : Char) : readNat? radix [c] = digitValue? radix c := by
  unfold readNat?
  cases value : digitValue? radix c with
  | none => simp [value]
  | some digit => simp [value, ofDigits]

theorem readNat?_concat {radix : Nat} {s : List Char} (filled : s ≠ []) (c : Char) :
    readNat? radix (s ++ [c]) =
      (readNat? radix s).bind fun n => (digitValue? radix c).map fun digit => n * radix + digit := by
  have front : s.isEmpty = false := List.isEmpty_eq_false_iff.mpr filled
  have whole : (s ++ [c]).isEmpty = false := by simp
  unfold readNat?
  rw [front, whole, List.mapM_append]
  cases s.mapM (digitValue? radix) with
  | none => simp
  | some digits =>
    cases value : digitValue? radix c with
    | none => simp [value]
    | some digit => simp [value, ofDigits_append_singleton]

/-- Reading an unsigned numeral accepts exactly the runs of digits. -/
theorem readNat?_eq_some_iff {radix : Nat} (high : radix ≤ 16) {s : List Char} {n : Nat} :
    readNat? radix s = some n ↔ Digits radix s n := by
  constructor
  · intro read
    induction s using List.reverseRecOn generalizing n with
    | nil => contradiction
    | append_singleton s c ih =>
      by_cases empty : s = []
      · subst empty
        rw [List.nil_append, readNat?_singleton, digitValue?_eq_some_iff high] at read
        exact .single read
      · rw [readNat?_concat empty, Option.bind_eq_some_iff] at read
        obtain ⟨front, readFront, value⟩ := read
        obtain ⟨digit, last, rfl⟩ := Option.map_eq_some_iff.mp value
        exact .snoc (ih readFront) ((digitValue?_eq_some_iff high).mp last)
  · intro written
    induction written with
    | single last => rwa [readNat?_singleton, digitValue?_eq_some_iff high]
    | @snoc s n c digit front last ih =>
      have filled : s ≠ [] := by
        rintro rfl
        contradiction
      rw [readNat?_concat filled, ih, (digitValue?_eq_some_iff high).mpr last]
      rfl

theorem Digits.ne_nil {radix : Nat} {s : List Char} {n : Nat} (written : Digits radix s n) :
    s ≠ [] := by
  cases written with
  | single last => exact List.cons_ne_nil _ _
  | snoc front last => exact List.append_ne_nil_of_right_ne_nil _ (List.cons_ne_nil _ _)

theorem Digits.exists_isDigit_of_mem {radix : Nat} {s : List Char} {n : Nat}
    (written : Digits radix s n) {c : Char} (member : c ∈ s) : ∃ digit, IsDigit radix c digit := by
  induction written with
  | single last =>
    rw [List.mem_singleton.mp member]
    exact ⟨_, last⟩
  | snoc front last ih =>
    obtain before | here := List.mem_append.mp member
    · exact ih before
    · rw [List.mem_singleton.mp here]
      exact ⟨_, last⟩

/-- A decimal digit has no letter case. -/
theorem isDigit_ten_iff {c : Char} {digit : Nat} :
    IsDigit 10 c digit ↔ digit < 10 ∧ c = digit.digitChar := by
  refine and_congr_right fun small => ?_
  have table : ∀ digit < 10, digit.digitChar ∉ capitals ∧ digit.digitChar ∉ lower capitals := by
    decide
  exact toLower_eq_iff (table digit small) c

/-- A decimal numeral of a number below ten is one digit with zeros in front. -/
theorem digits_ten_iff_of_lt {s : List Char} {n : Nat} (small : n < 10) :
    Digits 10 s n ↔ ∃ zeros, s = List.replicate zeros '0' ++ [n.digitChar] := by
  constructor
  · intro written
    induction written with
    | single last => exact ⟨0, congrArg (fun c => [c]) (isDigit_ten_iff.mp last).2⟩
    | @snoc s n c digit front last ih =>
      obtain rfl : n = 0 := by omega
      obtain ⟨zeros, rfl⟩ := ih (by decide)
      refine ⟨zeros + 1, ?_⟩
      rw [List.replicate_succ', (isDigit_ten_iff.mp last).2, Nat.zero_mul, Nat.zero_add]
      rfl
  · rintro ⟨zeros, rfl⟩
    have read := readNat?_replicate_zero_append (by decide : 1 < 10) (by decide) zeros n
    rw [Nat.toDigits_of_lt_base small] at read
    exact (readNat?_eq_some_iff (by decide)).mp read

/-! ## Signs -/

/-- A run of digits behind at most one sign writes an integer. -/
inductive SignedDigits (radix : Nat) : List Char → Int → Prop
  | unsigned {s : List Char} {n : Nat} (written : Digits radix s n) : SignedDigits radix s n
  | plus {s : List Char} {n : Nat} (written : Digits radix s n) : SignedDigits radix ('+' :: s) n
  | minus {s : List Char} {n : Nat} (written : Digits radix s n) : SignedDigits radix ('-' :: s) (-n)

/-- Reading a signed numeral accepts exactly the runs of digits behind at most one sign. -/
theorem readInt?_eq_some_iff {radix : Nat} (high : radix ≤ 16) {s : List Char} {value : Int} :
    readInt? radix s = some value ↔ SignedDigits radix s value := by
  constructor
  · intro read
    cases s with
    | nil => contradiction
    | cons c rest =>
      by_cases minus : c = '-'
      · rw [minus, readInt?] at read
        cases digits : readNat? radix rest with
        | none => simp [digits] at read
        | some n =>
          obtain rfl : -(n : Int) = value := by simpa [digits] using read
          rw [minus]
          exact .minus ((readNat?_eq_some_iff high).mp digits)
      · by_cases plus : c = '+'
        · rw [plus, readInt?] at read
          cases digits : readNat? radix rest with
          | none => simp [digits] at read
          | some n =>
            obtain rfl : (n : Int) = value := by simpa [digits] using read
            rw [plus]
            exact .plus ((readNat?_eq_some_iff high).mp digits)
        · rw [readInt?_cons minus plus] at read
          cases digits : readNat? radix (c :: rest) with
          | none => simp [digits] at read
          | some n =>
            obtain rfl : (n : Int) = value := by simpa [digits] using read
            exact .unsigned ((readNat?_eq_some_iff high).mp digits)
  · rintro (written | written | written)
    · exact readInt?_of_readNat? ((readNat?_eq_some_iff high).mpr written)
    · rw [readInt?, (readNat?_eq_some_iff high).mpr written]
      rfl
    · rw [readInt?, (readNat?_eq_some_iff high).mpr written]
      rfl

/-- A 64-bit integer. -/
def IsInt64 (value : Int) : Prop := -int64Bound ≤ value ∧ value < int64Bound

instance (value : Int) : Decidable (IsInt64 value) := inferInstanceAs (Decidable (_ ∧ _))

/-- Reading a 64-bit integer reads a signed numeral of any length and puts the limit on its value. -/
theorem readInt64?_eq_some_iff {radix : Nat} (high : radix ≤ 16) {s : List Char} {value : Int} :
    readInt64? radix s = some value ↔ SignedDigits radix s value ∧ IsInt64 value := by
  rw [readInt64?, Option.filter_eq_some_iff, readInt?_eq_some_iff high, decide_eq_true_eq]
  exact Iff.rfl

/-- No digit is a sign. -/
theorem Digits.head_ne {radix : Nat} (high : radix ≤ 16) {c : Char} {s : List Char} {n : Nat}
    (written : Digits radix (c :: s) n) : c ≠ '+' ∧ c ≠ '-' := by
  obtain ⟨digit, small, form⟩ := written.exists_isDigit_of_mem List.mem_cons_self
  have table : ∀ digit < 16, digit.digitChar ≠ '+' ∧ digit.digitChar ≠ '-' := by decide
  obtain ⟨noPlus, noMinus⟩ := table digit (by omega)
  refine ⟨?_, ?_⟩
  · rintro rfl
    exact noPlus form.symm
  · rintro rfl
    exact noMinus form.symm

/-- Reading a number below a bound accepts the decimal numerals of these numbers, also behind a plus. -/
theorem readBelow?_eq_some_iff {bound : Nat} {s : List Char} {n : Nat} :
    readBelow? bound s = some n ↔
      n < bound ∧ (Digits 10 s n ∨ ∃ rest, s = '+' :: rest ∧ Digits 10 rest n) := by
  cases s with
  | nil =>
    refine iff_of_false (by simp [readBelow?, readNat?]) ?_
    rintro ⟨-, written | ⟨rest, impossible, -⟩⟩
    · exact written.ne_nil rfl
    · contradiction
  | cons c rest =>
    by_cases plus : c = '+'
    · subst plus
      have unsigned : ¬Digits 10 ('+' :: rest) n := fun written =>
        (written.head_ne (by decide)).1 rfl
      have sign : readBelow? bound ('+' :: rest) = (readNat? 10 rest).filter (· < bound) := rfl
      rw [sign, Option.filter_eq_some_iff, readNat?_eq_some_iff (by decide)]
      simp [unsigned, and_comm]
    · have plain : readBelow? bound (c :: rest) = (readNat? 10 (c :: rest)).filter (· < bound) := by
        simp [readBelow?, plus]
      rw [plain, Option.filter_eq_some_iff, readNat?_eq_some_iff (by decide)]
      simp [plus, and_comm]

end Ls8.Text
