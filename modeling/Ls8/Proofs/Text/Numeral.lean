import Ls8.Text.Numeral

/-! # Numerals read back

What `Nat.toDigits` writes, `readNat?` reads back, with or without zeros in front. The reading takes
the digits one by one and multiplies up, so the proof goes along the last digit. -/

namespace Ls8.Text

theorem digitValue?_digitChar {radix digit : Nat} (high : radix ≤ 16) (low : digit < radix) :
    digitValue? radix digit.digitChar = some digit := by
  have table : ∀ radix ≤ 16, ∀ digit < radix,
      digitValue? radix digit.digitChar = some digit := by decide
  exact table radix high digit low

/-- The characters of a numeral are digits of its radix. -/
theorem exists_digitChar_of_mem_toDigits {radix : Nat} (low : 1 < radix) {n : Nat} {c : Char}
    (member : c ∈ Nat.toDigits radix n) : ∃ digit < radix, c = digit.digitChar := by
  induction n using Nat.strongRecOn with
  | ind n ih =>
    rw [Nat.toDigits_eq_if low] at member
    split at member
    · next small => exact ⟨n, small, List.mem_singleton.mp member⟩
    · next large =>
      rcases List.mem_append.mp member with earlier | last
      · exact ih (n / radix) (Nat.div_lt_self (by omega) low) earlier
      · exact ⟨n % radix, Nat.mod_lt n (by omega), List.mem_singleton.mp last⟩

theorem exists_digitChar_of_mem_padded {radix : Nat} (low : 1 < radix) {width n : Nat} {c : Char}
    (member : c ∈ (padded radix width n).toList) : ∃ digit < radix, c = digit.digitChar := by
  rw [padded, String.toList_ofList, List.mem_append] at member
  rcases member with zeros | digits
  · exact ⟨0, Nat.zero_lt_of_lt low, List.eq_of_mem_replicate zeros⟩
  · exact exists_digitChar_of_mem_toDigits low digits

theorem ofDigits_append_singleton (radix : Nat) (digits : List Nat) (digit : Nat) :
    ofDigits radix (digits ++ [digit]) = ofDigits radix digits * radix + digit := by
  rw [ofDigits, List.foldl_append]
  rfl

theorem ofDigits_replicate_zero_append (radix count : Nat) (digits : List Nat) :
    ofDigits radix (List.replicate count 0 ++ digits) = ofDigits radix digits := by
  induction count with
  | zero => rfl
  | succ count ih =>
    rw [List.replicate_succ, List.cons_append, ofDigits, List.foldl_cons, Nat.zero_mul]
    exact ih

/-- The digits of a number have values, and these make up the number. -/
theorem exists_digitValues {radix : Nat} (low : 1 < radix) (high : radix ≤ 16) (n : Nat) :
    ∃ digits, (Nat.toDigits radix n).mapM (digitValue? radix) = some digits ∧
      ofDigits radix digits = n := by
  induction n using Nat.strongRecOn with
  | ind n ih =>
    rw [Nat.toDigits_eq_if low]
    split
    · next small =>
      refine ⟨[n], ?_, ?_⟩
      · simp [digitValue?_digitChar high small]
      · simp [ofDigits]
    · next large =>
      obtain ⟨digits, values, number⟩ := ih (n / radix) (Nat.div_lt_self (by omega) low)
      have last := digitValue?_digitChar high (Nat.mod_lt n (by omega))
      refine ⟨digits ++ [n % radix], ?_, ?_⟩
      · simp [List.mapM_append, values, last]
      · rw [ofDigits_append_singleton, number, Nat.div_add_mod']

/-- Reading a number that has been written with zeros in front gives the number. -/
theorem readNat?_replicate_zero_append {radix : Nat} (low : 1 < radix) (high : radix ≤ 16)
    (count n : Nat) :
    readNat? radix (List.replicate count '0' ++ Nat.toDigits radix n) = some n := by
  obtain ⟨digits, values, number⟩ := exists_digitValues low high n
  have zero : digitValue? radix '0' = some 0 := digitValue?_digitChar high (by omega : 0 < radix)
  have zeros : (List.replicate count '0').mapM (digitValue? radix) =
      some (List.replicate count 0) := by
    induction count with
    | zero => rfl
    | succ count ih => simp [List.replicate_succ, zero, ih]
  have written : (List.replicate count '0' ++ Nat.toDigits radix n).isEmpty = false := by
    simp [Nat.toDigits_ne_nil]
  simp [readNat?, written, List.mapM_append, zeros, values, ofDigits_replicate_zero_append, number]

theorem readNat?_toDigits {radix : Nat} (low : 1 < radix) (high : radix ≤ 16) (n : Nat) :
    readNat? radix (Nat.toDigits radix n) = some n :=
  readNat?_replicate_zero_append low high 0 n

theorem readNat?_padded {radix : Nat} (low : 1 < radix) (high : radix ≤ 16) (width n : Nat) :
    readNat? radix (padded radix width n).toList = some n := by
  rw [padded, String.toList_ofList]
  exact readNat?_replicate_zero_append low high _ n

/-- Bytes that are written alike are the same. -/
theorem hexByte_injective : Function.Injective hexByte := by
  intro a b same
  have values := congrArg (fun text => readNat? 16 text.toList) same
  simp only [hexByte, readNat?_padded (by decide : 1 < 16) (by decide)] at values
  exact UInt8.toNat_inj.mp (Option.some.inj values)

private theorem readNat?_cons_of_digitValue?_eq_none {radix : Nat} {c : Char} {s : List Char}
    (sign : digitValue? radix c = none) : readNat? radix (c :: s) = none := by
  simp [readNat?, sign]

private theorem digitValue?_minus (radix : Nat) : digitValue? radix '-' = none := by
  simp [digitValue?]

private theorem digitValue?_plus (radix : Nat) : digitValue? radix '+' = none := by
  simp [digitValue?]

/-- An unsigned numeral has the same value where a sign would be allowed. -/
theorem readInt?_of_readNat? {radix : Nat} {s : List Char} {n : Nat}
    (read : readNat? radix s = some n) : readInt? radix s = some (n : Int) := by
  unfold readInt?
  split
  · rw [readNat?_cons_of_digitValue?_eq_none (digitValue?_minus radix)] at read
    contradiction
  · rw [readNat?_cons_of_digitValue?_eq_none (digitValue?_plus radix)] at read
    contradiction
  · rw [read]
    rfl

theorem readInt64?_of_readNat? {radix : Nat} {s : List Char} {n : Nat}
    (read : readNat? radix s = some n) (bound : n < 0x8000000000000000) :
    readInt64? radix s = some (n : Int) := by
  rw [readInt64?, readInt?_of_readNat? read, Option.filter_some, if_pos]
  refine decide_eq_true ⟨?_, ?_⟩
  · rw [int64Bound]
    omega
  · rw [int64Bound]
    omega

theorem readBelow?_of_readNat? {bound : Nat} {s : List Char} {n : Nat}
    (read : readNat? 10 s = some n) (below : n < bound) : readBelow? bound s = some n := by
  unfold readBelow?
  split
  · rw [readNat?_cons_of_digitValue?_eq_none (digitValue?_plus 10)] at read
    contradiction
  · simp [read, below]

end Ls8.Text
