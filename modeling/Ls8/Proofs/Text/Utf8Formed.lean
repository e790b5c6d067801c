import Ls8.Proofs.Text.Utf8Lines

/-! # Well-formed bytes

The scan finds a character only where the bytes of its encoding stand. So the byte sequences that strict
decoding accepts are the encodings of texts and nothing else: each sequence that has begun leaves exactly
those ways to go on that end in an encoding. -/

namespace Ls8.Text.Utf8

/-! ## Encodings from digits

The bits of a character in groups of six, the most significant ones in a first byte that also tells how
many groups follow. -/

theorem toNat_val_ofNat {code : Nat} (valid : code.isValidChar) :
    (Char.ofNat code).val.toNat = code := by
  rw [Char.ofNat, dif_pos valid]
  rfl

theorem utf8EncodeChar_two {first second : Nat} (least : 2 ≤ first) (fits : first < 32)
    (small : second < 64) :
    String.utf8EncodeChar (Char.ofNat (first * 64 + second)) =
      [UInt8.ofNat (first + 192), UInt8.ofNat (second + 128)] := by
  have valid : (first * 64 + second).isValidChar := .inl (by omega)
  have high : (first * 64 + second) / 64 % 32 = first := by omega
  have low : (first * 64 + second) % 64 = second := by omega
  unfold String.utf8EncodeChar
  simp only [toNat_val_ofNat valid, high, low]
  rw [if_neg (by omega), if_pos (by omega)]

theorem utf8EncodeChar_three {first second third : Nat} (fits : first < 16) (middle : second < 64)
    (small : third < 64) (least : first = 0 → 32 ≤ second) (plain : first = 13 → second < 32) :
    String.utf8EncodeChar (Char.ofNat ((first * 64 + second) * 64 + third)) =
      [UInt8.ofNat (first + 224), UInt8.ofNat (second + 128), UInt8.ofNat (third + 128)] := by
  have valid : ((first * 64 + second) * 64 + third).isValidChar := by
    unfold Nat.isValidChar
    omega
  have high : ((first * 64 + second) * 64 + third) / 4096 % 16 = first := by omega
  have mid : ((first * 64 + second) * 64 + third) / 64 % 64 = second := by omega
  have low : ((first * 64 + second) * 64 + third) % 64 = third := by omega
  unfold String.utf8EncodeChar
  simp only [toNat_val_ofNat valid, high, mid, low]
  rw [if_neg (by omega), if_neg (by omega), if_pos (by omega)]

theorem utf8EncodeChar_four {first second third fourth : Nat} (upper : second < 64)
    (middle : third < 64) (small : fourth < 64) (least : first = 0 → 16 ≤ second)
    (most : first < 4 ∨ first = 4 ∧ second < 16) :
    String.utf8EncodeChar (Char.ofNat (((first * 64 + second) * 64 + third) * 64 + fourth)) =
      [UInt8.ofNat (first + 240), UInt8.ofNat (second + 128), UInt8.ofNat (third + 128),
        UInt8.ofNat (fourth + 128)] := by
  have valid : (((first * 64 + second) * 64 + third) * 64 + fourth).isValidChar := .inr (by omega)
  have high : (((first * 64 + second) * 64 + third) * 64 + fourth) / 262144 % 8 = first := by omega
  have next : (((first * 64 + second) * 64 + third) * 64 + fourth) / 4096 % 64 = second := by omega
  have mid : (((first * 64 + second) * 64 + third) * 64 + fourth) / 64 % 64 = third := by omega
  have low : (((first * 64 + second) * 64 + third) * 64 + fourth) % 64 = fourth := by omega
  unfold String.utf8EncodeChar
  simp only [toNat_val_ofNat valid, high, next, mid, low]
  rw [if_neg (by omega), if_neg (by omega), if_neg (by omega)]

/-! ## One character -/

/-- What the first byte of a longer sequence is, and what it announces. -/
inductive Lead : UInt8 → Pending → Prop
  | two (digit : Nat) (least : 2 ≤ digit) (fits : digit < 32) :
    Lead (UInt8.ofNat (digit + 192)) ⟨1, 0x80, 0xbf, digit⟩
  | three (digit : Nat) (fits : digit < 16) :
    Lead (UInt8.ofNat (digit + 224))
      ⟨2, if digit = 0 then 0xa0 else 0x80, if digit = 13 then 0x9f else 0xbf, digit⟩
  | four (digit : Nat) (fits : digit < 5) :
    Lead (UInt8.ofNat (digit + 240))
      ⟨3, if digit = 0 then 0x90 else 0x80, if digit = 4 then 0x8f else 0xbf, digit⟩

theorem lead_of_ofLead? {b : UInt8} {p : Pending} (announced : Pending.ofLead? b = some p) :
    Lead b p := by
  have table : ∀ code < 256, ∀ p ∈ Pending.ofLead? (UInt8.ofNat code),
      194 ≤ code ∧ code < 245 ∧ p.value = code - (if code < 224 then 192 else
        if code < 240 then 224 else 240) := by
    decide +kernel
  obtain ⟨least, most, value⟩ := table b.toNat b.toNat_lt p (by rwa [UInt8.ofNat_toNat])
  have again : b = UInt8.ofNat b.toNat := UInt8.ofNat_toNat.symm
  by_cases two : b.toNat < 224
  · obtain ⟨digit, code⟩ : ∃ digit, b.toNat = digit + 192 := ⟨b.toNat - 192, by omega⟩
    have least : 2 ≤ digit := by omega
    have fits : digit < 32 := by omega
    rw [again, code, ofLead?_of_two least fits] at announced
    rw [again, code, ← Option.some.inj announced]
    exact .two digit least fits
  · by_cases three : b.toNat < 240
    · obtain ⟨digit, code⟩ : ∃ digit, b.toNat = digit + 224 := ⟨b.toNat - 224, by omega⟩
      have fits : digit < 16 := by omega
      rw [again, code, ofLead?_of_three fits] at announced
      rw [again, code, ← Option.some.inj announced]
      exact .three digit fits
    · obtain ⟨digit, code⟩ : ∃ digit, b.toNat = digit + 240 := ⟨b.toNat - 240, by omega⟩
      have fits : digit < 5 := by omega
      rw [again, code, ofLead?_of_four fits] at announced
      rw [again, code, ← Option.some.inj announced]
      exact .four digit fits

/-- A sequence that has begun goes on with a byte in its range, unless something is ill-formed. -/
theorem exists_continuation {missing value : Nat} {low high : UInt8} {bytes : List UInt8}
    (above : 128 ≤ low.toNat) (below : high.toNat ≤ 191)
    (formed : none ∉ scanFrom (some ⟨missing, low, high, value⟩) bytes) :
    ∃ digit rest, digit < 64 ∧ low.toNat ≤ digit + 128 ∧ digit + 128 ≤ high.toNat ∧
      bytes = UInt8.ofNat (digit + 128) :: rest ∧
      none ∉ if missing ≤ 1 then some (Char.ofNat (value * 64 + digit)) :: scanFrom none rest
        else scanFrom (some ⟨missing - 1, 0x80, 0xbf, value * 64 + digit⟩) rest := by
  cases bytes with
  | nil => exact absurd List.mem_cons_self formed
  | cons b rest =>
    have within : (low ≤ b && b ≤ high) = true := by
      by_contra outside
      rw [scanFrom, advance, if_neg outside] at formed
      exact formed List.mem_cons_self
    rw [Bool.and_eq_true, decide_eq_true_eq, decide_eq_true_eq] at within
    have least := UInt8.le_iff_toNat_le.mp within.1
    have greatest := UInt8.le_iff_toNat_le.mp within.2
    obtain ⟨digit, code⟩ : ∃ digit, b.toNat = digit + 128 := ⟨b.toNat - 128, by omega⟩
    obtain rfl : b = UInt8.ofNat (digit + 128) := by rw [← code, UInt8.ofNat_toNat]
    have small : digit < 64 := by omega
    rw [code] at least greatest
    rw [scanFrom_continue small least greatest] at formed
    exact ⟨digit, rest, small, least, greatest, rfl, formed⟩

/-- A first byte with what goes on well-formed behind it begins the bytes of a character. -/
theorem exists_char_of_lead {b : UInt8} {p : Pending} (lead : Lead b p) {bytes : List UInt8}
    (formed : none ∉ scanFrom (some p) bytes) :
    ∃ c rest, b :: bytes = String.utf8EncodeChar c ++ rest := by
  cases lead with
  | two first least fits =>
    obtain ⟨second, rest, small, -, -, rfl, -⟩ :=
      exists_continuation (by decide) (by decide) formed
    refine ⟨Char.ofNat (first * 64 + second), rest, ?_⟩
    rw [utf8EncodeChar_two least fits small]
    rfl
  | three first fits =>
    obtain ⟨second, bytes, middle, above, below, rfl, more⟩ :=
      exists_continuation (by split <;> simp) (by split <;> simp) formed
    rw [if_neg (show ¬2 ≤ 1 by decide)] at more
    obtain ⟨third, rest, small, -, -, rfl, -⟩ :=
      exists_continuation (by decide) (by decide) more
    have least : first = 0 → 32 ≤ second := by
      rintro rfl
      change 160 ≤ second + 128 at above
      omega
    have plain : first = 13 → second < 32 := by
      rintro rfl
      change second + 128 ≤ 159 at below
      omega
    refine ⟨Char.ofNat ((first * 64 + second) * 64 + third), rest, ?_⟩
    rw [utf8EncodeChar_three fits middle small least plain]
    rfl
  | four first fits =>
    obtain ⟨second, bytes, upper, above, below, rfl, more⟩ :=
      exists_continuation (by split <;> simp) (by split <;> simp) formed
    rw [if_neg (show ¬3 ≤ 1 by decide)] at more
    obtain ⟨third, bytes, middle, -, -, rfl, last⟩ :=
      exists_continuation (by decide) (by decide) more
    rw [if_neg (show ¬3 - 1 ≤ 1 by decide)] at last
    obtain ⟨fourth, rest, small, -, -, rfl, -⟩ :=
      exists_continuation (by decide) (by decide) last
    have least : first = 0 → 16 ≤ second := by
      rintro rfl
      change 144 ≤ second + 128 at above
      omega
    have most : first < 4 ∨ first = 4 ∧ second < 16 := by
      rcases Nat.lt_or_eq_of_le (Nat.le_of_lt_succ fits) with less | rfl
      · exact .inl less
      · change second + 128 ≤ 143 at below
        exact .inr ⟨rfl, by omega⟩
    refine ⟨Char.ofNat (((first * 64 + second) * 64 + third) * 64 + fourth), rest, ?_⟩
    rw [utf8EncodeChar_four upper middle small least most]
    rfl

/-- The bytes at the beginning of a well-formed sequence are those of a character. -/
theorem exists_char {b : UInt8} {bytes : List UInt8} (formed : none ∉ scan (b :: bytes)) :
    ∃ c rest, b :: bytes = String.utf8EncodeChar c ++ rest := by
  by_cases ascii : b < 0x80
  · have small : b.toNat < 128 := UInt8.lt_iff_toNat_lt.mp ascii
    have code : (Char.ofNat b.toNat).toNat = b.toNat := toNat_val_ofNat (.inl (by omega))
    refine ⟨Char.ofNat b.toNat, bytes, ?_⟩
    rw [utf8EncodeChar_of_ascii (by omega), code, UInt8.ofNat_toNat, List.singleton_append]
  · cases announced : Pending.ofLead? b with
    | none =>
      rw [scan, scanFrom, advance, start, if_neg ascii, announced] at formed
      exact absurd List.mem_cons_self formed
    | some p =>
      rw [scan, scanFrom_lead announced] at formed
      exact exists_char_of_lead (lead_of_ofLead? announced) formed

/-! ## Texts -/

theorem exists_text {bytes : List UInt8} (formed : none ∉ scan bytes) :
    ∃ text : List Char, bytes = text.flatMap String.utf8EncodeChar := by
  induction size : bytes.length using Nat.strong_induction_on generalizing bytes with
  | _ n ih =>
    subst size
    cases bytes with
    | nil => exact ⟨[], rfl⟩
    | cons b bytes =>
      obtain ⟨c, rest, whole⟩ := exists_char formed
      have filled : 0 < (String.utf8EncodeChar c).length := by
        rw [String.length_utf8EncodeChar]
        exact c.utf8Size_pos
      have shorter : rest.length < (b :: bytes).length := by
        rw [whole, List.length_append]
        omega
      rw [whole, scan_utf8EncodeChar] at formed
      obtain ⟨text, rfl⟩ := ih _ shorter (fun member => formed (List.mem_cons_of_mem _ member)) rfl
      exact ⟨c :: text, whole⟩

/-- Strict decoding accepts the encodings of texts and nothing else. -/
theorem decode?_eq_some_iff {bytes : List UInt8} {text : List Char} :
    decode? bytes = some text ↔ bytes = text.flatMap String.utf8EncodeChar := by
  constructor
  · intro decoded
    by_cases illFormed : none ∈ scan bytes
    · rw [decode?, mapM_eq_none_of_mem illFormed rfl] at decoded
      contradiction
    · obtain ⟨same, rfl⟩ := exists_text illFormed
      rw [decode?_flatMap] at decoded
      rw [Option.some.inj decoded]
  · rintro rfl
    exact decode?_flatMap text

theorem decode?_eq_none_iff {bytes : List UInt8} :
    decode? bytes = none ↔ ∀ text : String, encode text ≠ bytes := by
  rw [Option.eq_none_iff_forall_ne_some]
  constructor
  · rintro refused text rfl
    exact refused text.toList (decode?_encode text)
  · intro other text decoded
    apply other (String.ofList text)
    rw [encode, String.toList_ofList, decode?_eq_some_iff.mp decoded]

end Ls8.Text.Utf8
