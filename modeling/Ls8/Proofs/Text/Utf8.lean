import Mathlib.Data.List.Basic
import Ls8.Proofs.Text.Lines
import Ls8.Text.Utf8

/-! # Text in bytes and back

Strict decoding gives back every text that has been encoded. Only an ASCII character has an ASCII
byte in its encoding, so it makes no difference whether a text is cut into lines before it is
encoded or afterwards. -/

namespace Ls8.Text.Utf8

deriving instance DecidableEq for Pending

/-! ## One character -/

/-- What the first byte of two announces; two values would make an over-long form. -/
theorem ofLead?_of_two {digit : Nat} (low : 2 ≤ digit) (high : digit < 32) :
    Pending.ofLead? (UInt8.ofNat (digit + 192)) = some ⟨1, 0x80, 0xbf, digit⟩ := by
  have table : ∀ digit < 32, 2 ≤ digit →
      Pending.ofLead? (UInt8.ofNat (digit + 192)) = some ⟨1, 0x80, 0xbf, digit⟩ := by decide
  exact table digit high low

theorem ofLead?_of_three {digit : Nat} (high : digit < 16) :
    Pending.ofLead? (UInt8.ofNat (digit + 224)) =
      some ⟨2, if digit = 0 then 0xa0 else 0x80, if digit = 13 then 0x9f else 0xbf, digit⟩ := by
  have table : ∀ digit < 16, Pending.ofLead? (UInt8.ofNat (digit + 224)) =
      some ⟨2, if digit = 0 then 0xa0 else 0x80, if digit = 13 then 0x9f else 0xbf, digit⟩ := by
    decide
  exact table digit high

theorem ofLead?_of_four {digit : Nat} (high : digit < 5) :
    Pending.ofLead? (UInt8.ofNat (digit + 240)) =
      some ⟨3, if digit = 0 then 0x90 else 0x80, if digit = 4 then 0x8f else 0xbf, digit⟩ := by
  have table : ∀ digit < 5, Pending.ofLead? (UInt8.ofNat (digit + 240)) =
      some ⟨3, if digit = 0 then 0x90 else 0x80, if digit = 4 then 0x8f else 0xbf, digit⟩ := by
    decide
  exact table digit high

/-- A byte that announces a longer sequence begins it. -/
theorem scanFrom_lead {b : UInt8} {p : Pending} (lead : Pending.ofLead? b = some p)
    (rest : List UInt8) : scanFrom none (b :: rest) = scanFrom (some p) rest := by
  have beyond : ¬b < 0x80 := by
    intro ascii
    have table : ∀ code < 128, Pending.ofLead? (UInt8.ofNat code) = none := by decide
    have none := table b.toNat (UInt8.lt_iff_toNat_lt.mp ascii)
    rw [UInt8.ofNat_toNat, lead] at none
    contradiction
  rw [scanFrom, advance, start, if_neg beyond, lead]
  rfl

/-- A byte within the range of a sequence that has begun goes on with it. -/
theorem scanFrom_continue {missing value digit : Nat} {low high : UInt8} (small : digit < 64)
    (least : low.toNat ≤ digit + 128) (greatest : digit + 128 ≤ high.toNat) (rest : List UInt8) :
    scanFrom (some ⟨missing, low, high, value⟩) (UInt8.ofNat (digit + 128) :: rest) =
      if missing ≤ 1 then some (Char.ofNat (value * 64 + digit)) :: scanFrom none rest
      else scanFrom (some ⟨missing - 1, 0x80, 0xbf, value * 64 + digit⟩) rest := by
  have code : (UInt8.ofNat (digit + 128)).toNat = digit + 128 :=
    UInt8.toNat_ofNat_of_lt' (show digit + 128 < 256 by omega)
  have bits : Pending.extend ⟨missing, low, high, value⟩ (UInt8.ofNat (digit + 128)) =
      value * 64 + digit := by
    unfold Pending.extend
    simp only [code]
    omega
  have within : (low ≤ UInt8.ofNat (digit + 128) && UInt8.ofNat (digit + 128) ≤ high) = true := by
    simp only [UInt8.le_iff_toNat_le, code, Bool.and_eq_true, decide_eq_true_eq]
    exact ⟨least, greatest⟩
  rw [scanFrom, advance, if_pos within, bits]
  split
  · rfl
  · rfl

/-- Behind the second byte of a sequence every digit is within the range. -/
theorem scanFrom_digit {missing value digit : Nat} (small : digit < 64) (rest : List UInt8) :
    scanFrom (some ⟨missing, 0x80, 0xbf, value⟩) (UInt8.ofNat (digit + 128) :: rest) =
      if missing ≤ 1 then some (Char.ofNat (value * 64 + digit)) :: scanFrom none rest
      else scanFrom (some ⟨missing - 1, 0x80, 0xbf, value * 64 + digit⟩) rest := by
  have least : (0x80 : UInt8).toNat ≤ digit + 128 := Nat.le_add_left 128 digit
  have greatest : digit + 128 ≤ (0xbf : UInt8).toNat := show digit + 128 ≤ 191 by omega
  exact scanFrom_continue small least greatest rest

/-- The bytes of a character are scanned as this character, whatever follows them. -/
theorem scan_utf8EncodeChar (c : Char) (rest : List UInt8) :
    scan (String.utf8EncodeChar c ++ rest) = some c :: scan rest := by
  have valid : c.val.toNat.isValidChar := c.valid
  have again : Char.ofNat c.val.toNat = c := Char.ofNat_toNat c
  unfold String.utf8EncodeChar
  generalize c.val.toNat = v at valid again
  simp only
  subst again
  split
  · next one =>
    have code : (UInt8.ofNat v).toNat = v := UInt8.toNat_ofNat_of_lt' (show v < 256 by omega)
    have ascii : UInt8.ofNat v < 0x80 := by
      rw [UInt8.lt_iff_toNat_lt, code]
      exact Nat.lt_succ_of_le one
    rw [List.singleton_append, scan_cons_ascii ascii, code]
  · split
    · next one two =>
      have lead : v / 64 % 32 = v / 64 := by omega
      rw [List.cons_append, List.singleton_append, scan, lead,
        scanFrom_lead (ofLead?_of_two (by omega) (by omega)), scanFrom_digit (by omega),
        if_pos (Nat.le_refl 1), Nat.div_add_mod']
      rfl
    · split
      · next one two three =>
        have lead : v / 4096 % 16 = v / 4096 := by omega
        have whole : (v / 4096 * 64 + v / 64 % 64) * 64 + v % 64 = v := by omega
        simp only [List.cons_append, List.nil_append]
        rw [scan, lead, scanFrom_lead (ofLead?_of_three (by omega)), scanFrom_continue (by omega),
          if_neg (by omega), scanFrom_digit (by omega), if_pos (Nat.le_refl 1), whole]
        · rfl
        -- After 0xe0 a smaller second byte would be over-long, after 0xed a greater one a surrogate.
        · split
          · exact show 160 ≤ v / 64 % 64 + 128 by omega
          · exact show 128 ≤ v / 64 % 64 + 128 by omega
        · split
          · exact show v / 64 % 64 + 128 ≤ 159 by omega
          · exact show v / 64 % 64 + 128 ≤ 191 by omega
      · next one two three =>
        have lead : v / 262144 % 8 = v / 262144 := by omega
        have whole : ((v / 262144 * 64 + v / 4096 % 64) * 64 + v / 64 % 64) * 64 + v % 64 = v := by
          omega
        simp only [List.cons_append, List.nil_append]
        rw [scan, lead, scanFrom_lead (ofLead?_of_four (by omega)), scanFrom_continue (by omega),
          if_neg (by omega), scanFrom_digit (by omega), if_neg (by omega), scanFrom_digit (by omega),
          if_pos (Nat.le_refl 1), whole]
        · rfl
        -- After 0xf0 a smaller second byte would be over-long, after 0xf4 a greater one too great.
        · split
          · exact show 144 ≤ v / 4096 % 64 + 128 by omega
          · exact show 128 ≤ v / 4096 % 64 + 128 by omega
        · split
          · exact show v / 4096 % 64 + 128 ≤ 143 by omega
          · exact show v / 4096 % 64 + 128 ≤ 191 by omega

/-- The byte of an ASCII character. -/
theorem utf8EncodeChar_of_ascii {c : Char} (ascii : c.toNat < 128) :
    String.utf8EncodeChar c = [UInt8.ofNat c.toNat] := by
  unfold String.utf8EncodeChar
  exact if_pos (Nat.le_of_lt_succ ascii)

/-- No byte of a character beyond ASCII is an ASCII byte. -/
theorem beyond_of_mem_utf8EncodeChar {c : Char} (beyond : 128 ≤ c.toNat) {b : UInt8}
    (member : b ∈ String.utf8EncodeChar c) : 128 ≤ b.toNat := by
  have high (digit base : Nat) (least : 128 ≤ base) (small : digit + base < 256) :
      128 ≤ (UInt8.ofNat (digit + base)).toNat := by
    rw [UInt8.toNat_ofNat_of_lt' small]
    omega
  unfold String.utf8EncodeChar at member
  have more : ¬c.val.toNat ≤ 127 := Nat.not_le.mpr beyond
  simp only [if_neg more] at member
  split at member
  · simp only [List.mem_cons, List.not_mem_nil, or_false] at member
    rcases member with rfl | rfl
    · exact high _ 192 (by omega) (by omega)
    · exact high _ 128 (by omega) (by omega)
  · split at member
    · simp only [List.mem_cons, List.not_mem_nil, or_false] at member
      rcases member with rfl | rfl | rfl
      · exact high _ 224 (by omega) (by omega)
      · exact high _ 128 (by omega) (by omega)
      · exact high _ 128 (by omega) (by omega)
    · simp only [List.mem_cons, List.not_mem_nil, or_false] at member
      rcases member with rfl | rfl | rfl | rfl
      · exact high _ 240 (by omega) (by omega)
      · exact high _ 128 (by omega) (by omega)
      · exact high _ 128 (by omega) (by omega)
      · exact high _ 128 (by omega) (by omega)

/-- The byte of an ASCII character is in no other encoding. -/
theorem eq_of_mem_utf8EncodeChar {c ascii : Char} (low : ascii.toNat < 128)
    (member : UInt8.ofNat ascii.toNat ∈ String.utf8EncodeChar c) : c = ascii := by
  have code : (UInt8.ofNat ascii.toNat).toNat = ascii.toNat :=
    UInt8.toNat_ofNat_of_lt' (Nat.lt_trans low (by decide))
  by_cases beyond : 128 ≤ c.toNat
  · have high := beyond_of_mem_utf8EncodeChar beyond member
    rw [code] at high
    exact absurd low (Nat.not_lt.mpr high)
  · rw [utf8EncodeChar_of_ascii (Nat.not_le.mp beyond), List.mem_singleton] at member
    have same := congrArg UInt8.toNat member
    rw [code, UInt8.toNat_ofNat_of_lt' (Nat.lt_trans (Nat.not_le.mp beyond) (by decide))] at same
    exact (Char.toNat_inj.mp same).symm

/-! ## Texts -/

theorem scan_flatMap (s : List Char) : scan (s.flatMap String.utf8EncodeChar) = s.map some := by
  induction s with
  | nil => rfl
  | cons c rest ih => rw [List.flatMap_cons, scan_utf8EncodeChar, ih, List.map_cons]

/-- Encoded text is decoded to itself. -/
theorem decode?_flatMap (s : List Char) :
    decode? (s.flatMap String.utf8EncodeChar) = some s := by
  rw [decode?, scan_flatMap]
  induction s with
  | nil => rfl
  | cons c rest ih => simp [ih]

theorem decode?_encode (text : String) : decode? (encode text) = some text.toList :=
  decode?_flatMap text.toList

theorem decodeLenient_encode (text : String) : decodeLenient (encode text) = text.toList := by
  rw [decodeLenient, encode, scan_flatMap, List.map_map]
  exact List.map_id text.toList

/-- Line ends are ASCII characters, so they are the only ones whose encoding has their bytes. -/
theorem keepsLineEnds : KeepsLineEnds String.utf8EncodeChar '\n' '\r' 10 13 where
  filled c := by simp
  lineFeed := by decide
  carriageReturn := by decide
  lineFeed_only c member := eq_of_mem_utf8EncodeChar (by decide) member
  carriageReturn_only c member := eq_of_mem_utf8EncodeChar (by decide) member

/-- A text can be cut into lines before it is encoded or afterwards. -/
theorem linesBy_flatMap (s : List Char) :
    linesBy 10 13 (s.flatMap String.utf8EncodeChar) =
      (lines s).map (·.flatMap String.utf8EncodeChar) :=
  keepsLineEnds.linesBy_flatMap s

end Ls8.Text.Utf8
