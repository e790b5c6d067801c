import Mathlib.Data.List.Basic
import Ls8.Json.Printer
import Ls8.Json.Parser
import Ls8.Proofs.Text.Numeral

/-! # Numbers and strings read back

The tokens of a JSON text that have more than one form. An integer that fits a word is written with
decimal digits and read back exactly, provided that what follows does not go on with the number. A
string is written with escapes; its codes are read back character by character, and no code of a
character is half of a surrogate pair. -/

namespace Ls8.Json

/-! ## Integers -/

/-- What follows a number and does not go on with it. -/
def Ends (rest : List Char) : Prop := ∀ c ∈ rest.head?, c.isDigit = false ∧ c ∉ ['.', 'e', 'E']

theorem Ends.nil : Ends [] := by simp [Ends]

theorem ends_cons {c : Char} {rest : List Char} (digit : c.isDigit = false)
    (other : c ∉ ['.', 'e', 'E']) : Ends (c :: rest) := by
  intro d member
  cases Option.mem_some_iff.mp member
  exact ⟨digit, other⟩

/-- The values of decimal digits. -/
def digitValues (s : List Char) : List Nat := s.map fun c => c.toNat - '0'.toNat

theorem digits_append {written rest : List Char} (all : ∀ c ∈ written, c.isDigit)
    (ends : Ends rest) : digits (written ++ rest) = (digitValues written, rest) := by
  have stops : rest.takeWhile Char.isDigit = [] ∧ rest.dropWhile Char.isDigit = rest := by
    cases rest with
    | nil => exact ⟨rfl, rfl⟩
    | cons c rest =>
      have other := (ends c rfl).1
      simp [other]
  rw [digits, List.takeWhile_append_of_pos all, List.dropWhile_append_of_pos all, stops.1, stops.2,
    List.append_nil, digitValues]

/-- The digits of a number. -/
abbrev decimalValues (n : Nat) : List Nat := digitValues (Nat.toDigits 10 n)

theorem ofDigits_decimalValues (n : Nat) : Text.ofDigits 10 (decimalValues n) = n := by
  calc
    Text.ofDigits 10 (decimalValues n) = Nat.ofDigitChars 10 (Nat.toDigits 10 n) 0 := by
      simp only [Text.ofDigits, digitValues, List.foldl_map, Nat.ofDigitChars, Nat.mul_comm]
    _ = n := Nat.ofDigitChars_toDigits (by decide) (by decide)

theorem isDigit_toDigits (n : Nat) : ∀ c ∈ Nat.toDigits 10 n, c.isDigit :=
  fun _ member => Nat.isDigit_of_mem_toDigits (by decide) (by decide) member

theorem decimalValues_of_lt {n : Nat} (small : n < 10) : decimalValues n = [n] := by
  have table : ∀ n < 10, digitValues [n.digitChar] = [n] := by decide
  rw [decimalValues, Nat.toDigits_eq_if (by decide), if_pos small, table n small]

theorem decimalValues_of_le {n : Nat} (large : 10 ≤ n) :
    ∃ last, decimalValues n = decimalValues (n / 10) ++ [last] := by
  rw [decimalValues, Nat.toDigits_eq_if (by decide), if_neg (Nat.not_lt.mpr large)]
  exact ⟨_, List.map_append⟩

theorem decimalValues_ne_nil (n : Nat) : decimalValues n ≠ [] := by
  simp [digitValues, Nat.toDigits_ne_nil]

/-- Only the digits of zero begin with a zero. -/
theorem head?_decimalValues {n : Nat} (positive : 0 < n) :
    (decimalValues n).head? ≠ some 0 := by
  induction n using Nat.strongRecOn with
  | ind n ih =>
    by_cases small : n < 10
    · rw [decimalValues_of_lt small]
      simpa using Nat.ne_of_gt positive
    · obtain ⟨last, digits⟩ := decimalValues_of_le (Nat.not_lt.mp small)
      rw [digits, List.head?_append_of_ne_nil _ (decimalValues_ne_nil _)]
      exact ih (n / 10) (by omega) (by omega)

theorem noLeadingZero (n : Nat) :
    ¬(1 < (decimalValues n).length ∧ (decimalValues n).head? = some 0) := by
  rintro ⟨long, zero⟩
  cases n with
  | zero => exact absurd long (by decide)
  | succ n => exact head?_decimalValues (Nat.succ_pos n) zero

theorem fractionPart_of_ends {rest : List Char} (ends : Ends rest) :
    fractionPart rest = some (none, rest) := by
  cases rest with
  | nil => rfl
  | cons c rest =>
    have other := (ends c rfl).2
    unfold fractionPart
    split
    · next same =>
      cases same
      simp at other
    · rfl

theorem exponentPart_of_ends {rest : List Char} (ends : Ends rest) :
    exponentPart rest = some (none, rest) := by
  cases rest with
  | nil => rfl
  | cons c rest =>
    have other := (ends c rfl).2
    have neither : ¬(c = 'e' ∨ c = 'E') := by
      simp only [List.mem_cons, not_or] at other
      simp [other]
    unfold exponentPart
    exact if_neg neither

/-- The number of an integer of which only the digits and the sign are written. -/
def wholeNumeral (negative : Bool) (n : Nat) : Numeral := ⟨negative, decimalValues n, none, none⟩

/-- The digits of a number are read as one number, with what stands before them as its sign. -/
theorem numeral_digits (n : Nat) {rest : List Char} (ends : Ends rest) :
    numeral (Nat.toDigits 10 n ++ rest) = some (wholeNumeral false n, rest) ∧
      numeral ('-' :: (Nat.toDigits 10 n ++ rest)) = some (wholeNumeral true n, rest) := by
  have read := digits_append (isDigit_toDigits n) ends
  have plain : ∀ s, Nat.toDigits 10 n ++ rest ≠ '-' :: s := by
    intro s same
    obtain ⟨c, t, written⟩ := List.exists_cons_of_ne_nil (Nat.toDigits_ne_nil (n := n) (b := 10))
    have digit := isDigit_toDigits n c (by simp [written])
    rw [written, List.cons_append] at same
    cases same
    contradiction
  have whole : ¬((decimalValues n).isEmpty ∨
      1 < (decimalValues n).length ∧ (decimalValues n).head? = some 0) := by
    simpa [decimalValues_ne_nil] using noLeadingZero n
  constructor
  · unfold numeral
    split
    next negative s same =>
    split at same
    · next s written => exact absurd written (plain s)
    · cases same
      simp only [read, if_neg whole, fractionPart_of_ends ends, Option.bind_eq_bind,
        Option.bind_some, exponentPart_of_ends ends]
      rfl
  · simp only [numeral, read, if_neg whole, fractionPart_of_ends ends, Option.bind_eq_bind,
      Option.bind_some, exponentPart_of_ends ends]
    rfl

theorem le_foldl_digits (value : Nat) (digits : List Nat) :
    value ≤ digits.foldl (fun value digit => value * 10 + digit) value := by
  induction digits generalizing value with
  | nil => exact Nat.le_refl value
  | cons digit rest ih => exact Nat.le_trans (by omega) (ih (value * 10 + digit))

/-- Digits of a number that fits a word are all taken into the significand. -/
theorem absorb_of_lt (significand kept : Nat) (digits : List Nat)
    (fits : digits.foldl (fun value digit => value * 10 + digit) significand < UInt64.size) :
    absorb significand kept digits =
      ⟨digits.foldl (fun value digit => value * 10 + digit) significand, kept + digits.length, 0⟩ := by
  induction digits generalizing significand kept with
  | nil => rfl
  | cons digit rest ih =>
    have next : significand * 10 + digit < UInt64.size :=
      Nat.lt_of_le_of_lt (le_foldl_digits _ rest) fits
    simp only [absorb, if_pos next]
    rw [ih _ _ fits, List.foldl_cons, List.length_cons, Nat.add_right_comm, Nat.add_assoc]

theorem absorb_decimalValues {n : Nat} (fits : n < UInt64.size) :
    absorb 0 0 (decimalValues n) = ⟨n, (decimalValues n).length, 0⟩ := by
  have number := ofDigits_decimalValues n
  rw [Text.ofDigits] at number
  rw [absorb_of_lt 0 0 (decimalValues n) (by rw [number]; exact fits), number, Nat.zero_add]

/-- An integer that is read as an integer, and not as a double: the words with and without sign. -/
def Number.IsExact : Number → Prop
  | .integer n => -(UInt64.size / 2 : Nat) ≤ n ∧ n < UInt64.size
  | .real _ => False

theorem number?_wholeNumeral_false {n : Nat} (fits : n < UInt64.size) :
    (wholeNumeral false n).number? = some (.integer n) := by
  simp [Numeral.number?, wholeNumeral, absorb_decimalValues fits]

theorem number?_wholeNumeral_true {n : Nat} (positive : 0 < n) (fits : n ≤ UInt64.size / 2) :
    (wholeNumeral true n).number? = some (.integer (-n)) := by
  have below : n < UInt64.size := Nat.lt_of_le_of_lt fits (by decide)
  have other : ¬(n = 0 ∨ UInt64.size / 2 < n) := by omega
  simp only [Numeral.number?, wholeNumeral, absorb_decimalValues below]
  simp [other]

/-- An integer is read back with its sign, and what is read is that number. -/
theorem numeral_integer {n : Int} (kept : (Number.integer n).IsExact) {rest : List Char}
    (ends : Ends rest) : ∃ found,
      numeral ((Text.integer n).toList ++ rest) = some (found, rest) ∧
        found.number? = some (.integer n) := by
  obtain ⟨low, high⟩ := kept
  obtain ⟨plain, signed⟩ := numeral_digits n.natAbs ends
  rw [Text.integer]
  split
  · next negative =>
    refine ⟨wholeNumeral true n.natAbs, ?_, ?_⟩
    · rw [String.toList_append, Nat.toList_repr]
      exact signed
    · have same : -(n.natAbs : Int) = n := by omega
      rw [number?_wholeNumeral_true (by omega) (by omega), same]
  · next positive =>
    refine ⟨wholeNumeral false n.natAbs, ?_, ?_⟩
    · rw [Nat.toList_repr]
      exact plain
    · have same : (n.natAbs : Int) = n := by omega
      rw [number?_wholeNumeral_false (by omega), same]

/-! ## Strings -/

/-- What is read of a string with one code in front. -/
def consCode (code : Nat) : Option (List Nat × List Char) → Option (List Nat × List Char) :=
  Option.map fun read => (code :: read.1, read.2)

theorem stringCodes_unit {a b c d : Char} {code : Nat}
    (digits : Text.readNat? 16 [a, b, c, d] = some code) (rest : List Char) :
    stringCodes ('\\' :: 'u' :: a :: b :: c :: d :: rest) = consCode code (stringCodes rest) := by
  simp only [stringCodes, digits]
  cases stringCodes rest <;> rfl

theorem stringCodes_letter {letter : Char} {code : Nat} (known : escapeCode? letter = some code)
    (rest : List Char) :
    stringCodes ('\\' :: letter :: rest) = consCode code (stringCodes rest) := by
  have notUnit : letter ≠ 'u' := by
    rintro rfl
    contradiction
  rw [stringCodes, known]
  · cases stringCodes rest <;> rfl
  · exact fun _ _ _ _ _ same _ => notUnit same

theorem stringCodes_plain {c : Char} (printable : ¬c.toNat < 0x20) (quote : c ≠ '"')
    (backslash : c ≠ '\\') (rest : List Char) :
    stringCodes (c :: rest) = consCode c.toNat (stringCodes rest) := by
  rw [stringCodes, if_neg printable]
  · cases stringCodes rest <;> rfl
  · exact quote
  · exact fun _ _ _ _ _ same _ => backslash same
  · exact fun _ _ same _ => backslash same

/-- A control character is written with four digits. -/
theorem exists_padded_control {c : Char} (control : c.toNat < 0x20) :
    ∃ a b d e, (Text.padded 16 4 c.toNat).toList = [a, b, d, e] := by
  have table : ∀ n < 0x20, (Text.padded 16 4 n).toList.length = 4 := by decide
  exact List.length_eq_four.mp (table _ control)

/-- A character is read back from how it is written inside a string. -/
theorem stringCodes_escapeChar (c : Char) (rest : List Char) :
    stringCodes (escapeChar c ++ rest) = consCode c.toNat (stringCodes rest) := by
  unfold escapeChar
  split
  case h_8 quote backslash _ _ _ _ _ =>
    split
    · next control =>
      obtain ⟨a, b, d, e, written⟩ := exists_padded_control control
      have digits := Text.readNat?_padded (by decide : 1 < 16) (by decide) 4 c.toNat
      rw [written] at digits ⊢
      exact stringCodes_unit digits rest
    · next printable => exact stringCodes_plain printable quote backslash rest
  all_goals exact stringCodes_letter (by decide) rest

theorem stringCodes_text (s rest : List Char) :
    stringCodes (s.flatMap escapeChar ++ '"' :: rest) = some (s.map Char.toNat, rest) := by
  induction s with
  | nil => rfl
  | cons c s ih =>
    rw [List.flatMap_cons, List.append_assoc, stringCodes_escapeChar, ih]
    rfl

/-- No character is half of a surrogate pair. -/
theorem not_surrogate (c : Char) : ¬(0xd800 ≤ c.toNat ∧ c.toNat ≤ 0xdfff) := by
  have valid := c.valid
  simp only [UInt32.isValidChar, Nat.isValidChar] at valid
  have same : c.toNat = c.val.toNat := rfl
  omega

theorem joinSurrogates_map_toNat (s : List Char) : joinSurrogates (s.map Char.toNat) = some s := by
  induction s with
  | nil => rfl
  | cons c s ih =>
    have valid := not_surrogate c
    cases s with
    | nil => simp [joinSurrogates, valid, Char.ofNat_toNat]
    | cons d s =>
      have first : ¬(0xd800 ≤ c.toNat ∧ c.toNat ≤ 0xdbff) := by omega
      have second : ¬(0xdc00 ≤ c.toNat ∧ c.toNat ≤ 0xdfff) := by omega
      rw [List.map_cons] at ih
      rw [List.map_cons, List.map_cons, joinSurrogates, if_neg first, if_neg second, ih,
        Option.map_some, Char.ofNat_toNat]

/-- A string is read back, whatever follows its closing quote. -/
theorem stringBody_text (s : String) (rest : List Char) :
    stringBody (s.toList.flatMap escapeChar ++ '"' :: rest) = some (some s, rest) := by
  rw [stringBody, stringCodes_text]
  simp [joinSurrogates_map_toNat]

end Ls8.Json
