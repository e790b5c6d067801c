import Mathlib.Data.List.TakeWhile
import Ls8.Proofs.Text.Lines
import Ls8.Text.Numeral
import Ls8.Text.Upper

/-! # Letter case

Two texts are alike but for the case of ASCII letters if they become one text when their letters are
put into lower case. Whatever asks for characters that are no letters, or for letters in either case,
does not notice this: texts are trimmed, cut and turned into upper case as before. -/

namespace Ls8.Text

/-- A text with its ASCII letters in lower case. -/
def lower (s : List Char) : List Char := s.map Char.toLower

/-- The upper-case letters of ASCII. -/
def capitals : List Char := "ABCDEFGHIJKLMNOPQRSTUVWXYZ".toList

/-- The characters of ASCII are those with its codes. -/
theorem exists_code {c : Char} (ascii : c.toNat < 128) : ∃ code < 128, Char.ofNat code = c :=
  ⟨c.toNat, ascii, Char.ofNat_toNat c⟩

/-- Only the capitals have another form in lower case. -/
theorem toLower_eq_self_or_mem (c : Char) : c.toLower = c ∨ c ∈ capitals := by
  by_cases letter : c.val ≥ 'A'.val ∧ c.val ≤ 'Z'.val
  · right
    obtain ⟨low, high⟩ := letter
    have low : 65 ≤ c.toNat := low
    have high : c.toNat ≤ 90 := high
    have table : ∀ code ≤ 90, 65 ≤ code → Char.ofNat code ∈ capitals := by decide
    rw [← Char.ofNat_toNat c]
    exact table c.toNat high low
  · left
    exact dif_neg letter

/-- What does not distinguish the two cases of a capital distinguishes no cases. -/
theorem eq_of_capitals {α : Type} {f : Char → α}
    (same : capitals.map (fun c => f c.toLower) = capitals.map f) (c : Char) :
    f c.toLower = f c := by
  rcases toLower_eq_self_or_mem c with unchanged | capital
  · rw [unchanged]
  · exact List.map_inj_left.mp same c capital

theorem toLower_toLower (c : Char) : c.toLower.toLower = c.toLower :=
  eq_of_capitals (by decide) c

theorem isBlank_toLower (c : Char) : isBlank c.toLower = isBlank c :=
  eq_of_capitals (by decide) c

theorem upperChar_toLower (c : Char) : upperChar c.toLower = upperChar c :=
  eq_of_capitals (by decide) c

theorem digitValue?_toLower (radix : Nat) (c : Char) :
    digitValue? radix c.toLower = digitValue? radix c :=
  eq_of_capitals (by rfl) c

/-- A character that is no letter is found in the same places. -/
theorem toLower_eq_iff {mark : Char} (plain : mark ∉ capitals ∧ mark ∉ lower capitals) (c : Char) :
    c.toLower = mark ↔ c = mark := by
  rcases toLower_eq_self_or_mem c with unchanged | capital
  · rw [unchanged]
  · refine iff_of_false ?_ ?_
    · rintro rfl
      exact plain.2 (List.mem_map_of_mem capital)
    · rintro rfl
      exact plain.1 capital

/-- A small letter is the form of two characters. -/
theorem toLower_eq_letter_iff {small large : Char} (letter : small ∉ capitals)
    (only : capitals.map (fun c => c.toLower == small) = capitals.map (· == large))
    (pair : large.toLower = small) (c : Char) : c.toLower = small ↔ c = small ∨ c = large := by
  constructor
  · intro same
    rcases toLower_eq_self_or_mem c with unchanged | capital
    · exact .inl (unchanged.symm.trans same)
    · have equal := List.map_inj_left.mp only c capital
      rw [same, beq_self_eq_true] at equal
      exact .inr (beq_iff_eq.mp equal.symm)
  · rintro (rfl | rfl)
    · exact (toLower_eq_self_or_mem c).resolve_right letter
    · exact pair

@[simp] theorem lower_nil : lower [] = [] := rfl

@[simp] theorem lower_cons (c : Char) (s : List Char) : lower (c :: s) = c.toLower :: lower s := rfl

theorem lower_lower (s : List Char) : lower (lower s) = lower s := by
  rw [lower, lower, List.map_map]
  exact List.map_congr_left fun c _ => toLower_toLower c

@[simp] theorem upper_lower (s : List Char) : upper (lower s) = upper s := by
  rw [upper, lower, List.flatMap_map]
  exact List.flatMap_congr fun c _ => upperChar_toLower c

section

variable {p : Char → Bool} (blind : ∀ c, p c.toLower = p c)

include blind

theorem takeWhile_lower (s : List Char) : (lower s).takeWhile p = lower (s.takeWhile p) := by
  have same : p ∘ Char.toLower = p := funext blind
  rw [lower, List.takeWhile_map, same]
  rfl

theorem dropWhile_lower (s : List Char) : (lower s).dropWhile p = lower (s.dropWhile p) := by
  have same : p ∘ Char.toLower = p := funext blind
  rw [lower, List.dropWhile_map, same]
  rfl

theorem pieces_lower (s : List Char) : pieces p (lower s) = (pieces p s).map lower := by
  induction s with
  | nil => rfl
  | cons c rest ih =>
    rw [lower_cons, pieces, pieces, blind, ih]
    split
    · rfl
    · cases pieces p rest <;> rfl

theorem fields_lower (s : List Char) : fields p (lower s) = (fields p s).map lower := by
  rw [fields, fields, pieces_lower blind, List.filter_map]
  congr 1
  refine List.filter_congr fun piece _ => ?_
  cases piece <;> rfl

end

theorem trim_lower (s : List Char) : trim (lower s) = lower (trim s) := by
  rw [trim, trim, trimStart, trimStart, dropWhile_lower isBlank_toLower, trimEnd, trimEnd, lower, lower,
    ← List.map_reverse, ← lower, dropWhile_lower isBlank_toLower, lower, List.map_reverse]

/-- Line ends are no letters. -/
theorem lines_lower (s : List Char) : lines (lower s) = (lines s).map lower := by
  have keeps : KeepsLineEnds (fun c : Char => [c.toLower]) '\n' '\r' '\n' '\r' :=
    { filled := fun c => List.cons_ne_nil _ _
      lineFeed := rfl
      carriageReturn := rfl
      lineFeed_only := fun c member =>
        (toLower_eq_iff (by decide) c).mp (List.mem_singleton.mp member).symm
      carriageReturn_only := fun c member =>
        (toLower_eq_iff (by decide) c).mp (List.mem_singleton.mp member).symm }
  have cut := keeps.linesBy_flatMap s
  have each : (fun line : List Char => line.flatMap fun c => [c.toLower]) = lower :=
    funext fun line => List.flatMap_pure_eq_map Char.toLower line
  rw [each] at cut
  rw [lines, lower, ← List.flatMap_pure_eq_map]
  exact cut

/-! ## Numerals -/

theorem readNat?_lower (radix : Nat) (s : List Char) : readNat? radix (lower s) = readNat? radix s := by
  have values : (lower s).mapM (digitValue? radix) = s.mapM (digitValue? radix) := by
    rw [lower, List.mapM_map]
    exact congrArg (s.mapM ·) (funext (digitValue?_toLower radix))
  rw [readNat?, readNat?, values]
  cases s <;> rfl

theorem readInt?_cons {radix : Nat} {c : Char} (minus : c ≠ '-') (plus : c ≠ '+') (s : List Char) :
    readInt? radix (c :: s) = (readNat? radix (c :: s)).map fun n => (n : Int) := by
  simp [readInt?, minus, plus]

theorem readInt?_lower (radix : Nat) (s : List Char) : readInt? radix (lower s) = readInt? radix s := by
  cases s with
  | nil => rfl
  | cons c rest =>
    by_cases minus : c = '-'
    · have sign : lower (c :: rest) = '-' :: lower rest := by
        rw [minus]
        rfl
      rw [sign, minus, readInt?, readInt?, readNat?_lower]
    · by_cases plus : c = '+'
      · have sign : lower (c :: rest) = '+' :: lower rest := by
          rw [plus]
          rfl
        rw [sign, plus, readInt?, readInt?, readNat?_lower]
      · have lowerMinus := mt (toLower_eq_iff (by decide) c).mp minus
        have lowerPlus := mt (toLower_eq_iff (by decide) c).mp plus
        rw [lower_cons, readInt?_cons minus plus, readInt?_cons lowerMinus lowerPlus, ← lower_cons,
          readNat?_lower]

theorem readInt64?_lower (radix : Nat) (s : List Char) :
    readInt64? radix (lower s) = readInt64? radix s := by
  rw [readInt64?, readInt?_lower, readInt64?]

theorem readBelow?_lower (bound : Nat) (s : List Char) :
    readBelow? bound (lower s) = readBelow? bound s := by
  cases s with
  | nil => rfl
  | cons c rest =>
    by_cases plus : c = '+'
    · subst plus
      exact congrArg (Option.filter _) (readNat?_lower 10 rest)
    · have lowerPlus := mt (toLower_eq_iff (by decide) c).mp plus
      have whole := readNat?_lower 10 (c :: rest)
      rw [lower_cons] at whole
      simp [readBelow?, plus, lowerPlus, whole]

end Ls8.Text
