import Mathlib.Data.List.Infix
import Ls8.Proofs.Text.LetterCase
import Ls8.Proofs.Text.Utf8Formed

/-! # What has an upper-case form in ASCII

The full case mapping takes more than the letters of ASCII to capitals of ASCII: the dotless i, the long
s, the sharp s and the ligatures of f, s and t go there too, and nothing else does. So a name in capitals
is the upper-case form of more texts than of itself in either case, but of no more than can be told. -/

namespace Ls8.Text

/-- The characters above ASCII whose upper-case form is in ASCII, with that form. -/
def foldings : List (Char × List Char) :=
  [('ı', ['I']), ('ſ', ['S']), ('ß', ['S', 'S']), ('ﬀ', ['F', 'F']), ('ﬁ', ['F', 'I']),
    ('ﬂ', ['F', 'L']), ('ﬃ', ['F', 'F', 'I']), ('ﬄ', ['F', 'F', 'L']), ('ﬅ', ['S', 'T']),
    ('ﬆ', ['S', 'T'])]

/-- Whether the upper-case form of a character above ASCII is in ASCII. -/
def folds (c : Char) : Bool := (foldings.map Prod.fst).contains c

/-- The letter that a character alone stands for in a name: the dotless i and the long s stand for
letters of ASCII, which stand for themselves in either case. -/
def folded (c : Char) : Char := if c = 'ı' then 'I' else if c = 'ſ' then 'S' else c.toUpper

/-- The pairs of capitals that are the upper-case form of one character or begin it. -/
def ligatures : List (List Char) := [['S', 'S'], ['F', 'F'], ['F', 'I'], ['F', 'L'], ['S', 'T']]

/-! ## Characters -/

theorem upperChar_of_ascii {c : Char} (ascii : c.toNat < 128) : upperChar c = [c.toUpper] := if_pos ascii

theorem upperChar_of_mem_foldings {c : Char} {form : List Char} (folding : (c, form) ∈ foldings) :
    upperChar c = form := by
  have table : foldings.map (fun entry => upperChar entry.1) = foldings.map Prod.snd := by
    decide +kernel
  exact List.map_inj_left.mp table _ folding

theorem folds_iff {c : Char} : folds c = true ↔ (c, upperChar c) ∈ foldings := by
  rw [folds, List.contains_iff_mem, List.mem_map]
  constructor
  · rintro ⟨⟨d, form⟩, folding, rfl⟩
    rwa [upperChar_of_mem_foldings folding]
  · exact fun folding => ⟨_, folding, rfl⟩

theorem toUpper_of_above {c : Char} (above : 128 ≤ c.toNat) : c.toUpper = c := by
  have large : ¬('a'.val ≤ c.val ∧ c.val ≤ 'z'.val) := by
    rintro ⟨-, high⟩
    have bound : c.toNat ≤ 122 := high
    omega
  exact dif_neg large

/-- A character above ASCII has a form in ASCII, or an entry among the longer forms, or a form that is one
character above ASCII. -/
theorem upperChar_of_above {c : Char} (above : 128 ≤ c.toNat) :
    folds c = true ∨
      (∃ codes, (c.toNat, codes) ∈ upperExpansions ∧ upperChar c = codes.map Char.ofNat) ∨
      ∃ d, upperChar c = [d] ∧ 128 ≤ d.toNat := by
  rw [or_iff_not_imp_left]
  intro plain
  rw [upperChar, if_neg (Nat.not_lt.mpr above)]
  split
  · next codes found =>
    obtain ⟨front, rest, table, -⟩ := List.lookup_eq_some_iff.mp found
    refine .inl ⟨codes, ?_, rfl⟩
    rw [table]
    exact List.mem_append_right front List.mem_cons_self
  · split
    · next run found =>
      refine .inr ⟨_, rfl, ?_⟩
      have table : ∀ run ∈ upperRuns, run.first = run.last ∧ folds (Char.ofNat run.first) = true ∨
          128 ≤ run.first + run.shift ∧ (run.last + run.shift < 0xd800 ∨
            0xdfff < run.first + run.shift ∧ run.last + run.shift < 0x110000) := by decide +kernel
      have covered := List.find?_some found
      simp only [CaseRun.covers, Bool.and_eq_true, decide_eq_true_eq] at covered
      obtain ⟨⟨low, high⟩, -⟩ := covered
      obtain ⟨single, folding⟩ | ⟨far, valid⟩ := table run (List.mem_of_find?_eq_some found)
      · have same : c.toNat = run.first := by omega
        rw [← same, Char.ofNat_toNat] at folding
        exact absurd folding plain
      · have scalar : (c.toNat + run.shift).toNat.isValidChar := by
          simp only [Nat.isValidChar]
          omega
        have form : (Char.ofNat (c.toNat + run.shift).toNat).toNat = (c.toNat + run.shift).toNat :=
          Utf8.toNat_val_ofNat scalar
        rw [form]
        omega
    · exact .inr ⟨c, rfl, above⟩

/-- What holds of the forms of ASCII, of the longer forms and of single characters above ASCII holds of
every upper-case form. -/
theorem upperChar_passes {test : List Char → Bool}
    (letters : ∀ code < 128, test [(Char.ofNat code).toUpper] = true)
    (forms : foldings.all (fun entry => test entry.2) = true)
    (longer : upperExpansions.all (fun entry => test (entry.2.map Char.ofNat)) = true)
    (others : ∀ d, 128 ≤ d.toNat → test [d] = true) (c : Char) : test (upperChar c) = true := by
  by_cases ascii : c.toNat < 128
  · rw [upperChar_of_ascii ascii]
    obtain ⟨code, small, rfl⟩ := exists_code ascii
    exact letters code small
  · obtain folding | ⟨codes, listed, form⟩ | ⟨d, form, far⟩ :=
      upperChar_of_above (Nat.le_of_not_lt ascii)
    · exact List.all_eq_true.mp forms _ (folds_iff.mp folding)
    · rw [form]
      exact List.all_eq_true.mp longer _ listed
    · rw [form]
      exact others d far

theorem upperChar_ne_nil (c : Char) : upperChar c ≠ [] := by
  have filled := @upperChar_passes (!·.isEmpty) (fun _ _ => rfl) (by decide) (by decide +kernel)
    (fun _ _ => rfl) c
  intro empty
  rw [empty] at filled
  contradiction

theorem toUpper_of_mem_upperChar {c d : Char} (member : d ∈ upperChar c) : d.toUpper = d := by
  have fixed := @upperChar_passes (·.all fun d => d.toUpper == d) (by decide +kernel) (by decide)
    (by decide +kernel) (fun d far => by simp [toUpper_of_above far]) c
  exact beq_iff_eq.mp (List.all_eq_true.mp fixed d member)

theorem exists_mem_upperChar {c : Char} (above : 128 ≤ c.toNat) (plain : folds c = false) :
    ∃ d ∈ upperChar c, 128 ≤ d.toNat := by
  obtain folding | ⟨codes, listed, form⟩ | ⟨d, form, far⟩ := upperChar_of_above above
  · rw [plain] at folding
    contradiction
  · have table : upperExpansions.all (fun entry => folds (Char.ofNat entry.1) ||
        (entry.2.map Char.ofNat).any fun d => 128 ≤ d.toNat) = true := by decide +kernel
    have entry := List.all_eq_true.mp table _ listed
    rw [Char.ofNat_toNat, plain, Bool.false_or, ← form] at entry
    simpa using entry
  · exact ⟨d, by rw [form]; exact List.mem_singleton_self d, far⟩

/-- What a test of texts in ASCII says of the upper-case form of a character. -/
theorem test_upperChar {test : List Char → Bool} {p : Char → Bool}
    (letters : ∀ code < 128, test [(Char.ofNat code).toUpper] = p (Char.ofNat code))
    (forms : foldings.all (fun entry => test entry.2) = true)
    (ascii : ∀ s, test s = true → ∀ d ∈ s, d.toNat < 128)
    (below : ∀ c, p c = true → c.toNat < 128) (c : Char) :
    test (upperChar c) = (p c || folds c) := by
  by_cases letter : c.toNat < 128
  · have plain : ∀ code < 128, folds (Char.ofNat code) = false := by decide +kernel
    rw [upperChar_of_ascii letter]
    obtain ⟨code, small, rfl⟩ := exists_code letter
    rw [letters code small, plain code small, Bool.or_false]
  · cases folding : folds c with
    | true =>
      rw [Bool.or_true]
      exact List.all_eq_true.mp forms _ (folds_iff.mp folding)
    | false =>
      obtain ⟨d, member, far⟩ := exists_mem_upperChar (Nat.le_of_not_lt letter) folding
      have refused : test (upperChar c) = false :=
        Bool.eq_false_iff.mpr fun accepted => absurd (ascii _ accepted d member) (Nat.not_lt.mpr far)
      rw [refused, Bool.eq_false_iff.mpr (mt (below c) letter)]
      rfl

/-- The upper-case form of a character is one letter, or it has two capitals side by side that belong to
one character, or it is not in ASCII. -/
theorem upperChar_cases (c : Char) :
    upperChar c = [folded c] ∨ (∃ pair ∈ ligatures, pair <:+: upperChar c) ∨
      ∃ d ∈ upperChar c, 128 ≤ d.toNat := by
  by_cases ascii : c.toNat < 128
  · have table : ∀ code < 128, folded (Char.ofNat code) = (Char.ofNat code).toUpper := by decide +kernel
    left
    rw [upperChar_of_ascii ascii]
    obtain ⟨code, small, rfl⟩ := exists_code ascii
    rw [table code small]
  · cases folding : folds c with
    | true =>
      have table : foldings.all (fun entry => entry.2 == [folded entry.1] ||
          ligatures.any fun pair => decide (pair <:+: entry.2)) = true := by decide
      have entry := List.all_eq_true.mp table _ (folds_iff.mp folding)
      rw [Bool.or_eq_true] at entry
      rcases entry with single | double
      · exact .inl (beq_iff_eq.mp single)
      · exact .inr (.inl (by simpa using double))
    | false => exact .inr (.inr (exists_mem_upperChar (Nat.le_of_not_lt ascii) folding))

/-- What one letter of ASCII stands for. -/
theorem upperChar_of_folded {c : Char} (ascii : (folded c).toNat < 128) : upperChar c = [folded c] := by
  by_cases letter : c.toNat < 128
  · have table : ∀ code < 128, upperChar (Char.ofNat code) = [folded (Char.ofNat code)] := by
      decide +kernel
    obtain ⟨code, small, rfl⟩ := exists_code letter
    exact table code small
  · by_cases dotless : c = 'ı'
    · rw [dotless]
      decide +kernel
    · by_cases long : c = 'ſ'
      · rw [long]
        decide +kernel
      · rw [folded, if_neg dotless, if_neg long, toUpper_of_above (Nat.le_of_not_lt letter)] at ascii
        contradiction

/-! ## Texts -/

theorem map_toUpper_upper (s : List Char) : (upper s).map Char.toUpper = upper s := by
  refine (List.map_congr_left fun d member => ?_).trans (List.map_id _)
  obtain ⟨c, -, origin⟩ := List.mem_flatMap.mp member
  exact toUpper_of_mem_upperChar origin

theorem upper_eq_map_folded {s : List Char} (single : ∀ c ∈ s, upperChar c = [folded c]) :
    upper s = s.map folded :=
  (List.flatMap_congr single).trans (List.flatMap_pure_eq_map folded s)

/-- The texts with an upper-case form in ASCII that has no ligature's capitals side by side are the texts
that give it letter by letter. -/
theorem upper_eq_iff {t : List Char} (ascii : ∀ c ∈ t, c.toNat < 128)
    (plain : ∀ pair ∈ ligatures, ¬pair <:+: t) {s : List Char} : upper s = t ↔ s.map folded = t := by
  constructor
  · rintro rfl
    refine (upper_eq_map_folded fun c member => ?_).symm
    have inside : upperChar c <:+: upper s := List.infix_flatMap_of_mem member upperChar
    obtain single | ⟨pair, listed, double⟩ | ⟨d, found, above⟩ := upperChar_cases c
    · exact single
    · exact absurd (double.trans inside) (plain pair listed)
    · exact absurd (ascii d (inside.subset found)) (Nat.not_lt.mpr above)
  · rintro rfl
    exact upper_eq_map_folded fun c member =>
      upperChar_of_folded (ascii _ (List.mem_map_of_mem member))

end Ls8.Text
