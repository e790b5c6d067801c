import Mathlib.Data.List.Basic
import Mathlib.Data.List.TakeWhile
import Ls8.Text.Blank
import Ls8.Text.Lines

/-! # Lines and fields put together

Cutting undoes joining. Parts without separators, joined by one, are cut into the same parts; texts
that can each stand on a line are the lines of the text that has them on lines. Cutting into lines
commutes with every reading that keeps line ends apart from everything else. -/

namespace Ls8.Text

section Pieces

variable {α : Type} {isSeparator : α → Bool} {a : α}

/-- Parts without separators are the pieces of what joins them, unless there are none. -/
theorem pieces_intercalate (separates : isSeparator a = true) {parts : List (List α)}
    (some : parts ≠ []) (clean : ∀ part ∈ parts, ∀ b ∈ part, isSeparator b = false) :
    pieces isSeparator ([a].intercalate parts) = parts := by
  induction parts with
  | nil => contradiction
  | cons part rest ih =>
    have first := pieces_of_all (clean part List.mem_cons_self)
    cases rest with
    | nil => rw [List.intercalate_singleton, first]
    | cons next rest =>
      have others := ih (List.cons_ne_nil next rest)
        fun other member => clean other (List.mem_cons_of_mem part member)
      rw [List.intercalate_cons_cons, List.append_assoc, List.singleton_append,
        pieces_append_cons separates, first, others, List.singleton_append]

theorem fields_cons (separates : isSeparator a = true) (s : List α) :
    fields isSeparator (a :: s) = fields isSeparator s := by
  have cut := pieces_append_cons separates [] s
  rw [fields, fields, ← List.nil_append (a :: s), cut]
  rfl

/-- Non-empty parts without separators are the fields of what joins them. -/
theorem fields_intercalate (separates : isSeparator a = true) {parts : List (List α)}
    (filled : ∀ part ∈ parts, part ≠ [])
    (clean : ∀ part ∈ parts, ∀ b ∈ part, isSeparator b = false) :
    fields isSeparator ([a].intercalate parts) = parts := by
  cases parts with
  | nil => rfl
  | cons part rest =>
    rw [fields, pieces_intercalate separates (List.cons_ne_nil part rest) clean,
      List.filter_eq_self]
    intro part member
    simpa using filled part member

theorem mem_intercalate {parts : List (List α)} {b : α} (member : b ∈ [a].intercalate parts) :
    b = a ∨ ∃ part ∈ parts, b ∈ part := by
  induction parts with
  | nil => contradiction
  | cons part rest ih =>
    cases rest with
    | nil =>
      rw [List.intercalate_singleton] at member
      exact .inr ⟨part, List.mem_cons_self, member⟩
    | cons next rest =>
      rw [List.intercalate_cons_cons, List.mem_append, List.mem_append,
        List.mem_singleton] at member
      rcases member with (first | same) | others
      · exact .inr ⟨part, List.mem_cons_self, first⟩
      · exact .inl same
      · obtain same | ⟨other, among, inside⟩ := ih others
        · exact .inl same
        · exact .inr ⟨other, List.mem_cons_of_mem part among, inside⟩

/-- Joined parts end as one of the parts does. -/
theorem getLast?_intercalate {parts : List (List α)} (some : parts ≠ [])
    (filled : ∀ part ∈ parts, part ≠ []) :
    ∃ part ∈ parts, ([a].intercalate parts).getLast? = part.getLast? := by
  induction parts with
  | nil => contradiction
  | cons part rest ih =>
    cases rest with
    | nil => exact ⟨part, List.mem_cons_self, by rw [List.intercalate_singleton]⟩
    | cons next rest =>
      obtain ⟨last, among, same⟩ := ih (List.cons_ne_nil next rest)
        fun other member => filled other (List.mem_cons_of_mem part member)
      have whole := List.mem_cons_of_mem part among
      refine ⟨last, whole, ?_⟩
      rw [List.intercalate_cons_cons, List.getLast?_append, same]
      exact Option.or_of_isSome (List.getLast?_isSome.mpr (filled last whole))

/-- A sequence has no separator, or one behind which there is no other. -/
theorem last_separator (isSeparator : α → Bool) (s : List α) :
    (∀ b ∈ s, isSeparator b = false) ∨
      ∃ front a last, isSeparator a = true ∧ (∀ b ∈ last, isSeparator b = false) ∧
        s = front ++ a :: last := by
  induction s with
  | nil => exact .inl fun b member => absurd member List.not_mem_nil
  | cons c rest ih =>
    obtain clean | ⟨front, a, last, separates, clean, rfl⟩ := ih
    · cases first : isSeparator c with
      | true => exact .inr ⟨[], c, rest, first, clean, rfl⟩
      | false => exact .inl (List.forall_mem_cons.mpr ⟨first, clean⟩)
    · exact .inr ⟨c :: front, a, last, separates, clean, rfl⟩

/-- A sequence ends as its last piece does, as far as there is no separator. -/
theorem exists_last_piece (isSeparator : α → Bool) (s : List α) :
    ∃ others last, pieces isSeparator s = others ++ [last] ∧
      ∀ part, (∀ b ∈ part, isSeparator b = false) → (part <:+ s ↔ part <:+ last) := by
  obtain clean | ⟨front, a, last, separates, clean, rfl⟩ := last_separator isSeparator s
  · exact ⟨[], s, pieces_of_all clean, fun part _ => Iff.rfl⟩
  · refine ⟨pieces isSeparator front, last, ?_, ?_⟩
    · rw [pieces_append_cons separates, pieces_of_all clean]
    intro part plain
    constructor
    · intro ends
      have tail : a :: last <:+ front ++ a :: last := List.suffix_append front (a :: last)
      -- `part` has no separator, so it cannot reach back to the last one.
      have foreign : a ∉ part := fun member => by simp [plain a member] at separates
      rcases List.suffix_or_suffix_of_suffix ends tail with short | long
      · rcases List.suffix_cons_iff.mp short with rfl | inside
        · exact absurd List.mem_cons_self foreign
        · exact inside
      · exact absurd (long.mem List.mem_cons_self) foreign
    · intro ends
      exact ends.trans ((List.suffix_cons a last).trans (List.suffix_append front (a :: last)))

/-- What stands before a sequence without a separator in between joins its first piece. -/
theorem pieces_append_of_clean {front : List α} (clean : ∀ b ∈ front, isSeparator b = false)
    (rest : List α) :
    pieces isSeparator (front ++ rest) = (pieces isSeparator rest).modifyHead (front ++ ·) := by
  induction front with
  | nil => cases cut : pieces isSeparator rest <;> simp [cut]
  | cons a front ih =>
    have others := ih fun b member => clean b (List.mem_cons_of_mem a member)
    rw [List.cons_append, pieces, if_neg (by simp [clean a List.mem_cons_self]), others]
    cases cut : pieces isSeparator rest with
    | nil => exact absurd cut (pieces_ne_nil isSeparator rest)
    | cons piece more => rfl

/-- What is no separator is in a piece. -/
theorem exists_mem_pieces {s : List α} {b : α} (member : b ∈ s) (plain : isSeparator b = false) :
    ∃ piece ∈ pieces isSeparator s, b ∈ piece := by
  induction s with
  | nil => contradiction
  | cons c rest ih =>
    rw [pieces]
    rcases List.mem_cons.mp member with rfl | further
    · rw [if_neg (by simp [plain])]
      cases pieces isSeparator rest with
      | nil => exact ⟨[b], List.mem_cons_self, List.mem_cons_self⟩
      | cons piece others => exact ⟨b :: piece, List.mem_cons_self, List.mem_cons_self⟩
    · obtain ⟨piece, among, inside⟩ := ih further
      split
      · exact ⟨piece, List.mem_cons_of_mem [] among, inside⟩
      · cases cut : pieces isSeparator rest with
        | nil => exact absurd cut (pieces_ne_nil isSeparator rest)
        | cons first others =>
          rw [cut] at among
          rcases List.mem_cons.mp among with rfl | later
          · exact ⟨c :: piece, List.mem_cons_self, List.mem_cons_of_mem c inside⟩
          · exact ⟨piece, List.mem_cons_of_mem (c :: first) later, inside⟩

end Pieces

/-! ## Carriage returns -/

section Returns

variable {α : Type} [DecidableEq α] {cr a : α} {line last : List α}

theorem dropReturn_eq_self (bare : line.getLast? ≠ some cr) : dropReturn cr line = line :=
  if_neg bare

theorem dropReturn_concat (cr : α) (line : List α) : dropReturn cr (line ++ [cr]) = line := by
  rw [dropReturn, if_pos List.getLast?_concat, List.dropLast_concat]

/-- A carriage return that does not come last is kept. -/
theorem dropReturn_append_cons (filled : last ≠ []) (foreign : cr ∉ last) :
    dropReturn cr (line ++ a :: last) = line ++ a :: last := by
  apply dropReturn_eq_self
  rw [← List.singleton_append, ← List.append_assoc, List.getLast?_append_of_ne_nil _ filled]
  exact fun ends => foreign (List.mem_of_getLast? ends)

theorem mem_dropReturn (member : a ∈ line) (other : a ≠ cr) : a ∈ dropReturn cr line := by
  rcases line.eq_nil_or_concat with rfl | ⟨front, final, rfl⟩
  · contradiction
  · rw [List.concat_eq_append] at member ⊢
    rw [dropReturn, List.getLast?_concat]
    split
    · next ends =>
      rw [Option.some.inj ends] at member
      rw [List.dropLast_concat]
      exact (List.mem_append.mp member).resolve_right fun last => other (List.mem_singleton.mp last)
    · exact member

theorem exists_mem_closeLines {parts : List (List α)} {part : List α} (among : part ∈ parts)
    (member : a ∈ part) (other : a ≠ cr) : ∃ line ∈ closeLines cr parts, a ∈ line := by
  induction parts with
  | nil => contradiction
  | cons first rest ih =>
    cases rest with
    | nil =>
      obtain rfl := List.mem_singleton.mp among
      have filled : part.isEmpty = false := List.isEmpty_eq_false_iff_exists_mem.mpr ⟨a, member⟩
      rw [closeLines, filled]
      exact ⟨part, List.mem_cons_self, member⟩
    | cons next rest =>
      rw [closeLines]
      rcases List.mem_cons.mp among with rfl | later
      · exact ⟨dropReturn cr part, List.mem_cons_self, mem_dropReturn member other⟩
      · obtain ⟨line, found, inside⟩ := ih later
        exact ⟨line, List.mem_cons_of_mem _ found, inside⟩

/-- What is neither a line feed nor a carriage return is on a line. -/
theorem exists_mem_linesBy {lf : α} (member : a ∈ line) (unbroken : a ≠ lf) (other : a ≠ cr) :
    ∃ whole ∈ linesBy lf cr line, a ∈ whole := by
  obtain ⟨piece, among, inside⟩ : ∃ piece ∈ pieces (· == lf) line, a ∈ piece :=
    exists_mem_pieces member (beq_eq_false_iff_ne.mpr unbroken)
  exact exists_mem_closeLines among inside other

end Returns

/-! ## Texts -/

/-- A text that can stand on a line of its own and is not lost there. -/
structure IsLine (s : List Char) : Prop where
  filled : s ≠ []
  unbroken : '\n' ∉ s
  bare : s.getLast? ≠ some '\r'

private theorem closeLines_eq_self {parts : List (List Char)}
    (whole : ∀ part ∈ parts, IsLine part) : closeLines '\r' parts = parts := by
  induction parts with
  | nil => rfl
  | cons part rest ih =>
    have first := whole part List.mem_cons_self
    cases rest with
    | nil => simpa [closeLines] using first.filled
    | cons next rest =>
      have others := ih fun other member => whole other (List.mem_cons_of_mem part member)
      rw [closeLines, others, dropReturn_eq_self first.bare]

/-- Texts joined by line feeds are the lines of the text that this makes. -/
theorem lines_intercalate {parts : List (List Char)} (whole : ∀ part ∈ parts, IsLine part) :
    lines (['\n'].intercalate parts) = parts := by
  cases parts with
  | nil => rfl
  | cons part rest =>
    have clean : ∀ other ∈ part :: rest, ∀ c ∈ other, (c == '\n') = false := by
      intro other member c inside
      rw [beq_eq_false_iff_ne]
      rintro rfl
      exact (whole other member).unbroken inside
    have cut : pieces (· == '\n') (['\n'].intercalate (part :: rest)) = part :: rest :=
      pieces_intercalate (by simp) (List.cons_ne_nil part rest) clean
    rw [lines, linesBy, cut]
    exact closeLines_eq_self whole

theorem lines_join {texts : List String} (whole : ∀ text ∈ texts, IsLine text.toList) :
    lines (join "\n" texts).toList = texts.map String.toList := by
  rw [join, String.toList_intercalate]
  refine lines_intercalate fun part member => ?_
  obtain ⟨text, among, rfl⟩ := List.mem_map.mp member
  exact whole text among

theorem closeLines_append (cr : Char) (parts : List (List Char)) {others : List (List Char)}
    (more : others ≠ []) :
    closeLines cr (parts ++ others) = parts.map (dropReturn cr) ++ closeLines cr others := by
  induction parts with
  | nil => rfl
  | cons part rest ih =>
    rw [List.map_cons, List.cons_append, List.cons_append, ← ih]
    cases following : rest ++ others with
    | nil => exact absurd (List.append_eq_nil_iff.mp following).2 more
    | cons next others => rfl

/-- A line feed ends a line, whatever follows and however many lines it ends. -/
theorem lines_append_cons (s rest : List Char) :
    lines (s ++ '\n' :: rest) = (pieces (· == '\n') s).map (dropReturn '\r') ++ lines rest := by
  rw [lines, linesBy, pieces_append_cons (by simp), closeLines_append '\r' _ (pieces_ne_nil _ rest)]
  rfl

/-- A line feed ends a line, whatever follows. -/
theorem lines_append_lineFeed {line : List Char} (unbroken : '\n' ∉ line) (rest : List Char) :
    lines (line ++ '\n' :: rest) = dropReturn '\r' line :: lines rest := by
  have clean : ∀ c ∈ line, (c == '\n') = false := by
    intro c member
    rw [beq_eq_false_iff_ne]
    rintro rfl
    exact unbroken member
  rw [lines_append_cons, pieces_of_all clean]
  rfl

/-- The last line of a text loses nothing if it does not end like a line. -/
theorem lines_eq_map_pieces {s : List Char} (last : ∃ c ∈ s.getLast?, isBlank c = false) :
    lines s = (pieces (· == '\n') s).map (dropReturn '\r') := by
  obtain ⟨c, ends, visible⟩ := last
  obtain ⟨others, last, cut, suffix⟩ := exists_last_piece (· == '\n') s
  have plain : ∀ b ∈ [c], (b == '\n') = false := by
    intro b member
    obtain rfl := List.mem_singleton.mp member
    rw [beq_eq_false_iff_ne]
    rintro rfl
    contradiction
  obtain ⟨before, whole⟩ := List.getLast?_eq_some_iff.mp ends
  obtain ⟨front, rfl⟩ := (suffix [c] plain).mp ⟨before, whole.symm⟩
  have kept : dropReturn '\r' (front ++ [c]) = front ++ [c] := by
    apply if_neg
    rw [List.getLast?_concat]
    rintro ⟨rfl⟩
    contradiction
  have closed : closeLines '\r' [front ++ [c]] = [front ++ [c]] := if_neg (by simp)
  rw [lines, linesBy, cut, closeLines_append '\r' others (List.cons_ne_nil _ _), closed,
    List.map_append, List.map_singleton, kept]

/-- A text that is blank at neither end is not trimmed. -/
theorem trim_eq_self {s : List Char} (first : ∀ c ∈ s.head?, isBlank c = false)
    (last : ∀ c ∈ s.getLast?, isBlank c = false) : trim s = s := by
  have front : ∀ {t : List Char}, (∀ c ∈ t.head?, isBlank c = false) →
      t.dropWhile isBlank = t := by
    intro t visible
    cases t with
    | nil => rfl
    | cons c t => exact List.dropWhile_cons_of_neg (by simp [visible c rfl])
  rw [trim, trimStart, front first, trimEnd, front, List.reverse_reverse]
  rwa [List.head?_reverse]

/-! ## Lines of sequences read as others -/

section Reading

variable {α β : Type}

/-- A reading of sequences as sequences of another kind that begins anew at every line feed and every
carriage return, and finds line ends nowhere else. -/
structure ReadsLineEnds (f : List α → List β) (lf cr : α) (lf' cr' : β) : Prop where
  nil_iff : ∀ s, f s = [] ↔ s = []
  lineFeed : ∀ s rest, f (s ++ lf :: rest) = f s ++ lf' :: f rest
  carriageReturn : ∀ s rest, f (s ++ cr :: rest) = f s ++ cr' :: f rest
  lineFeed_only : ∀ s, lf' ∈ f s → lf ∈ s
  carriageReturn_only : ∀ s, cr' ∈ f s → cr ∈ s

namespace ReadsLineEnds

variable {f : List α → List β} {lf cr : α} {lf' cr' : β}

variable [DecidableEq α] [DecidableEq β]

theorem pieces_map (reads : ReadsLineEnds f lf cr lf' cr') (s : List α) :
    pieces (· == lf') (f s) = (pieces (· == lf) s).map f := by
  induction length : s.length using Nat.strong_induction_on generalizing s with
  | h n ih =>
    have whole {s : List α} (clean : ∀ b ∈ s, (b == lf) = false) :
        pieces (· == lf') (f s) = (pieces (· == lf) s).map f := by
      rw [pieces_of_all clean, List.map_singleton]
      apply pieces_of_all
      intro b member
      rw [beq_eq_false_iff_ne]
      rintro rfl
      have broken := clean lf (reads.lineFeed_only s member)
      rw [BEq.rfl] at broken
      contradiction
    obtain clean | ⟨front, a, last, separates, clean, rfl⟩ := last_separator (· == lf) s
    · exact whole clean
    · obtain rfl := eq_of_beq separates
      have short : front.length < n := by
        rw [← length, List.length_append]
        exact Nat.lt_add_of_pos_right (Nat.zero_lt_succ _)
      rw [reads.lineFeed, pieces_append_cons (by simp), pieces_append_cons (by simp), List.map_append,
        ih front.length short front rfl, whole clean]

theorem dropReturn_map (reads : ReadsLineEnds f lf cr lf' cr') (line : List α) :
    dropReturn cr' (f line) = f (dropReturn cr line) := by
  obtain clean | ⟨front, a, last, separates, clean, rfl⟩ := last_separator (· == cr) line
  · have foreign : cr ∉ line := fun member => by simpa using clean cr member
    rw [dropReturn_eq_self fun ends => foreign (List.mem_of_getLast? ends),
      dropReturn_eq_self fun ends =>
        foreign (reads.carriageReturn_only line (List.mem_of_getLast? ends))]
  · obtain rfl := eq_of_beq separates
    have foreign : a ∉ last := fun member => by simpa using clean a member
    rw [reads.carriageReturn]
    by_cases empty : last = []
    · rw [empty, (reads.nil_iff []).mpr rfl, dropReturn_concat, dropReturn_concat]
    · have filled : f last ≠ [] := mt (reads.nil_iff last).mp empty
      rw [dropReturn_append_cons filled fun member =>
          foreign (reads.carriageReturn_only last member),
        dropReturn_append_cons empty foreign, reads.carriageReturn]

theorem closeLines_map (reads : ReadsLineEnds f lf cr lf' cr') (parts : List (List α)) :
    closeLines cr' (parts.map f) = (closeLines cr parts).map f := by
  induction parts with
  | nil => rfl
  | cons part rest ih =>
    cases rest with
    | nil =>
      have empty : (f part).isEmpty = part.isEmpty := by
        rw [Bool.eq_iff_iff, List.isEmpty_iff, List.isEmpty_iff]
        exact reads.nil_iff part
      simp only [List.map_cons, List.map_nil, closeLines, empty]
      split
      · rfl
      · rfl
    | cons next rest =>
      rw [closeLines, List.map_cons (l := closeLines cr (next :: rest)), ← ih,
        ← reads.dropReturn_map]
      rfl

/-- The lines of a sequence that has been read are the lines of the sequence, each read. -/
theorem linesBy_map (reads : ReadsLineEnds f lf cr lf' cr') (s : List α) :
    linesBy lf' cr' (f s) = (linesBy lf cr s).map f := by
  rw [linesBy, linesBy, reads.pieces_map, reads.closeLines_map]

end ReadsLineEnds

/-- Every element has a code, and those of line feed and carriage return are single elements that
occur in no other code. -/
structure KeepsLineEnds (code : α → List β) (lf cr : α) (lf' cr' : β) : Prop where
  filled : ∀ a, code a ≠ []
  lineFeed : code lf = [lf']
  carriageReturn : code cr = [cr']
  lineFeed_only : ∀ a, lf' ∈ code a → a = lf
  carriageReturn_only : ∀ a, cr' ∈ code a → a = cr

namespace KeepsLineEnds

variable {code : α → List β} {lf cr : α} {lf' cr' : β}

/-- Elements can be read one by one. -/
theorem readsLineEnds (keeps : KeepsLineEnds code lf cr lf' cr') :
    ReadsLineEnds (List.flatMap code) lf cr lf' cr' where
  nil_iff s := by
    cases s with
    | nil => simp
    | cons a rest => simp [keeps.filled a]
  lineFeed s rest := by
    rw [List.flatMap_append, List.flatMap_cons, keeps.lineFeed, List.singleton_append]
  carriageReturn s rest := by
    rw [List.flatMap_append, List.flatMap_cons, keeps.carriageReturn, List.singleton_append]
  lineFeed_only s member := by
    obtain ⟨a, among, inside⟩ := List.mem_flatMap.mp member
    exact keeps.lineFeed_only a inside ▸ among
  carriageReturn_only s member := by
    obtain ⟨a, among, inside⟩ := List.mem_flatMap.mp member
    exact keeps.carriageReturn_only a inside ▸ among

/-- The lines of an encoded sequence are the lines of the sequence, each encoded. -/
theorem linesBy_flatMap [DecidableEq α] [DecidableEq β] (keeps : KeepsLineEnds code lf cr lf' cr')
    (s : List α) : linesBy lf' cr' (s.flatMap code) = (linesBy lf cr s).map (·.flatMap code) :=
  keeps.readsLineEnds.linesBy_map s

end KeepsLineEnds

end Reading

end Ls8.Text
