import Ls8.Proofs.Text.Utf8

/-! # Places in a text by bytes

A place in a text as the number of bytes in front of it. A text can be cut at such a place if it lies within
the text and not inside a character; where a character begins, it can. -/

namespace Ls8.Text

/-- The number of bytes in front of the first character with a property. -/
def offset? (p : Char → Bool) : List Char → Option Nat
  | [] => none
  | c :: rest =>
    if p c then some 0 else (offset? p rest).map ((String.utf8EncodeChar c).length + ·)

/-- What stands in front of a place, if a text can be cut there. -/
def upTo? (s : List Char) (offset : Nat) : Option (List Char) :=
  let bytes := s.flatMap String.utf8EncodeChar
  if offset ≤ bytes.length then Utf8.decode? (bytes.take offset) else none

/-- What stands behind a place, if a text can be cut there. -/
def behind? (s : List Char) (offset : Nat) : Option (List Char) :=
  let bytes := s.flatMap String.utf8EncodeChar
  if offset ≤ bytes.length then Utf8.decode? (bytes.drop offset) else none

variable {p : Char → Bool} {s : List Char} {offset : Nat}

theorem offset?_eq_none_iff : offset? p s = none ↔ ∀ c ∈ s, p c = false := by
  induction s with
  | nil => simp [offset?]
  | cons c rest ih =>
    rw [offset?, List.forall_mem_cons]
    cases p c <;> simp [ih]

/-- A text is cut by the first character with a property, at the place of this character. -/
theorem exists_first_of_offset? (found : offset? p s = some offset) :
    ∃ c rest, p c = true ∧ s.dropWhile (!p ·) = c :: rest ∧
      ((s.takeWhile (!p ·)).flatMap String.utf8EncodeChar).length = offset := by
  induction s generalizing offset with
  | nil => contradiction
  | cons b others ih =>
    rw [offset?] at found
    cases holds : p b with
    | true =>
      rw [holds, if_pos rfl] at found
      obtain rfl := Option.some.inj found
      exact ⟨b, others, holds, by simp [holds], by simp [holds]⟩
    | false =>
      rw [holds, if_neg Bool.false_ne_true] at found
      obtain ⟨place, further, rfl⟩ := Option.map_eq_some_iff.mp found
      obtain ⟨c, rest, first, behind, length⟩ := ih further
      exact ⟨c, rest, first, by simp [holds, behind], by simp [holds, ← length]⟩

theorem upTo?_append (before after : List Char) :
    upTo? (before ++ after) (before.flatMap String.utf8EncodeChar).length = some before := by
  rw [upTo?, List.flatMap_append, if_pos (List.length_append ▸ Nat.le_add_right ..), List.take_left,
    Utf8.decode?_flatMap]

theorem behind?_append (before after : List Char) :
    behind? (before ++ after) (before.flatMap String.utf8EncodeChar).length = some after := by
  rw [behind?, List.flatMap_append, if_pos (List.length_append ▸ Nat.le_add_right ..), List.drop_left,
    Utf8.decode?_flatMap]

/-- A text can be cut at the place of the first character with a property. -/
theorem upTo?_of_offset? (found : offset? p s = some offset) :
    upTo? s offset = some (s.takeWhile (!p ·)) := by
  obtain ⟨c, rest, -, behind, rfl⟩ := exists_first_of_offset? found
  have whole := upTo?_append (s.takeWhile (!p ·)) (c :: rest)
  rwa [← behind, List.takeWhile_append_dropWhile] at whole

/-- A text can be cut one byte behind this place if the character is of ASCII. -/
theorem behind?_of_offset? (found : offset? p s = some offset)
    (ascii : ∀ c, p c = true → c.toNat < 128) :
    behind? s (offset + 1) = some ((s.dropWhile (!p ·)).drop 1) := by
  obtain ⟨c, rest, first, behind, rfl⟩ := exists_first_of_offset? found
  have next : ((s.takeWhile (!p ·)).flatMap String.utf8EncodeChar).length + 1 =
      ((s.takeWhile (!p ·) ++ [c]).flatMap String.utf8EncodeChar).length := by
    rw [List.flatMap_append, List.flatMap_singleton, Utf8.utf8EncodeChar_of_ascii (ascii c first),
      List.length_append, List.length_singleton]
  have whole : s.takeWhile (!p ·) ++ [c] ++ rest = s := by
    rw [List.append_assoc, List.singleton_append, ← behind, List.takeWhile_append_dropWhile]
  have cut := behind?_append (s.takeWhile (!p ·) ++ [c]) rest
  rw [whole, ← next] at cut
  rw [cut, behind, List.drop_one, List.tail_cons]

end Ls8.Text
