import Mathlib.Data.List.Basic

/-! # Computations that may fail, and bytes of integers

A sequence of two computations succeeds exactly when both do, and fails with the error of the first
that fails. The readers of source lines and of instructions are such sequences, and later arguments
take them apart with these facts. -/

namespace Ls8

variable {ε α β : Type}

@[simp] theorem ok_bind (a : α) (f : α → Except ε β) : (Except.ok a >>= f) = f a := rfl

@[simp] theorem error_bind (e : ε) (f : α → Except ε β) :
    (Except.error e >>= f) = .error e := rfl

@[simp] theorem pure_eq_ok (a : α) : (pure a : Except ε α) = .ok a := rfl

@[simp] theorem throw_eq_error (e : ε) : (throw e : Except ε α) = .error e := rfl

theorem bind_eq_ok_iff {x : Except ε α} {f : α → Except ε β} {b : β} :
    x >>= f = .ok b ↔ ∃ a, x = .ok a ∧ f a = .ok b := by
  cases x <;> simp

theorem bind_eq_error_iff {x : Except ε α} {f : α → Except ε β} {e : ε} :
    x >>= f = .error e ↔ x = .error e ∨ ∃ a, x = .ok a ∧ f a = .error e := by
  cases x <;> simp

theorem mapM_cons_eq_some_iff {f : α → Option β} {a : α} {rest : List α} {found : List β} :
    (a :: rest).mapM f = some found ↔
      ∃ b others, f a = some b ∧ rest.mapM f = some others ∧ b :: others = found := by
  simp only [List.mapM_cons, Option.bind_eq_bind, Option.bind_eq_some_iff, Option.pure_def,
    Option.some.injEq]
  constructor
  · rintro ⟨b, first, others, read, same⟩
    exact ⟨b, others, first, read, same⟩
  · rintro ⟨b, others, first, read, same⟩
    exact ⟨b, first, others, read, same⟩

theorem length_of_mapM_eq_some {f : α → Option β} {s : List α} {found : List β}
    (read : s.mapM f = some found) : found.length = s.length := by
  induction s generalizing found with
  | nil =>
    obtain rfl := Option.some.inj read
    rfl
  | cons a rest ih =>
    obtain ⟨b, others, -, further, rfl⟩ := mapM_cons_eq_some_iff.mp read
    rw [List.length_cons, List.length_cons, ih further]

theorem mapM_eq_some_map {f : α → Option β} {g : α → β} (all : ∀ a, f a = some (g a)) (s : List α) :
    s.mapM f = some (s.map g) := by
  rw [funext all]
  exact List.mapM_pure

/-- All computations of a list fail if one of them does. -/
theorem mapM_eq_none_of_mem {f : α → Option β} {s : List α} {a : α} (member : a ∈ s)
    (failed : f a = none) : s.mapM f = none := by
  induction s with
  | nil => contradiction
  | cons b rest ih =>
    rw [List.mapM_cons]
    rcases List.mem_cons.mp member with rfl | further
    · rw [failed]
      rfl
    · rw [ih further]
      cases f b <;> rfl

theorem ofInt_toNat (x : UInt8) : UInt8.ofInt x.toNat = x := by
  have bound := x.toNat_lt
  have small : ((x.toNat : Int) % 2 ^ 8).toNat = x.toNat := by omega
  rw [UInt8.ofInt, small, UInt8.ofNat_toNat]

end Ls8
