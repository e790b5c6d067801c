/-! # Byte arithmetic

Every operation whose exact result may leave the range of a byte goes through an overflow mode:
`wrap` takes the result modulo 256, `trap` reports the overflow instead. The program counter and the
addresses of operands are not subject to the mode; they always wrap. -/

namespace Ls8

/-- What happens to a result that does not fit a byte. -/
inductive OverflowMode
  | wrap
  | trap
  deriving DecidableEq, Repr, Inhabited

/-- The operations that are subject to the overflow mode. -/
inductive Operation
  | add
  | subtract
  | multiply
  deriving DecidableEq, Repr

namespace Operation

/-- The exact result of an operation. -/
def exact : Operation → UInt8 → UInt8 → Int
  | .add, left, right => left.toNat + right.toNat
  | .subtract, left, right => left.toNat - right.toNat
  | .multiply, left, right => left.toNat * right.toNat

/-- The result of an operation modulo 256. -/
def wrapped : Operation → UInt8 → UInt8 → UInt8
  | .add, left, right => left + right
  | .subtract, left, right => left - right
  | .multiply, left, right => left * right

/-- The exact result is a byte. -/
def Fits (op : Operation) (left right : UInt8) : Prop :=
  0 ≤ op.exact left right ∧ op.exact left right ≤ 255

instance (op : Operation) (left right : UInt8) : Decidable (op.Fits left right) :=
  inferInstanceAs (Decidable (_ ∧ _))

/-- The name of an operation in messages. -/
def name : Operation → String
  | .add => "add"
  | .subtract => "subtract"
  | .multiply => "multiply"

end Operation

/-- An operation whose result did not fit, with its operands. -/
structure Overflow where
  operation : Operation
  left : UInt8
  right : UInt8
  deriving DecidableEq, Repr

/-- An overflow in words. -/
def Overflow.message (o : Overflow) : String :=
  o.operation.name ++ " overflow: " ++ Nat.repr o.left.toNat ++ " and " ++ Nat.repr o.right.toNat

/-- The result of an operation under an overflow mode. -/
def OverflowMode.apply (mode : OverflowMode) (op : Operation) (left right : UInt8) :
    Except Overflow UInt8 :=
  if mode = .trap ∧ ¬op.Fits left right then .error ⟨op, left, right⟩
  else .ok (op.wrapped left right)

@[simp] theorem OverflowMode.apply_wrap (op : Operation) (left right : UInt8) :
    OverflowMode.wrap.apply op left right = .ok (op.wrapped left right) := by
  simp [OverflowMode.apply]

/-- A trapping operation fails exactly when its result does not fit. -/
theorem OverflowMode.apply_trap (op : Operation) (left right : UInt8) :
    OverflowMode.trap.apply op left right =
      if op.Fits left right then .ok (op.wrapped left right) else .error ⟨op, left, right⟩ := by
  by_cases h : op.Fits left right <;> simp [OverflowMode.apply, h]

end Ls8
