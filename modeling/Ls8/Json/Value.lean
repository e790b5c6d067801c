/-! # JSON values

The tree that a JSON text denotes. Objects keep their members in the order of the text, repetitions
included, because a reader has to see both. Integers that fit a 64-bit word are kept exactly; every
other number is a double. -/

namespace Ls8.Json

/-- A number: an integer from `-2 ^ 63` to `2 ^ 64 - 1`, or a finite double. -/
inductive Number
  | integer (n : Int)
  | real (x : Float)

/-- A JSON value. `unrepresentable` stands for a text that has the form of a value but denotes none:
a number beyond the range of doubles, a string with half of a surrogate pair, an object with such a
name. -/
inductive Value
  | null
  | bool (b : Bool)
  | number (n : Number)
  | string (s : String)
  | array (items : List Value)
  | object (members : List (String × Value))
  | unrepresentable

instance : Inhabited Value := ⟨.null⟩

/-- The greatest number of arrays and objects that may enclose each other. -/
def nestingLimit : Nat := 127

mutual

/-- Whether every part of a value denotes something and nothing is nested deeper than `room`. -/
def Value.isSoundWithin : Nat → Value → Bool
  | 0, .array _ => false
  | 0, .object _ => false
  | room + 1, .array items => itemsSoundWithin room items
  | room + 1, .object members => membersSoundWithin room members
  | _, .unrepresentable => false
  | _, _ => true

/-- Whether all items of an array are sound. -/
def itemsSoundWithin : Nat → List Value → Bool
  | _, [] => true
  | room, item :: rest => item.isSoundWithin room && itemsSoundWithin room rest

/-- Whether all members of an object are sound. -/
def membersSoundWithin : Nat → List (String × Value) → Bool
  | _, [] => true
  | room, (_, value) :: rest => value.isSoundWithin room && membersSoundWithin room rest

end

/-- Whether a value is one that a JSON document may hold as a whole. -/
def Value.isSound (value : Value) : Bool := value.isSoundWithin nestingLimit

/-- The value of an unsigned word. -/
def Value.ofNat (n : Nat) : Value := .number (.integer n)

end Ls8.Json
