import Ls8.Text.Numeral

/-! # Registers

Eight general registers of one byte, the last of which is the stack pointer, a program counter and
one flag. -/

namespace Ls8

/-- A general register by its number. -/
abbrev Register := Fin 8

namespace Register

/-- The register used as the stack pointer. -/
def stackPointer : Register := 7

/-- The register that a byte names, if it names one. -/
def ofByte? (b : UInt8) : Option Register :=
  if h : b.toNat < 8 then some ⟨b.toNat, h⟩ else none

/-- The byte that names a register. -/
def toByte (r : Register) : UInt8 := UInt8.ofNat r.val

/-- All registers in order. -/
def all : List Register := List.finRange 8

theorem toNat_toByte (r : Register) : (toByte r).toNat = r.val :=
  UInt8.toNat_ofNat_of_lt' (Nat.lt_trans r.isLt (by decide))

@[simp] theorem ofByte?_toByte (r : Register) : ofByte? (toByte r) = some r := by
  simp [ofByte?, toNat_toByte]

/-- A byte names a register exactly when it is that register's byte. -/
theorem ofByte?_eq_some_iff {b : UInt8} {r : Register} : ofByte? b = some r ↔ b = toByte r := by
  constructor
  · intro h
    simp only [ofByte?] at h
    split at h
    · cases h
      exact UInt8.toNat_inj.mp (by rw [toNat_toByte])
    · simp at h
  · rintro rfl
    exact ofByte?_toByte r

end Register

/-- The stack pointer of an empty stack. -/
def emptyStack : UInt8 := 0xf4

/-- The register file of a machine. -/
structure Registers where
  general : Vector UInt8 8
  counter : UInt8
  flag : Bool
  deriving DecidableEq

namespace Registers

/-- The registers when the machine is switched on. -/
def powerOn : Registers :=
  { general := (Vector.replicate 8 0).set 7 emptyStack, counter := 0, flag := false }

instance : Inhabited Registers := ⟨powerOn⟩

/-- The content of a general register. -/
def get (rs : Registers) (r : Register) : UInt8 := rs.general[r]

/-- The registers after one general register has been set. -/
def set (rs : Registers) (r : Register) (value : UInt8) : Registers :=
  { rs with general := rs.general.set r.val value r.isLt }

/-- The stack pointer. -/
def stackPointer (rs : Registers) : UInt8 := rs.get Register.stackPointer

/-- The registers with another stack pointer. -/
def setStackPointer (rs : Registers) (value : UInt8) : Registers :=
  rs.set Register.stackPointer value

/-- The registers with the program counter at an address. -/
def jump (rs : Registers) (address : UInt8) : Registers := { rs with counter := address }

/-- The registers with another flag. -/
def setFlag (rs : Registers) (flag : Bool) : Registers := { rs with flag }

/-- The flag as the bit that it is. -/
def flagBit (rs : Registers) : Nat := if rs.flag then 1 else 0

/-- All registers on one line, in hexadecimal. -/
def summary (rs : Registers) : String :=
  String.join (Register.all.map fun r =>
    "R" ++ Nat.repr r.val ++ "=" ++ Text.hexByte (rs.get r) ++ " ") ++
  "PC=" ++ Text.hexByte rs.counter ++ " FL=" ++ Nat.repr rs.flagBit

theorem get_set (rs : Registers) (r other : Register) (value : UInt8) :
    (rs.set r value).get other = if other = r then value else rs.get other := by
  simp only [get, set, Fin.getElem_fin, Vector.getElem_set]
  by_cases h : other = r
  · simp [h]
  · have : r.val ≠ other.val := fun same => h (Fin.ext same.symm)
    simp [h, this]

@[simp] theorem get_set_self (rs : Registers) (r : Register) (value : UInt8) :
    (rs.set r value).get r = value := by
  simp [get_set]

@[simp] theorem counter_set (rs : Registers) (r : Register) (value : UInt8) :
    (rs.set r value).counter = rs.counter := rfl

@[simp] theorem flag_set (rs : Registers) (r : Register) (value : UInt8) :
    (rs.set r value).flag = rs.flag := rfl

@[simp] theorem get_jump (rs : Registers) (address : UInt8) (r : Register) :
    (rs.jump address).get r = rs.get r := rfl

/-- Two register files with the same contents are the same. -/
theorem ext_get {rs other : Registers} (general : ∀ r, rs.get r = other.get r)
    (counter : rs.counter = other.counter) (flag : rs.flag = other.flag) : rs = other := by
  obtain ⟨g, c, f⟩ := rs
  obtain ⟨g', c', f'⟩ := other
  simp only at counter flag
  subst counter flag
  congr 1
  apply Vector.ext
  intro i bound
  exact general ⟨i, bound⟩

end Registers

end Ls8
