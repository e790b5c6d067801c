import Ls8.Proofs.Machine.InstructionTable
import Ls8.Proofs.Machine.LimitedOutput
import Ls8.Proofs.Text.Utf8Lines

/-! # What a machine prints, item by item

An instruction prints a number or a character, and a line feed behind it. So the output of a machine is
a sequence of items, each with bytes of its own. The line feeds keep the items apart: no byte of one
item is read together with a byte of another, and the output can be decoded as a whole or item by
item. -/

namespace Ls8

/-- What an instruction prints. -/
inductive OutputItem
  | number (value : UInt8)
  | character (code : UInt8)
  deriving DecidableEq, Repr

namespace OutputItem

/-- The bytes of an item. -/
def bytes : OutputItem → List UInt8
  | number value => Text.decimalDigits value ++ [10]
  | character code => [code, 10]

/-- An item as it is read: a decimal numeral, or the ASCII character with this code, if there is one,
and a line feed. -/
def text : OutputItem → List Char
  | number value => (Text.decimalByte value).toList ++ ['\n']
  | character code => [if code < 0x80 then Char.ofNat code.toNat else '\uFFFD', '\n']

open Text.Utf8 (decodeLenient decodeLenient_append_lineFeed decodeLenient_encode
  decodeLenient_singleton)

theorem bytes_number (value : UInt8) :
    bytes (.number value) = Text.Utf8.encode (Text.decimalByte value) ++ [10] := by
  rw [bytes, ← encode_repr, Text.Utf8.encode, String.toList_append, List.flatMap_append]
  rfl

theorem decodeLenient_bytes_append (item : OutputItem) (rest : List UInt8) :
    decodeLenient (item.bytes ++ rest) = item.text ++ decodeLenient rest := by
  cases item with
  | number value =>
    rw [bytes_number, List.append_assoc, List.singleton_append, decodeLenient_append_lineFeed,
      decodeLenient_encode, text, List.append_assoc, List.singleton_append]
  | character code =>
    have apart := decodeLenient_append_lineFeed [code] rest
    rw [decodeLenient_singleton] at apart
    exact apart

/-- Items can be read together: they are read as they have been printed, one after the other. -/
theorem decodeLenient_flatMap_bytes (items : List OutputItem) :
    decodeLenient (items.flatMap bytes) = items.flatMap text := by
  induction items with
  | nil => rfl
  | cons item rest ih =>
    rw [List.flatMap_cons, List.flatMap_cons, decodeLenient_bytes_append, ih]

end OutputItem

/-! ## Printing the items -/

namespace Cpu

/-- The item that an instruction prints. -/
def item? (c : Cpu) : Instruction Register → Option OutputItem
  | .prn r => some (.number (c.get r))
  | .pra r => some (.character (c.get r))
  | _ => none

theorem printed_eq_bytes (c : Cpu) (i : Instruction Register) :
    (c.printed i).flatten = (c.item? i).toList.flatMap OutputItem.bytes := by
  cases i with
  | prn => simp [printed, item?, OutputItem.bytes]
  | _ => rfl

section

variable {σ : Type}

/-- The item that is printed after a number of steps, if the step that follows them does not fail. -/
def itemAfter? (host : Host σ) (c : Cpu) (s : σ) (n : Nat) : Option OutputItem :=
  let before := (c.reached host s n).1
  (before.performed? (c.attempt host s n)).bind before.item?

/-- The items that are printed by a number of steps. -/
def items (host : Host σ) (c : Cpu) (s : σ) (n : Nat) : List OutputItem :=
  (List.range n).filterMap (c.itemAfter? host s)

theorem items_succ (host : Host σ) (c : Cpu) (s : σ) (n : Nat) :
    c.items host s (n + 1) = c.items host s n ++ (c.itemAfter? host s n).toList := by
  rw [items, List.range_succ, List.filterMap_append, ← items]
  rfl

/-- The machine at the end of a run that returns, and its surroundings, are those that its steps lead
to. -/
theorem machine_steps {host : Host σ} {c : Cpu} {s : σ} {n : Nat}
    (returns : (c.steps host n s).ending ≠ .panicked) :
    ((c.steps host n s).cpu, (c.steps host n s).host) = c.reached host s n := by
  induction n generalizing c s with
  | zero => rfl
  | succ n ih =>
    by_cases running : c.state = .running
    · cases ended : (c.step host s).result with
      | ok i =>
        rw [steps_succ_of_ok ended] at returns ⊢
        rw [ih returns, Nat.add_comm, reached_one_add]
      | error e =>
        -- The run ends here, and the steps that are left find a machine that has stopped.
        have stopped : (c.step host s).cpu.state ≠ .running := fun still => by
          rw [cpu_of_failed_step running ended] at still
          contradiction
        rw [steps_succ_of_error running ended, Nat.add_comm, reached_one_add,
          reached_of_not_running host _ stopped]
      | panicked =>
        rw [steps_succ_of_panicked ended] at returns
        contradiction
    · rw [steps_of_not_running running, reached_of_not_running host s running]

end

/-- A step prints the item of its instruction, or nothing if it fails. -/
theorem output_step (c : Cpu) (printed : Array UInt8) :
    let ended := c.step Host.collector printed
    ended.host.toList =
      printed.toList ++ ((c.performed? ended).bind c.item?).toList.flatMap OutputItem.bytes := by
  by_cases running : c.state = .running
  · rw [step_of_quiet (fun _ _ => rfl) running]
    cases fetched : c.fetch with
    | error e => exact (List.append_nil _).symm
    | ok i =>
      simp only
      cases c.overflow? i with
      | some reason => exact (List.append_nil _).symm
      | none =>
        simp only [print_collector]
        by_cases full : c.CountedOut
        all_goals
          simp only [full, if_true, if_false, performed?, fetched, Array.toList_appendList,
            printed_eq_bytes]
          rfl
  · rw [step_of_not_running Host.collector printed running]
    exact (List.append_nil _).symm

/-- What a number of steps print are their items. -/
theorem output_reached (c : Cpu) (printed : Array UInt8) (n : Nat) :
    (c.reached Host.collector printed n).2.toList =
      printed.toList ++ (c.items Host.collector printed n).flatMap OutputItem.bytes := by
  induction n with
  | zero => exact (List.append_nil _).symm
  | succ n ih =>
    rw [items_succ, List.flatMap_append, ← List.append_assoc, ← ih]
    exact output_step _ _

end Cpu

end Ls8
