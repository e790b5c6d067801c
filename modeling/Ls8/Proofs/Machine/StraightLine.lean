import Ls8.Proofs.InstructionStream
import Ls8.Proofs.Machine.Budget
import Ls8.Proofs.Machine.Cells
import Ls8.Proofs.Machine.InstructionTable
import Ls8.Proofs.Machine.Modes

/-! # Straight-line programs

A program without jumps means what the list of its instructions means. `View.apply` is the effect of
an instruction on registers, flag and cells; it does not ask where the instruction stands. As long as
no push reaches the program in memory, a machine that runs the program applies these effects in the
order of the list, prints what they print, and halts behind the last of them. -/

namespace Ls8

variable {σ : Type}

/-- The operations after which the next instruction in memory is executed, whatever the machine
holds. -/
def Opcode.straightLine : List Opcode := [.ldi, .prn, .pra, .mul, .add, .cmp, .push, .pop]

/-! ## Effects without a program counter -/

namespace View

/-- What is seen of a machine that has been switched on, with an image loaded at address 0. -/
def powerOn (image : List UInt8) : View where
  register number := if number = 7 then emptyStack else 0
  cell address := image[address.toNat]?.getD 0
  counter := 0
  flag := false
  state := .running

/-- The effect of an instruction on registers, flag and cells. -/
def apply (v : View) : Instruction Register → View
  | .ldi r value => v.put r.toByte value
  | .mul a b => v.put a.toByte (v.register a.toByte * v.register b.toByte)
  | .add a b => v.put a.toByte (v.register a.toByte + v.register b.toByte)
  | .cmp a b => v.mark (v.register a.toByte == v.register b.toByte)
  | .push r =>
    let top := v.register 7 - 1
    (v.put 7 top).store top (v.register r.toByte)
  | .pop r =>
    let top := v.register 7
    (v.put 7 (top + 1)).put r.toByte (v.cell top)
  | .prn _ | .pra _ | .jmp _ | .jeq _ | .jne _ | .hlt => v

/-- What an instruction prints. -/
def prints (v : View) : Instruction Register → List UInt8
  | .prn r => Text.Utf8.encode (Nat.repr (v.register r.toByte).toNat ++ "\n")
  | .pra r => [v.register r.toByte, 0x0a]
  | _ => []

/-- The effects of instructions one after the other. -/
def applyAll (v : View) (program : List (Instruction Register)) : View := program.foldl apply v

/-- What instructions print one after the other. -/
def printsAll : View → List (Instruction Register) → List UInt8
  | _, [] => []
  | v, i :: rest => v.prints i ++ (v.apply i).printsAll rest

/-- Every push of a program stores at or above an address. -/
def PushesFrom (lowest : Nat) (v : View) (program : List (Instruction Register)) : Prop :=
  ∀ k, (within : k < program.length) → program[k].opcode = .push →
    lowest ≤ ((v.applyAll (program.take k)).register 7 - 1).toNat

instance (lowest : Nat) (v : View) (program : List (Instruction Register)) :
    Decidable (v.PushesFrom lowest program) :=
  Nat.decidableBallLT ..

theorem apply_goto (v : View) (address : UInt8) (i : Instruction Register) :
    (v.goto address).apply i = (v.apply i).goto address := by
  cases i <;> rfl

theorem prints_goto (v : View) (address : UInt8) (i : Instruction Register) :
    (v.goto address).prints i = v.prints i := by
  cases i <;> rfl

@[simp] theorem state_apply (v : View) (i : Instruction Register) : (v.apply i).state = v.state := by
  cases i <;> rfl

@[simp] theorem state_applyAll (v : View) (program : List (Instruction Register)) :
    (v.applyAll program).state = v.state := by
  induction program generalizing v with
  | nil => rfl
  | cons i rest ih => exact (ih (v.apply i)).trans (v.state_apply i)

theorem applyAll_append_singleton (v : View) (program : List (Instruction Register))
    (i : Instruction Register) : v.applyAll (program ++ [i]) = (v.applyAll program).apply i := by
  rw [applyAll, List.foldl_append, List.foldl_cons, List.foldl_nil, applyAll]

theorem printsAll_append_singleton (v : View) (program : List (Instruction Register))
    (i : Instruction Register) :
    v.printsAll (program ++ [i]) = v.printsAll program ++ (v.applyAll program).prints i := by
  induction program generalizing v with
  | nil => exact List.append_nil _
  | cons first rest ih =>
    rw [List.cons_append, printsAll, ih, ← List.append_assoc]
    rfl

/-- Only a push changes cells. -/
theorem cell_apply {v : View} {i : Instruction Register} {address : UInt8}
    (apart : i.opcode = .push → address ≠ v.register 7 - 1) :
    (v.apply i).cell address = v.cell address := by
  cases i with
  | push r =>
    rw [apply, cell_store]
    exact if_neg (apart rfl)
  | _ => rfl

/-- Cells below all pushes keep what they hold. -/
theorem cell_applyAll {v : View} {program : List (Instruction Register)} {lowest : Nat}
    (pushes : v.PushesFrom lowest program) {address : UInt8} (below : address.toNat < lowest)
    (k : Nat) : (v.applyAll (program.take k)).cell address = v.cell address := by
  induction k with
  | zero => rfl
  | succ k ih =>
    by_cases within : k < program.length
    · rw [← List.take_append_getElem within, applyAll_append_singleton, cell_apply, ih]
      rintro pushing rfl
      have above := pushes k within pushing
      omega
    · have past := Nat.not_lt.mp within
      rw [List.take_of_length_le past] at ih
      rwa [List.take_of_length_le (Nat.le_succ_of_le past)]

end View

/-! ## Programs in memory -/

/-- A program with the instruction behind it that halts. -/
def halting (program : List (Instruction Register)) : List (Instruction Register) :=
  program ++ [.hlt]

/-- A program that is executed from its first to its last instruction: it has no jumps, and it fits
into memory and is not met there by what it pushes. -/
structure StraightLine (program : List (Instruction Register)) : Prop where
  straight : ∀ i ∈ program, i.opcode ∈ Opcode.straightLine
  fits : (encodeAll (halting program)).length ≤ memorySize
  pushes : (View.powerOn (encodeAll (halting program))).PushesFrom
    (encodeAll (halting program)).length program

theorem length_encodeAll (program : List (Instruction Register)) :
    (encodeAll program).length = (program.map Instruction.size).sum := by
  rw [encodeAll, List.length_flatMap]
  exact congrArg (fun size => (program.map size).sum) (funext Instruction.length_encode)

theorem length_le_encodeAll (program : List (Instruction Register)) :
    program.length ≤ (encodeAll program).length := by
  rw [length_encodeAll, ← program.length_map Instruction.size]
  apply List.length_le_sum_of_one_le
  intro size member
  obtain ⟨i, -, rfl⟩ := List.mem_map.mp member
  exact Nat.le_add_left ..

theorem addressIn_succ {program : List (Instruction Register)} {k : Nat}
    (within : k < program.length) :
    addressIn program (k + 1) = addressIn program k + program[k].size := by
  rw [addressIn, ← List.take_append_getElem within, List.map_append, List.sum_append, addressIn,
    List.map_singleton, List.sum_singleton]

theorem addressIn_halting (program : List (Instruction Register)) :
    addressIn (halting program) program.length = (encodeAll (halting program)).length - 1 := by
  rw [length_encodeAll, halting, List.map_append, List.sum_append, addressIn, List.take_left]
  rfl

/-- An image that stands in memory from address 0 on can be read at each address in it. -/
theorem Memory.prefix_slice {m : Memory} {image bytes : List UInt8} {address count : Nat}
    (stands : ∀ a : UInt8, a.toNat < image.length → m.read a = image[a.toNat]?.getD 0)
    (fits : image.length ≤ memorySize) (begins : bytes <+: image.drop address)
    (short : bytes.length ≤ count) : bytes <+: m.slice (UInt8.ofNat address) count := by
  apply List.prefix_iff_getElem?.mpr
  intro place within
  have byte := List.prefix_iff_getElem?.mp begins place within
  rw [List.getElem?_drop] at byte
  obtain ⟨inside, -⟩ := List.getElem?_eq_some_iff.mp byte
  have code : (UInt8.ofNat (address + place)).toNat = address + place :=
    UInt8.toNat_ofNat_of_lt' (Nat.lt_of_lt_of_le inside fits)
  have read := stands (UInt8.ofNat (address + place)) (by rwa [code])
  rw [code, byte] at read
  rw [getElem?_slice m _ (Nat.lt_of_lt_of_le within short), ← UInt8.ofNat_add, read]
  rfl

namespace Cpu

theorem exists_load_powerOn (mode : OverflowMode) {image : List UInt8}
    (fits : image.length ≤ memorySize) :
    ∃ c, (Cpu.load image).run (.powerOn mode) = .ok () c ∧ c.view = .powerOn image ∧
      c.mode = mode ∧ c.cycles = 0 := by
  refine ⟨_, by rw [run_load_powerOn, if_pos fits], ?_, rfl, rfl⟩
  apply View.ext
  case register =>
    funext number
    cases named : Register.ofByte? number with
    | none =>
      have other : number ≠ 7 := by
        rintro rfl
        contradiction
      change (Option.map _ (Register.ofByte? number)).getD 0 = if number = 7 then _ else _
      rw [named, if_neg other]
      rfl
    | some r =>
      have held : ∀ r : Register, Registers.powerOn.get r = if r.toByte = 7 then emptyStack else 0 := by
        decide
      obtain rfl := Register.ofByte?_eq_some_iff.mp named
      rw [register_view]
      exact held r
  case cell =>
    funext address
    exact Memory.read_zero_place fits address
  all_goals rfl

/-- Where the encoding of an instruction stands, the instruction is fetched. -/
theorem fetch_of_stands {c : Cpu} {i : Instruction Register}
    (stands : i.encode <+: c.memory.slice c.counter 3) : c.fetch = .ok i := by
  have second : c.counter + 1 + 1 = c.counter + 2 := UInt8.add_assoc ..
  rw [Memory.slice, Memory.slice, Memory.slice, Memory.slice, second] at stands
  exact decode_eq_ok_iff.mpr stands

theorem view_after {c : Cpu} {i : Instruction Register} (straight : i.opcode ∈ Opcode.straightLine) :
    (c.after i).view = (c.view.apply i).advance (UInt8.ofNat i.size) := by
  cases i
  case jmp | jeq | jne | hlt => contradiction
  all_goals simp [after, View.apply]

theorem prints_view (c : Cpu) (i : Instruction Register) :
    c.view.prints i = (c.printed i).flatten := by
  cases i with
  | prn r => exact (encode_repr _).trans (by rw [register_view]; rfl)
  | pra r =>
    rw [View.prints, register_view, printed]
    rfl
  | _ => rfl

/-! ## One instruction -/

/-- The machine and its surroundings after instructions of a wrapping machine: the registers, flag and
cells are as the effects of the instructions have left them, and what they print has been printed. -/
structure Follows (out : σ → List UInt8) (start : View) (before : List UInt8)
    (done : List (Instruction Register)) (address : Nat) (reached : Cpu × σ) : Prop where
  view : reached.1.view = (start.applyAll done).goto (UInt8.ofNat address)
  wraps : reached.1.mode = .wrap
  output : out reached.2 = before ++ start.printsAll done

namespace Follows

variable {host : Host σ} {out : σ → List UInt8} {start : View} {before : List UInt8}
  {done : List (Instruction Register)} {address : Nat} {c : Cpu} {s : σ}

theorem running (follows : Follows out start before done address (c, s))
    (started : start.state = .running) : c.state = .running := by
  have state := congrArg View.state follows.view
  exact state.trans ((start.state_applyAll done).trans started)

theorem counter (follows : Follows out start before done address (c, s)) :
    c.counter = UInt8.ofNat address :=
  congrArg View.counter follows.view

/-- The next instruction of a straight-line program succeeds, and its effect is applied. -/
theorem step (follows : Follows out start before done address (c, s))
    (accepting : host.Accepting out) (started : start.state = .running) (room : ¬c.CountedOut)
    {i : Instruction Register} (fetched : c.fetch = .ok i)
    (straight : i.opcode ∈ Opcode.straightLine) :
    (c.step host s).result = .ok i ∧
      Follows out start before (done ++ [i]) (address + i.size)
        ((c.step host s).cpu, (c.step host s).host) := by
  have stepped := step_of_fetch accepting (follows.running started) fetched s
  simp only [overflow?_eq_none_of_wrap follows.wraps, if_neg room] at stepped
  rw [stepped]
  refine ⟨rfl, ?_, (c.mode_after i).trans follows.wraps, ?_⟩
  · calc
      (c.after i).view = (c.view.apply i).advance (UInt8.ofNat i.size) := view_after straight
      _ = ((start.applyAll done).apply i).goto (UInt8.ofNat address + UInt8.ofNat i.size) := by
        rw [follows.view, View.apply_goto]
        rfl
      _ = _ := by rw [View.applyAll_append_singleton, UInt8.ofNat_add]
  · rw [accepting.out_finish, accepting.out_print, announce, accepting.quiet, follows.output,
      View.printsAll_append_singleton, ← prints_view, follows.view, View.prints_goto,
      List.append_assoc]

/-- The machine halts, and nothing else changes. -/
theorem halt (follows : Follows out start before done address (c, s))
    (accepting : host.Accepting out) (started : start.state = .running) (room : ¬c.CountedOut)
    (fetched : c.fetch = .ok .hlt) :
    (c.step host s).result = .ok .hlt ∧
      (c.step host s).cpu.view = ((start.applyAll done).goto (UInt8.ofNat address)).halt ∧
      (c.step host s).cpu.state = .halted ∧
      out (c.step host s).host = before ++ start.printsAll done := by
  have stepped := step_of_fetch accepting (follows.running started) fetched s
  simp only [overflow?_eq_none_of_wrap follows.wraps, if_neg room] at stepped
  rw [stepped]
  refine ⟨rfl, ?_, rfl, ?_⟩
  · exact congrArg View.halt follows.view
  · rw [accepting.out_finish, accepting.out_print, announce, accepting.quiet, follows.output]
    exact List.append_nil _

end Follows

/-! ## Whole programs -/

/-- A machine that has stopped after steps that succeed is at the end of its run. -/
theorem run_of_succeeds {host : Host σ} {c : Cpu} {s : σ} {n fuel : Nat}
    (succeeds : c.Succeeds host s n) (stopped : (c.reached host s n).1.state ≠ .running)
    (enough : n ≤ fuel) :
    c.run host fuel s =
      some (c.counted ⟨.stopped, (c.reached host s n).1, (c.reached host s n).2⟩) := by
  have ended : c.steps host n s = ⟨.stopped, (c.reached host s n).1, (c.reached host s n).2⟩ := by
    have course := c.steps_course host s n
    generalize c.steps host n s = run at course
    cases course with
    | spent _ running => exact absurd running stopped
    | stopped k within _ earlier =>
      obtain rfl | before := Nat.eq_or_lt_of_le within
      · rfl
      · exact absurd (succeeds.running before) earlier
    | failed k e within _ _ failed =>
      obtain ⟨i, succeeded⟩ := succeeds k within
      rw [failed] at succeeded
      contradiction
    | panicked k within _ panicked => exact absurd panicked (succeeds.returns k within)
  have last : (c.steps host n s).ending ≠ .spent := by
    rw [ended]
    simp
  rw [run, steps_of_le last enough, if_neg last, ended]

end Cpu

namespace StraightLine

open Cpu

variable {program : List (Instruction Register)} {host : Host σ} {out : σ → List UInt8} {c : Cpu}
  {s : σ}

/-- Whatever instruction of the list a machine has come to, this is the one that it fetches. -/
theorem fetch (line : StraightLine program) {before : List UInt8} {k : Nat}
    (follows : Follows out (.powerOn (encodeAll (halting program))) before (program.take k)
      (addressIn (halting program) k) (c, s))
    (within : k < (halting program).length) : c.fetch = .ok (halting program)[k] := by
  apply fetch_of_stands
  rw [follows.counter]
  apply Memory.prefix_slice ?_ line.fits (drop_addressIn within)
  · rw [Instruction.length_encode]
    exact Opcode.size_le _
  · intro a inside
    have cells : c.memory.read a = _ := congrFun (congrArg View.cell follows.view) a
    exact cells.trans (View.cell_applyAll line.pushes inside k)

/-- There is room to count as long as a program of this length is executed. -/
theorem room_reached {k n : Nat} (succeeds : c.Succeeds host s k)
    (room : c.cycles.toNat + n + 1 < UInt64.size) (within : k ≤ n) :
    ¬(c.reached host s k).1.CountedOut := by
  rw [CountedOut, toNat_cycles_reached succeeds]
  omega

/-- After as many steps as instructions have been taken from a program, their effects have been
applied. The program is still in memory then, so that the next instruction can be fetched. -/
theorem reached (line : StraightLine program) (accepting : host.Accepting out)
    (loaded : c.view = .powerOn (encodeAll (halting program))) (wraps : c.mode = .wrap)
    (room : c.cycles.toNat + program.length + 1 < UInt64.size) (s : σ) {k : Nat}
    (within : k ≤ program.length) :
    c.Succeeds host s k ∧
      Follows out (.powerOn (encodeAll (halting program))) (out s) (program.take k)
        (addressIn (halting program) k) (c.reached host s k) := by
  induction k with
  | zero => exact ⟨.zero, loaded, wraps, (List.append_nil _).symm⟩
  | succ k ih =>
    obtain ⟨succeeds, follows⟩ := ih (Nat.le_of_succ_le within)
    have among : k < (halting program).length := by
      rw [halting, List.length_append]
      exact Nat.lt_add_right 1 within
    have next : (halting program)[k] = program[k] := List.getElem_append_left within
    have fetched := line.fetch follows among
    rw [next] at fetched
    obtain ⟨result, after⟩ := follows.step accepting rfl (room_reached succeeds room (by omega)) fetched
      (line.straight program[k] (List.getElem_mem within))
    refine ⟨succeeds.succ result, ?_⟩
    rw [addressIn_succ among, next, ← List.take_append_getElem within]
    exact after

end StraightLine

namespace Cpu

/-- A program without jumps, with a halt behind it, means what the list of its instructions means:
loaded into a machine and run, it executes each of them once and halts at the last byte, and what it
leaves in registers, flag and cells and what it prints is the effects of the list in order. -/
theorem run_straightLine {program : List (Instruction Register)} (line : StraightLine program)
    {host : Host σ} {out : σ → List UInt8} (accepting : host.Accepting out) (s : σ) :
    let image := encodeAll (halting program)
    let start := View.powerOn image
    let count := program.length + 1
    ∃ c, (load image).run (powerOn .wrap) = .ok () c ∧
      ∀ fuel, count ≤ fuel →
        ∃ run, c.run host fuel s = some run ∧
          (∃ executed, run.result = .ok executed ∧ executed.toNat = count) ∧
          run.cpu.cycles.toNat = count ∧
          run.cpu.view =
            ((start.applyAll program).goto (UInt8.ofNat (image.length - 1))).halt ∧
          out run.host = out s ++ start.printsAll program := by
  intro image start count
  obtain ⟨c, loads, loaded, wraps, fresh⟩ := exists_load_powerOn .wrap line.fits
  have room : c.cycles.toNat + program.length + 1 < UInt64.size := by
    have short := length_le_encodeAll (halting program)
    rw [halting, List.length_append, List.length_singleton, ← halting] at short
    rw [fresh, UInt64.toNat_zero, Nat.zero_add]
    exact Nat.lt_of_le_of_lt (Nat.le_trans short line.fits) (by decide)
  obtain ⟨succeeds, follows⟩ :=
    line.reached accepting loaded wraps room s (Nat.le_refl program.length)
  have among : program.length < (halting program).length := by
    rw [halting, List.length_append]
    exact Nat.lt_succ_self _
  have halts : (halting program)[program.length] = .hlt := List.getElem_concat_length rfl among
  have last := line.fetch follows among
  rw [halts] at last
  rw [List.take_length, addressIn_halting] at follows
  obtain ⟨result, view, halted, output⟩ :=
    follows.halt accepting rfl (StraightLine.room_reached succeeds room (Nat.le_refl _)) last
  have all : c.Succeeds host s count := succeeds.succ result
  have stopped : (c.reached host s count).1.state ≠ .running := by
    change (c.attempt host s program.length).cpu.state ≠ .running
    rw [attempt, halted]
    decide
  refine ⟨c, loads, ?_⟩
  intro fuel enough
  refine ⟨_, run_of_succeeds all stopped enough, ⟨_, rfl, toNat_cycles_sub all⟩, ?_, view, output⟩
  have cycles := toNat_cycles_reached all
  rwa [fresh, UInt64.toNat_zero, Nat.zero_add] at cycles

/-- A program that moves its stack, pushes a product there and prints it: 5 * 51 is 255, the byte ff. -/
theorem run_printing_product :
    let program : List (Instruction Register) :=
      [.ldi 0 5, .ldi 1 51, .ldi 7 64, .mul 0 1, .push 0, .pop 2, .cmp 0 2, .prn 2, .pra 2]
    let image := encodeAll (halting program)
    StraightLine program ∧
      ∃ c run, (load image).run (powerOn .wrap) = .ok () c ∧ c.run Host.collector 10 #[] = some run ∧
        run.cpu.view.register 7 = 64 ∧ run.cpu.view.cell 63 = 255 ∧ run.cpu.view.flag = true ∧
        run.cpu.counter = 23 ∧ run.host.toList = [0x32, 0x35, 0x35, 0x0a, 0xff, 0x0a] := by
  intro program image
  have line : StraightLine program := ⟨by decide, by decide, by decide⟩
  obtain ⟨c, loads, ends⟩ := run_straightLine line collector_accepting #[]
  obtain ⟨run, ran, -, -, view, printed⟩ := ends 10 (by decide)
  refine ⟨line, c, run, loads, ran, ?_⟩
  have counter : run.cpu.counter = _ := congrArg View.counter view
  rw [view, counter, printed]
  decide

end Cpu

end Ls8
