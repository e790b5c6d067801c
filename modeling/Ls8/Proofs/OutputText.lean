import Ls8.Proofs.Debugger.Reset
import Ls8.Proofs.Machine.Printing
import Ls8.Proofs.Workbench

/-! # Output text

A session and a workbench keep everything that their machine prints until they are reset or loaded
anew, and decode it as a whole when they are asked for it. For both of them the output grows by the
items that an action has the machine print; so at any time it consists of the items that have been
printed since it was last cleared, and is read as these items. -/

namespace Ls8

/-- A program that keeps the output of a machine: what is done to it, which of that clears the
output, and what the machine prints while it is done. -/
structure Console (S A : Type) where
  act : S → A → S
  output : S → Array UInt8
  clears : A → Bool
  prints : S → A → List OutputItem
  /-- What is printed goes behind what stands there, unless that is cleared. -/
  output_act (s : S) (a : A) :
    (output (act s a)).toList =
      (if clears a then [] else (output s).toList) ++ (prints s a).flatMap OutputItem.bytes

namespace Console

variable {S A : Type}

/-- The items that stand on a console after actions, one after the other: those that stood there
before, until they are cleared, and those that have been printed since. -/
def items (k : Console S A) (s : S) (before : List OutputItem) : List A → List OutputItem
  | [] => before
  | a :: rest =>
    k.items (k.act s a) ((if k.clears a then [] else before) ++ k.prints s a) rest

/-- The output consists of the items that stand on the console. -/
theorem output_foldl (k : Console S A) {s : S} {before : List OutputItem}
    (start : (k.output s).toList = before.flatMap OutputItem.bytes) (actions : List A) :
    (k.output (actions.foldl k.act s)).toList =
      (k.items s before actions).flatMap OutputItem.bytes := by
  induction actions generalizing s before with
  | nil => exact start
  | cons a rest ih =>
    apply ih
    rw [k.output_act, List.flatMap_append, start]
    split <;> rfl

/-- The output of a console that was empty at first consists of the items that stand on it, and is
read as these items. -/
theorem output_reads (k : Console S A) (s : S) (empty : (k.output s).toList = []) (actions : List A) :
    let out := (k.output (actions.foldl k.act s)).toList
    let items := k.items s [] actions
    Text.Utf8.decodeLenient out = items.flatMap OutputItem.text ∧
      out = items.flatMap OutputItem.bytes := by
  intro out items
  have kept : out = items.flatMap OutputItem.bytes := k.output_foldl empty actions
  refine ⟨?_, kept⟩
  rw [kept, OutputItem.decodeLenient_flatMap_bytes]

end Console

/-! ## Sessions -/

namespace Debugger

/-- The action that a key stands for. -/
def Key.action? : Key → Option Session.Action
  | .char 's' => some .step
  | .char 'r' => some .run
  | .char 'p' => some .pause
  | .char 'b' => some .toggleBreakpoint
  | .char 'x' => some .reset
  | .up => some (.scroll false)
  | .down => some (.scroll true)
  | .char _ => none

/-- The use that a handling comes to. To write over the machine is no use. -/
def Handling.use? : Handling → Option Use
  | .use u => some u
  | .press key => key.action?.map .act
  | .overwrite _ => none

namespace Session

/-- A step prints the same whether or not it has ended continuous execution. -/
theorem output_step_paused (s : Session) :
    (Session.step { s with isRunning := false }).output = s.step.output := by
  unfold step
  simp only
  split
  · split <;> rfl
  · rfl

theorem output_press (s : Session) (key : Key) :
    (s.press key).output =
      match key.action? with
      | some action => (s.act action).output
      | none => s.output := by
  fun_cases Key.action? key with
  | case1 => exact s.output_step_paused
  | case8 =>
    rw [press]
    all_goals assumption
  | _ => rfl

theorem output_handle (s : Session) (handling : Handling) :
    (s.handle handling).output =
      match handling.use? with
      | some use => (s.use use).1.output
      | none => s.output := by
  cases handling with
  | use | overwrite => rfl
  | press key =>
    rw [handle, output_press, Handling.use?]
    cases key.action? <;> rfl

/-- The number of instructions that a handling executes, none or one. -/
def executionsOf (s : Session) (handling : Handling) : Nat :=
  match handling.use? with
  | some use => (s.executes use).toNat
  | none => 0

/-- A session keeps what its machine prints until it is reset. -/
def console : Console Session Handling where
  act := handle
  output := output
  clears handling := handling.use? = some (.act .reset)
  prints s handling := s.cpu.items Host.collector s.output (s.executionsOf handling)
  output_act s handling := by
    rw [output_handle, executionsOf]
    cases handling.use? with
    | none => exact (List.append_nil _).symm
    | some use =>
      by_cases resets : use = .act .reset
      · subst resets
        rfl
      · have printed : (s.use use).1.output = (s.ahead (s.executes use).toNat).2 :=
          congrArg Prod.snd (s.machine_use resets)
        simp only [Option.some.injEq, resets, decide_false, Bool.false_eq_true, if_false, printed]
        exact s.cpu.output_reached s.output _

end Session

end Debugger

/-! ## Workbenches -/

namespace Workbench

/-- Whether an action throws the output away: a reset does, and a load that comes to an image, even
if the image does not fit. -/
def Action.clears : Action → Bool
  | .loadSource source => (assemble source).isOk
  | .loadFile _ | .reset => true
  | .step | .run _ => false

/-- The number of instructions that an action may execute. -/
def stepsOf (w : Workbench) : Action → Nat
  | .step => 1
  | .run budget => w.cpu.allowance budget
  | _ => 0

theorem output_loadImage (w : Workbench) (image : List UInt8) : (w.loadImage image).2.output = #[] := by
  rw [loadImage_eq]
  split <;> rfl

theorem output_reset (w : Workbench) : w.reset.2.output = #[] := by
  rw [reset]
  split <;> rfl

/-- A workbench keeps what its machine prints until it is reset or an image is loaded. -/
def console : Console Workbench Action where
  act := act
  output := output
  clears := Action.clears
  prints w action := w.cpu.items Host.collector w.output (w.stepsOf action)
  output_act w action := by
    cases action with
    | loadSource source =>
      cases done : assemble source with
      | ok image =>
        rw [act, loadSource_of_ok done, output_loadImage, Action.clears, done]
        rfl
      | error reason =>
        rw [act, loadSource_of_error done, Action.clears, done]
        exact (List.append_nil _).symm
    | loadFile source =>
      rw [act, loadFile, output_loadImage]
      rfl
    | step => exact w.cpu.output_reached w.output 1
    | run budget =>
      have printed : (w.cpu.runLimited Host.collector w.output budget).host =
          (w.cpu.reached Host.collector w.output (w.cpu.allowance budget)).2 := by
        rw [Cpu.runLimited_eq]
        exact congrArg Prod.snd (Cpu.machine_steps Cpu.ending_ne_panicked)
      change (w.cpu.runLimited Host.collector w.output budget).host.toList = _
      rw [printed]
      exact w.cpu.output_reached w.output _
    | reset =>
      rw [act, output_reset]
      rfl

end Workbench

/-- The output of a session or of a workbench is read as the items that its machine has printed since
the output was last cleared, whatever has been done: a number as its numeral, a character as itself if
it is ASCII and as one replacement character otherwise, each on a line of its own. The bytes kept are
those of the same items, none lost and none printed twice. -/
theorem output_reads_as_items :
    (∀ (program : List UInt8) (handlings : List Debugger.Handling),
      let s := (Debugger.Session.start program).handled handlings
      let items := Debugger.Session.console.items (.start program) [] handlings
      s.outputText = items.flatMap OutputItem.text ∧
        s.output.toList = items.flatMap OutputItem.bytes) ∧
    ∀ actions : List Workbench.Action,
      let w := Workbench.new.after actions
      let items := Workbench.console.items .new [] actions
      w.outputText = items.flatMap OutputItem.text ∧
        w.output.toList = items.flatMap OutputItem.bytes := by
  constructor
  · intro program handlings
    exact Debugger.Session.console.output_reads (.start program) rfl handlings
  · intro actions
    exact Workbench.console.output_reads .new rfl actions

/-- Two bytes that are one character when they follow each other are no character on two lines. -/
example :
    let program := [0x82, 0, 0xc3, 0x48, 0, 0x82, 0, 0xa9, 0x48, 0, 1]
    let s := (Debugger.Session.start program).handled (List.replicate 4 (.press (.char 's')))
    Text.Utf8.decodeLenient [0xc3, 0xa9] = ['é'] ∧
      s.outputText = ['\uFFFD', '\n', '\uFFFD', '\n'] := by
  decide +kernel

end Ls8
