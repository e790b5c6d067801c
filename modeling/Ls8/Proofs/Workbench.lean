import Ls8.Proofs.Assembly.Layout
import Ls8.Proofs.Machine.Cells
import Ls8.Proofs.Machine.Modes
import Ls8.Proofs.ProgramFile
import Ls8.Workbench

/-! # Workbenches in use

Whatever is done at a workbench, its program is the image of the last load that succeeded, and that
image fits in memory; so a reset always succeeds, and leads to where this load led. A load that
fails keeps the program. It keeps everything else only if the text was no program: an image that
does not fit is refused when the machine has been replaced and the output thrown away. -/

namespace Ls8.Workbench

/-- What an action gives back. -/
inductive Answer
  | loaded (result : Except WorkbenchError Nat)
  | stepped (result : Result WorkbenchError (Instruction Register))
  | ran (result : Result WorkbenchError UInt64)
  | reset (result : Except WorkbenchError Unit)
  deriving DecidableEq

/-- The size that a load gives back if it succeeds. -/
def Answer.size? : Answer → Option Nat
  | .loaded (.ok size) => some size
  | _ => none

/-- The image that an action loads, if it comes to that. -/
def Action.image? : Action → Option (List UInt8)
  | .loadSource source => (assemble source).toOption
  | .loadFile source => some (ProgramFile.parse source).bytes
  | _ => none

/-- The answer to an action, and the workbench after it. -/
def respond (w : Workbench) : Action → Answer × Workbench
  | .loadSource source => (w.loadSource source).map .loaded id
  | .loadFile source => (w.loadFile source).map .loaded id
  | .step => w.step.map .stepped id
  | .run budget => (w.run budget).map .ran id
  | .reset => w.reset.map .reset id

/-- The workbench after actions, one after the other. -/
def after (w : Workbench) (actions : List Action) : Workbench := actions.foldl act w

/-- The answers to actions, one after the other. -/
def answers (w : Workbench) : List Action → List Answer
  | [] => []
  | action :: rest => (w.respond action).1 :: (w.act action).answers rest

/-- The image that an action has loaded, if it gives back its size. -/
def loadedBy (w : Workbench) (action : Action) : Option (List UInt8) :=
  if (w.respond action).1.size?.isSome then action.image? else none

/-- The images that actions have loaded. -/
def loads (w : Workbench) : List Action → List (List UInt8)
  | [] => []
  | action :: rest => (w.loadedBy action).toList ++ (w.act action).loads rest

theorem snd_respond (w : Workbench) (action : Action) : (w.respond action).2 = w.act action := by
  cases action <;> rfl

theorem loads_append (w : Workbench) (actions more : List Action) :
    w.loads (actions ++ more) = w.loads actions ++ (w.after actions).loads more := by
  induction actions generalizing w with
  | nil => rfl
  | cons action rest ih =>
    rw [List.cons_append, loads, loads, ih, List.append_assoc]
    rfl

theorem getLast?_loads_concat {w : Workbench} {actions : List Action} {action : Action}
    {image : List UInt8} (loaded : (w.after actions).loadedBy action = some image) :
    (w.loads (actions ++ [action])).getLast? = some image := by
  rw [loads_append, loads, loads, loaded]
  exact List.getLast?_concat

/-! ## Loads -/

/-- An image that fits is loaded into a new machine. One that does not is refused, but by then the
machine and the output are those of a new workbench. -/
theorem loadImage_eq (w : Workbench) (image : List UInt8) :
    w.loadImage image =
      if image.length ≤ memorySize then
        (.ok image.length,
          ⟨{ Cpu.powerOn .wrap with memory := Memory.zero.place 0 image }, image, #[]⟩)
      else
        (.error (.load ⟨image.length, memorySize⟩),
          { w with cpu := .powerOn .wrap, output := #[] }) := by
  rw [loadImage, Cpu.run_load_powerOn]
  by_cases fits : image.length ≤ memorySize
  · simp only [if_pos fits]
  · simp only [if_neg fits]

theorem loadImage_of_fits {image : List UInt8} (fits : image.length ≤ memorySize) (w : Workbench) :
    w.loadImage image = (.ok image.length, (new.loadImage image).2) := by
  rw [loadImage_eq, loadImage_eq, if_pos fits, if_pos fits]

theorem loadImage_of_oversized {image : List UInt8} (oversized : memorySize < image.length)
    (w : Workbench) :
    w.loadImage image =
      (.error (.load ⟨image.length, memorySize⟩),
        { w with cpu := .powerOn .wrap, output := #[] }) := by
  rw [loadImage_eq, if_neg (Nat.not_le.mpr oversized)]

/-- A source text that does not assemble leaves a workbench as it is. -/
theorem loadSource_of_error {source : String} {reason : Assembly.Error}
    (failed : assemble source = .error reason) (w : Workbench) :
    w.loadSource source = (.error (.assembly reason), w) := by
  rw [loadSource, failed]

theorem loadSource_of_ok {source : String} {image : List UInt8} (done : assemble source = .ok image)
    (w : Workbench) : w.loadSource source = w.loadImage image := by
  rw [loadSource, done]

/-- An action that asks for an image loads it. -/
theorem respond_of_image {action : Action} {image : List UInt8} (asked : action.image? = some image)
    (w : Workbench) : w.respond action = (w.loadImage image).map .loaded id := by
  cases action with
  | loadSource source =>
    rw [Action.image?] at asked
    cases done : assemble source with
    | error reason =>
      rw [done] at asked
      contradiction
    | ok bytes =>
      rw [done] at asked
      obtain rfl := Option.some.inj asked
      rw [respond, loadSource_of_ok done]
  | loadFile source =>
    obtain rfl := Option.some.inj asked
    rfl
  | step | run | reset => contradiction

theorem size?_of_no_image {action : Action} (silent : action.image? = none) (w : Workbench) :
    (w.respond action).1.size? = none := by
  cases action with
  | loadSource source =>
    rw [Action.image?] at silent
    cases done : assemble source with
    | error reason =>
      rw [respond, loadSource_of_error done]
      rfl
    | ok bytes =>
      rw [done] at silent
      contradiction
  | loadFile => contradiction
  | step | run | reset => rfl

/-- What a load gives back: the size of the image, if that is no more than the size of memory. -/
theorem size?_of_image {action : Action} {image : List UInt8} (asked : action.image? = some image)
    (w : Workbench) :
    (w.respond action).1.size? = if image.length ≤ memorySize then some image.length else none := by
  rw [respond_of_image asked, loadImage_eq]
  by_cases fits : image.length ≤ memorySize
  · rw [if_pos fits, if_pos fits]
    rfl
  · rw [if_neg fits, if_neg fits]
    rfl

theorem loadedBy_eq_some_iff {w : Workbench} {action : Action} {image : List UInt8} :
    w.loadedBy action = some image ↔ action.image? = some image ∧ image.length ≤ memorySize := by
  unfold loadedBy
  cases asked : action.image? with
  | none => simp
  | some found =>
    rw [size?_of_image asked]
    by_cases fits : found.length ≤ memorySize
    · simp only [if_pos fits, Option.isSome_some, if_true, Option.some.injEq]
      exact ⟨fun same => ⟨same, same ▸ fits⟩, And.left⟩
    · simp only [if_neg fits, Option.isSome_none, Option.some.injEq]
      exact ⟨nofun, fun ⟨same, within⟩ => absurd (same ▸ within) fits⟩

/-- A load that gives back a size has loaded an image of this size. -/
theorem loadedBy_of_answer {w : Workbench} {action : Action} {size : Nat}
    (answer : (w.respond action).1 = .loaded (.ok size)) :
    ∃ image, w.loadedBy action = some image ∧ size = image.length ∧ image.length ≤ memorySize := by
  have shown : (w.respond action).1.size? = some size := by
    rw [answer]
    rfl
  cases asked : action.image? with
  | none =>
    rw [size?_of_no_image asked] at shown
    contradiction
  | some image =>
    rw [size?_of_image asked] at shown
    split at shown
    · next fits =>
      exact ⟨image, loadedBy_eq_some_iff.mpr ⟨asked, fits⟩, (Option.some.inj shown).symm, fits⟩
    · contradiction

/-! ## The last image -/

/-- The program of a workbench is this image, which fits, and its machine wraps. -/
structure Keeps (image : List UInt8) (w : Workbench) : Prop where
  program : w.program = image
  fits : image.length ≤ memorySize
  wraps : w.cpu.mode = .wrap

theorem keeps_new : Keeps [] new := ⟨rfl, Nat.zero_le _, rfl⟩

theorem keeps_loadImage {image : List UInt8} (fits : image.length ≤ memorySize) (w : Workbench) :
    Keeps image (w.loadImage image).2 := by
  rw [loadImage_eq, if_pos fits]
  exact ⟨rfl, fits, rfl⟩

namespace Keeps

variable {w : Workbench} {image : List UInt8}

/-- A reset leads to where loading the image has led. -/
theorem reset (keeps : Keeps image w) : w.reset = (.ok (), (new.loadImage image).2) := by
  rw [Workbench.reset]
  simp only [Cpu.reset_eq_powerOn, keeps.wraps, keeps.program, Cpu.run_load_powerOn,
    if_pos keeps.fits, loadImage_eq]

theorem act (keeps : Keeps image w) (action : Action) :
    Keeps ((w.loadedBy action).getD image) (w.act action) := by
  cases loaded : w.loadedBy action with
  | some next =>
    obtain ⟨asked, fits⟩ := loadedBy_eq_some_iff.mp loaded
    rw [← snd_respond, respond_of_image asked]
    exact keeps_loadImage fits w
  | none =>
    rw [Option.getD_none]
    cases action with
    | loadSource source =>
      cases done : assemble source with
      | error reason =>
        rw [Workbench.act, loadSource_of_error done]
        exact keeps
      | ok bytes =>
        have fits := Assembly.length_of_assemble done
        have asked : (Action.loadSource source).image? = some bytes := by
          rw [Action.image?, done]
          rfl
        rw [loadedBy_eq_some_iff.mpr ⟨asked, fits⟩] at loaded
        contradiction
    | loadFile source =>
      have oversized : memorySize < (ProgramFile.parse source).bytes.length := by
        refine Nat.not_le.mp fun fits => ?_
        rw [loadedBy_eq_some_iff.mpr ⟨rfl, fits⟩] at loaded
        contradiction
      rw [Workbench.act, loadFile, loadImage_of_oversized oversized]
      exact ⟨keeps.program, keeps.fits, rfl⟩
    | step =>
      exact ⟨keeps.program, keeps.fits, (Cpu.mode_step ..).trans keeps.wraps⟩
    | run budget =>
      exact ⟨keeps.program, keeps.fits, (Cpu.mode_runLimited ..).trans keeps.wraps⟩
    | reset =>
      rw [Workbench.act, keeps.reset]
      exact keeps_loadImage keeps.fits new

theorem after (keeps : Keeps image w) (actions : List Action) :
    Keeps ((w.loads actions).getLast?.getD image) (w.after actions) := by
  induction actions generalizing w image with
  | nil => exact keeps
  | cons action rest ih =>
    have last : (w.loads (action :: rest)).getLast?.getD image =
        ((w.act action).loads rest).getLast?.getD ((w.loadedBy action).getD image) := by
      rw [loads, List.getLast?_append]
      cases w.loadedBy action <;> simp
    rw [last]
    exact ih (keeps.act action)

end Keeps

/-- A reset leads back to the last load that succeeded, or to a new workbench if there was none.
Whatever has been done at a workbench, failures included, a reset succeeds; its machine is then a
new one with the image of that load, nothing has been printed, and whatever is done next has the
answers and the effects that it has where this image has just been loaded into a new workbench. A
load that succeeds gives back the size of its image, which is at most that of memory. -/
theorem reset_restores_last_load (actions : List Action) :
    let w := new.after actions
    let image := (new.loads actions).getLast?.getD []
    let fresh := (new.loadImage image).2
    w.reset.1 = .ok () ∧ (new.loadImage image).1 = .ok image.length ∧
      (Cpu.load image).run (.powerOn .wrap) = .ok () w.reset.2.cpu ∧ w.reset.2.output = #[] ∧
      (∀ further, w.reset.2.answers further = fresh.answers further ∧
        w.reset.2.after further = fresh.after further) ∧
      ∀ action size, (w.respond action).1 = .loaded (.ok size) →
        ∃ loaded, (new.loads (actions ++ [action])).getLast? = some loaded ∧
          action.image? = some loaded ∧ size = loaded.length ∧ size ≤ memorySize := by
  intro w image fresh
  have keeps : Keeps image w := keeps_new.after actions
  have again : w.reset = (.ok (), fresh) := keeps.reset
  have loaded : new.loadImage image = _ := (loadImage_eq new image).trans (if_pos keeps.fits)
  refine ⟨?_, ?_, ?_, ?_, fun further => ?_, fun action size answer => ?_⟩
  · rw [again]
  · rw [loaded]
  · rw [again, Cpu.run_load_powerOn, if_pos keeps.fits]
    simp only [fresh, loaded]
  · rw [again]
    simp only [fresh, loaded]
  · rw [again]
    exact ⟨rfl, rfl⟩
  · obtain ⟨bytes, loadedBy, rfl, fits⟩ := loadedBy_of_answer answer
    exact ⟨bytes, getLast?_loads_concat loadedBy, (loadedBy_eq_some_iff.mp loadedBy).1, rfl, fits⟩

/-- A program that prints 8 and halts, run to its end and followed by a text that is no program. -/
theorem reset_after_failed_load :
    let actions : List Action :=
      [.loadFile "10000010\n0\n1000\n01000111\n0\n1\n", .run 10, .loadSource "JUNK"]
    let w := new.after actions
    let image : List UInt8 := [0x82, 0, 8, 0x47, 0, 1]
    (w.output = #[56, 10] ∧ w.cpu.state = .halted) ∧ w.reset.1 = .ok () ∧
      (Cpu.load image).run (.powerOn .wrap) = .ok () w.reset.2.cpu ∧ w.reset.2.output = #[] ∧
      w.reset.2.answers [.step, .run 10] = (new.loadImage image).2.answers [.step, .run 10] ∧
      ∃ loaded, (new.loads (actions ++ [.loadSource "HLT"])).getLast? = some loaded ∧
        loaded.length = 1 := by
  intro actions w image
  have past : w.output = #[56, 10] ∧ w.cpu.state = .halted := by decide +kernel
  have last : (new.loads actions).getLast?.getD [] = image := by decide +kernel
  obtain ⟨done, -, machine, silent, same, sizes⟩ := reset_restores_last_load actions
  rw [last] at machine same
  have answer : (w.respond (.loadSource "HLT")).1 = .loaded (.ok 1) := by decide +kernel
  obtain ⟨loaded, latest, -, size, -⟩ := sizes _ _ answer
  exact ⟨past, done, machine, silent, (same [.step, .run 10]).1, loaded, latest, size.symm⟩

/-! ## Loads that fail -/

/-- A program file with one byte more than memory has cells. -/
def longFile : String := ProgramFile.render ⟨List.replicate 257 1, []⟩

theorem length_bytes_longFile : (ProgramFile.parse longFile).bytes.length = 257 := by
  rw [longFile, ProgramFile.bytes_parse_render _ fun _ member => absurd member List.not_mem_nil]
  exact List.length_replicate

/-- What a load that fails leaves. A source text fails to load only if it does not assemble, and
then nothing has changed. A program file fails to load exactly if it has more bytes than memory has
cells; the program is kept then, but the machine has been replaced by a new one and the output thrown
away, so that nothing has changed only if both were those of a new workbench. -/
theorem failed_load_leaves (w : Workbench) :
    (∀ source e, (w.loadSource source).1 = .error e →
      (∃ reason, assemble source = .error reason ∧ e = .assembly reason) ∧
        (w.loadSource source).2 = w) ∧
    ∀ source,
      let size := (ProgramFile.parse source).bytes.length
      ((∃ e, (w.loadFile source).1 = .error e) ↔ memorySize < size) ∧
        (memorySize < size →
          w.loadFile source = (.error (.load ⟨size, memorySize⟩),
            { cpu := .powerOn .wrap, program := w.program, output := #[] }) ∧
          ((w.loadFile source).2 = w ↔ w.cpu = .powerOn .wrap ∧ w.output = #[])) := by
  refine ⟨fun source e failed => ?_, fun source => ?_⟩
  · cases done : assemble source with
    | error reason =>
      rw [loadSource_of_error done] at failed ⊢
      obtain rfl := Except.error.inj failed
      exact ⟨⟨reason, rfl, rfl⟩, rfl⟩
    | ok bytes =>
      rw [loadSource_of_ok done, loadImage_of_fits (Assembly.length_of_assemble done)] at failed
      contradiction
  · intro size
    refine ⟨⟨fun ⟨e, failed⟩ => ?_, fun oversized => ?_⟩, fun oversized => ⟨?_, ?_⟩⟩
    · refine Nat.not_le.mp fun fits => ?_
      rw [loadFile, loadImage_of_fits fits] at failed
      contradiction
    · rw [loadFile, loadImage_of_oversized oversized]
      exact ⟨_, rfl⟩
    · rw [loadFile, loadImage_of_oversized oversized]
    · rw [loadFile, loadImage_of_oversized oversized]
      obtain ⟨cpu, program, output⟩ := w
      constructor
      · intro same
        cases same
        exact ⟨rfl, rfl⟩
      · rintro ⟨rfl, rfl⟩
        rfl

/-- A text that is no program leaves a workbench that has printed as it is, and a long file leaves
a new one as it is. -/
theorem failed_loads_unnoticed :
    let w := new.after [.loadFile "10000010\n0\n1000\n01000111\n0\n1\n", .run 10]
    (w.output = #[56, 10] ∧ (w.loadSource "JUNK").2 = w) ∧
      (∃ e, (new.loadFile longFile).1 = .error e) ∧ (new.loadFile longFile).2 = new := by
  intro w
  have printed : w.output = #[56, 10] := by decide +kernel
  have failed : (w.loadSource "JUNK").1 =
      .error (.assembly (.onLine 1 (.unknownMnemonic "JUNK"))) := by
    decide +kernel
  have long : memorySize < (ProgramFile.parse longFile).bytes.length := by
    rw [length_bytes_longFile]
    decide
  obtain ⟨refused, leaves⟩ := (failed_load_leaves new).2 longFile
  exact ⟨⟨printed, ((failed_load_leaves w).1 _ _ failed).2⟩, refused.mpr long,
    (leaves long).2.mpr ⟨rfl, rfl⟩⟩

/-- A long file is refused by a workbench that has printed 8 and halted, and its machine and its
output are gone. -/
theorem long_file_discards :
    let w := new.after [.loadFile "10000010\n0\n1000\n01000111\n0\n1\n", .run 10]
    (∃ e, (w.loadFile longFile).1 = .error e) ∧
      (w.cpu.state = .halted ∧ (w.loadFile longFile).2.cpu.state = .running) ∧
      (w.output = #[56, 10] ∧ (w.loadFile longFile).2.output = #[]) ∧
      (w.loadFile longFile).2.cpu ≠ w.cpu := by
  intro w
  have long : memorySize < (ProgramFile.parse longFile).bytes.length := by
    rw [length_bytes_longFile]
    decide
  have halted : w.cpu.state = .halted := by decide +kernel
  have printed : w.output = #[56, 10] := by decide +kernel
  rw [loadFile, loadImage_of_oversized long]
  refine ⟨⟨_, rfl⟩, ⟨halted, rfl⟩, ⟨printed, rfl⟩, fun same => ?_⟩
  have stays : RunState.running = w.cpu.state := congrArg Cpu.state same
  rw [halted] at stays
  exact absurd stays (by decide)

end Ls8.Workbench
