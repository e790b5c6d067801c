import Ls8.Command.Behaviour
import Ls8.Proofs.Machine.Surroundings
import Ls8.Proofs.Text.Utf8

/-! # Scripts performed

What a script does before it exits or lets a machine run is a sequence of single actions. `Leads`
says where such a sequence leads; from there on the script goes on as any other. What has been
reported already never matters for what a script does. -/

namespace Ls8.Command

/-- The console after earlier reports. -/
def Console.after (earlier : Array Report) (s : Console) : Console :=
  { s with reports := earlier ++ s.reports }

namespace Console

variable (earlier : Array Report) (s : Console)

theorem after_print (bytes : List UInt8) :
    (s.after earlier).print bytes = (s.print bytes).after earlier := rfl

theorem after_report (r : Report) : (s.after earlier).report r = (s.report r).after earlier := by
  simp [after, report, Array.push_append]

theorem after_wrote (written : Written) :
    (s.after earlier).wrote written = (s.wrote written).after earlier := by
  simp only [wrote]
  split
  · rfl
  · exact after_report earlier ({ s with directory := written.directory }.print written.output) _

/-- A machine prints and logs in the same way after whatever has been reported. -/
theorem host_maps_after (filter : Log.Filter) :
    (Console.host filter).Maps (Console.after earlier) (Console.host filter) where
  write s bytes := by
    simp only [host, after_print]
  log s event := by
    simp only [host]
    split
    · exact after_report earlier s _
    · rfl

end Console

theorem runWithin_map {σ τ : Type} {f : σ → τ} {host : Host σ} {image : Host τ}
    (maps : host.Maps f image) (fuel : Nat) (c : Cpu) (s : σ) (budget : Option UInt64) :
    runWithin image fuel c (f s) budget = (runWithin host fuel c s budget).map (·.map f) := by
  cases budget with
  | none => exact maps.run fuel c s
  | some budget =>
    rw [runWithin, maps.runLimited]
    rfl

namespace Script

/-- The machine at the end of the run that a script makes, if there is one and it ends. -/
def machine? (fuel : Nat) : Script → Console → Option Cpu
  | exit _, _ => none
  | print text next, s => next.machine? fuel (s.print (Text.Utf8.encode text))
  | report r next, s => next.machine? fuel (s.report r)
  | read path next, s => (next (s.directory.read path)).machine? fuel s
  | write path content next, s =>
    match s.directory.write path content with
    | .ok written => (next (.ok ())).machine? fuel (s.wrote written)
    | .error e => (next (.error e)).machine? fuel s
  | run c budget filter _, s =>
    (runWithin (Console.host filter) fuel c s budget).map fun out => out.cpu
  | debug _, _ => none

/-! ## Earlier reports -/

/-- A script performed after earlier reports does the same as without them. -/
theorem perform_after (fuel : Nat) (earlier : Array Report) (script : Script) (s : Console) :
    script.perform fuel (s.after earlier) =
      (script.perform fuel s).map (Prod.map id (Console.after earlier)) := by
  induction script generalizing s with
  | exit code => rfl
  | print text next ih => exact ih (s.print (Text.Utf8.encode text))
  | report r next ih =>
    rw [perform, Console.after_report]
    exact ih (s.report r)
  | read path next ih => exact ih _ s
  | write path content next ih =>
    have place : (s.after earlier).directory = s.directory := rfl
    rw [perform, perform, place]
    cases s.directory.write path content with
    | ok written =>
      simp only [Console.after_wrote]
      exact ih _ (s.wrote written)
    | error e => exact ih _ s
  | run c budget filter next ih =>
    -- The machine never sees the reports, so it hands on the same result.
    rw [perform, perform, runWithin_map (Console.host_maps_after earlier filter)]
    cases runWithin (Console.host filter) fuel c s budget with
    | none => rfl
    | some out => exact ih out.result out.cpu out.host
  | debug program => rfl

theorem machine?_after (fuel : Nat) (earlier : Array Report) (script : Script) (s : Console) :
    script.machine? fuel (s.after earlier) = script.machine? fuel s := by
  induction script generalizing s with
  | exit code => rfl
  | print text next ih => exact ih (s.print (Text.Utf8.encode text))
  | report r next ih =>
    rw [machine?, Console.after_report]
    exact ih (s.report r)
  | read path next ih => exact ih _ s
  | write path content next ih =>
    have place : (s.after earlier).directory = s.directory := rfl
    rw [machine?, machine?, place]
    cases s.directory.write path content with
    | ok written =>
      simp only [Console.after_wrote]
      exact ih _ (s.wrote written)
    | error e => exact ih _ s
  | run c budget filter next ih =>
    rw [machine?, machine?, runWithin_map (Console.host_maps_after earlier filter),
      Option.map_map]
    rfl
  | debug program => rfl

/-! ## Single actions -/

/-- A script at a console comes, without a run, to another script at another console. -/
inductive Leads : Script → Console → Script → Console → Prop
  | here (script : Script) (s : Console) : Leads script s script s
  | print {text : String} {next script : Script} {s t : Console}
      (rest : Leads next (s.print (Text.Utf8.encode text)) script t) :
      Leads (print text next) s script t
  | report {r : Report} {next script : Script} {s t : Console}
      (rest : Leads next (s.report r) script t) : Leads (report r next) s script t
  | read {path : String} {next : Except FileError (List UInt8) → Script} {script : Script}
      {s t : Console} (rest : Leads (next (s.directory.read path)) s script t) :
      Leads (read path next) s script t
  | write {path : String} {content : List UInt8} {next : Except FileError Unit → Script}
      {script : Script} {s t : Console} {written : Written}
      (done : s.directory.write path content = .ok written)
      (rest : Leads (next (.ok ())) (s.wrote written) script t) :
      Leads (write path content next) s script t

namespace Leads

variable {script next : Script} {s t : Console}

theorem trans {last : Script} {u : Console} (leads : Leads script s next t)
    (further : Leads next t last u) : Leads script s last u := by
  induction leads with
  | here => exact further
  | print rest ih => exact .print (ih further)
  | report rest ih => exact .report (ih further)
  | read rest ih => exact .read (ih further)
  | write done rest ih => exact .write done (ih further)

theorem perform (leads : Leads script s next t) (fuel : Nat) :
    script.perform fuel s = next.perform fuel t := by
  induction leads with
  | here => rfl
  | print rest ih => exact ih
  | report rest ih => exact ih
  | read rest ih => exact ih
  | write done rest ih =>
    rw [Script.perform, done]
    exact ih

theorem machine? (leads : Leads script s next t) (fuel : Nat) :
    script.machine? fuel s = next.machine? fuel t := by
  induction leads with
  | here => rfl
  | print rest ih => exact ih
  | report rest ih => exact ih
  | read rest ih => exact ih
  | write done rest ih =>
    rw [Script.machine?, done]
    exact ih

/-- A failure is reported and decides the exit code. -/
theorem fail (reason : Failure) (s : Console) :
    Leads (Script.fail reason) s (exit reason.exitCode) (s.report (.failure reason)) :=
  .report (.here _ _)

end Leads

end Script

end Ls8.Command
