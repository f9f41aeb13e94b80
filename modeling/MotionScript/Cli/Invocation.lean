import MotionScript.Cli.Argument
import MotionScript.Config
import MotionScript.Text.Integer

/-!
# Invocations

* `Action`: check a script, list its expansion, or run it.
* `Invocation`: an action with the options that stand before it.
* `Invocation.ofArguments`: the invocation of a command line.
* `RunFlags.apply`: the options of a run take precedence over the configuration.
-/

namespace MotionScript.Cli

/-- The options of a run. -/
structure RunFlags where
  /-- Use the simulated device. -/
  simulation : Bool
  /-- The address of the controller. -/
  address? : Option String
  /-- Milliseconds to wait for the external signal. -/
  syncTimeout? : Option Nat
  /-- Go on with the next command after a failure. -/
  skipErrors : Bool
  /-- Do not pause after a failure. -/
  noPause : Bool
  deriving DecidableEq

/-- The configuration of a run with these options. -/
def RunFlags.apply (f : RunFlags) (c : Config) : Config where
  device := { c.device with
    simulation := f.simulation || c.device.simulation
    address := f.address?.getD c.device.address }
  options := { c.options with
    syncTimeout := f.syncTimeout?.getD c.options.syncTimeout
    skipErrors := f.skipErrors || c.options.skipErrors
    pauseOnError := !f.noPause && c.options.pauseOnError }

/-- What to do with a script. -/
inductive Action where
  /-- Compile it and show what is wrong. -/
  | check (file : String)
  /-- Show its commands without any calls, as text or as JSON. -/
  | expand (file : String) (json : Bool)
  /-- Run it. -/
  | run (file : String) (flags : RunFlags)
  deriving DecidableEq

/-- The file of the script. -/
def Action.file : Action → String
  | check f | expand f _ | run f _ => f

/-- A command line that is understood. -/
structure Invocation where
  /-- The configuration file. -/
  config? : Option String
  /-- Work in the background: log without times and colours. -/
  daemon : Bool
  /-- The level of detail of the log. -/
  verbosity : Nat
  action : Action
  deriving DecidableEq

/-! ## Reading -/

/-- The options before the action. -/
def globalOptions : List OptionSpec :=
  [⟨["config", "conf"], some 'c', true, false⟩, .flag "daemon",
    ⟨["verbose"], some 'v', false, true⟩]

/-- The options of a run. -/
def runOptions : List OptionSpec :=
  [.flag "simulation", .valued "device", .valued "sync-timeout", .flag "skip-errors",
    .flag "no-pause-on-error"]

/-- The options and the file of an action. -/
def scanAction (specs : List OptionSpec) (args : List String) :
    Except Refusal (List Given × String) := do
  let (given, words) ← scanAll specs args
  match words with
  | [file] => if isProper specs given ∧ file ≠ "" then return (given, file) else .error .invalid
  | _ => .error .invalid

/-- The options of a run as given. -/
def RunFlags.ofGiven (given : List Given) : Except Refusal RunFlags := do
  let syncTimeout? ← match value? "sync-timeout" given with
    | none => pure none
    | some v =>
      match readNat word64Max v.toList with
      | some n => pure (some n)
      | none => .error .invalid
  return ⟨isGiven "simulation" given, value? "device" given, syncTimeout?,
    isGiven "skip-errors" given, isGiven "no-pause-on-error" given⟩

/-- The action of a name and its arguments. -/
def Action.read : List String → Except Refusal Action
  | "check" :: args => do
    let (_, file) ← scanAction [] args
    return .check file
  | "expand" :: args => do
    let (given, file) ← scanAction [.flag "json"] args
    return .expand file (isGiven "json" given)
  | "run" :: args => do
    let (given, file) ← scanAction runOptions args
    return .run file (← RunFlags.ofGiven given)
  | "help" :: _ => .error .help
  | _ => .error .invalid

/-- The action of the arguments from its name on. -/
def Action.ofArguments (args : List String) : Except Refusal Action :=
  match Action.read args with
  | .ok a => .ok a
  | .error r => .error (r.within (args.headD ""))

/-- The invocation of a command line. -/
def Invocation.ofArguments (args : List String) : Except Refusal Invocation := do
  let (given, rest) ← scanOptions globalOptions args
  if isProper globalOptions given ∧ value? "config" given ≠ some "" then
    return ⟨value? "config" given, isGiven "daemon" given,
      given.countP (·.name == "verbose"), ← Action.ofArguments rest⟩
  else .error .invalid

end MotionScript.Cli
