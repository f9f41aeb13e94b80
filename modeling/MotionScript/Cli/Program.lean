import MotionScript.Cli.Invocation
import MotionScript.Cli.Session

/-!
# The program

* `Invocation.start`, `Invocation.carryOut`: what is done with a configuration and a script. An
  invocation that only inspects the script is done with that.
* `Invocation.prepare`: the configuration is read first and then the script.
* `perform`: the output of a command line, with the lines of a dialog typed during a run.
-/

namespace MotionScript.Cli

/-- How to use the program. -/
def usage : List String :=
  ["Usage: palletctl [--config FILE] [--daemon] [-v]... COMMAND",
    "",
    "Commands:",
    "  check FILE                compile a script and show its diagnostics",
    "  expand [--json] FILE      show the flattened command list",
    "  run [OPTIONS] FILE        run a script against the device",
    "",
    "Options of run:",
    "  --simulation              use the simulated device",
    "  --device ADDRESS          device address",
    "  --sync-timeout MS         time to wait for an external signal",
    "  --skip-errors             continue with the next command after a failure",
    "  --no-pause-on-error       do not pause the run after a failure"]

/-- The name and the version of the program or one of its actions. -/
def versionLine (action? : Option String) : String :=
  "palletizer-control" ++ (action?.map ("-" ++ ·)).getD "" ++ " 1.0.0"

/-- The output of a command line that is not carried out. -/
def Refusal.output : Refusal → Output
  | help => .succeeded (usage.map .plain) []
  | version action? => .succeeded [.plain (versionLine action?)] []
  | invalid => ⟨[], usage, 2⟩

/-- The text of a file, or why it cannot be read. -/
abbrev Files := String → Except String String

/-- The files of a folder. -/
def Files.ofFolder (f : Folder) : Files := fun path => (f.read path).mapError FileError.message

namespace Invocation

/-- The configuration of an invocation, or the output of the program that fails for lack of it. -/
def configuration (i : Invocation) (files : Files) : Except Output Config :=
  match i.config? with
  | none => .ok .standard
  | some file =>
    match files file with
    | .error text => .error (.failed [] [] (ConfigError.io text).message (some text))
    | .ok content =>
      match Config.read (some content) with
      | .ok c => .ok c
      | .error e => .error (.failed [] [] e.message none)

/-- The lines that are logged before anything else. -/
def greeting (i : Invocation) : List Line :=
  if i.daemon ∨ 0 < i.verbosity then [.plain "[INFO] Starting palletctl"] else []

/-- The script of an invocation, or why it cannot be read. -/
def script (i : Invocation) (files : Files) : Except String String :=
  match files i.action.file with
  | .ok source => .ok source
  | .error text => .error s!"Failed to read {i.action.file}: {text}"

/-- Inspect a script that may be missing. -/
def inspect (source : Except String String) (f : String → Output) : Output :=
  match source with
  | .ok source => f source
  | .error text => .failed [] [] text none

/-- Carry out an invocation with a configuration and a script that may be missing, up to the start
of a run: its output, or the run. -/
def start (i : Invocation) (config : Config) (source : Except String String) :
    Except Output Session :=
  match i.action with
  | .check file => .error ((inspect source (checkScript file)).after i.greeting)
  | .expand _ json => .error ((inspect source (expandScript json)).after i.greeting)
  | .run _ flags =>
    match Session.start (flags.apply config) source with
    | .ok s => .ok { s with printed := s.printed ++ i.greeting }
    | .error o => .error (o.after i.greeting)

/-- Read the files of an invocation and carry it out up to the start of a run. -/
def prepare (i : Invocation) (files : Files) : Except Output Session := do
  i.start (← i.configuration files) (i.script files)

/-- The output of an invocation with a configuration and a script, with the lines of a dialog typed
during a run. -/
def carryOut (i : Invocation) (config : Config) (source : Except String String)
    (dialog : List Session.Cue) : Output :=
  match i.start config source with
  | .error o => o
  | .ok s => (s.follow dialog).conclude

end Invocation

/-- The output of a command line. -/
def perform (args : List String) (files : Files) (dialog : List Session.Cue) : Output :=
  match Invocation.ofArguments args with
  | .error r => r.output
  | .ok i =>
    match i.configuration files with
    | .error o => o
    | .ok config => i.carryOut config (i.script files) dialog

end MotionScript.Cli
