import MotionScript.Cli.Inspection
import MotionScript.Cli.Output
import MotionScript.Config
import MotionScript.Run.Bench
import MotionScript.Text.Blank

/-!
# A run at the terminal

* `Typed`: what a line that is typed during a run asks for.
* `Session`: a run with everything printed so far.
* `Session.start`: a script is loaded and played; where that is refused, the program ends.
* `Session.enter`: a line is typed.
* `Session.pass`: time passes.
* `Session.conclude`: the output at the end of the run.
* `Session.follow`: a run whose lines are typed in answer to what it prints.
-/

namespace MotionScript.Cli

/-- What a typed line asks for. -/
inductive Typed where
  | signal
  | pause
  | resume
  | stop
  | reset
  | status
  | nothing
  | unknown (text : String)

/-- What a line asks for. Blanks at its ends do not count. -/
def Typed.ofLine (s : String) : Typed :=
  match String.ofList (trim s.toList) with
  | "s" | "signal" => signal
  | "p" | "pause" => pause
  | "r" | "resume" => resume
  | "stop" => stop
  | "reset" => reset
  | "state" => status
  | "" => nothing
  | other => unknown other

/-- A run at the terminal. -/
structure Session where
  bench : Bench
  /-- The lines printed, last one first. -/
  printed : List Line
  /-- The texts of the lines printed and not yet read by anyone, last one first. -/
  unread : List String
  /-- The lines on standard error, last one first. -/
  complaints : List String
  /-- The outcome of the run, once it has ended. -/
  outcome : Option (Except Failure Metrics)

namespace Session

/-- Whether the run has ended. -/
def hasEnded (s : Session) : Bool := s.outcome.isSome

/-- Print a line. -/
def print (s : Session) (l : Line) : Session :=
  { s with printed := l :: s.printed, unread := l.text :: s.unread }

/-- Write a line on standard error. -/
def complain (s : Session) (text : String) : Session :=
  { s with complaints := text :: s.complaints }

/-- Account for an entry of the journal: events are printed. -/
def record (s : Session) : Entry → Session
  | .event e => s.print (Line.ofEvent e)
  | .ended _ outcome => { s with outcome := some outcome }
  | .sent _ _ _ _ => s

/-- Go on with a bench, and account for its journal. -/
def absorb (s : Session) (b : Bench) : Session :=
  let (entries, bench) := b.takeJournal
  entries.foldl record { s with bench }

/-- The session of a bench, before anything is printed but complaints. -/
def ofBench (b : Bench) (complaints : List String) : Session := ⟨b, [], [], complaints, none⟩

/-- Load and play a script. -/
def start (config : Config) (source : Except String String) : Except Output Session :=
  match Controller.ofConfig config.device with
  | .error fault => .error (.failedRun [] [] (.device fault))
  | .ok controller =>
    let b := Bench.new config.options controller
    match source with
    | .error text => .error (.failed [] [] text none)
    | .ok source =>
      match b.runner.loadScript source with
      | .error (.compile errors) =>
        .error (.failed [] (diagnosticLines errors []) (errorCount errors) none)
      | .error e => .error (.failedRun [] [] e)
      | .ok (runner, warnings) =>
        let found := diagnosticLines [] warnings
        match runner.play with
        | .error e => .error (.failedRun [] found e)
        | .ok runner => .ok ((ofBench b found.reverse).absorb (b.change runner))

/-- Change the runner, if it is not refused. -/
def change (s : Session) (r : Runner) : Session := s.absorb (s.bench.change r)

/-- Carry out what a typed line asks for. After the run has ended nothing is read any more. -/
def enter (s : Session) (t : Typed) : Session :=
  if s.hasEnded then s
  else
    let r := s.bench.runner
    match t with
    | .signal => (r.signal.map s.change).getD (s.complain "No wait pending")
    | .pause => (r.pause.map s.change).getD s
    | .resume => (r.unpause.map s.change).getD s
    | .stop => (r.stop.map s.change).getD s
    | .reset => s.change r.reset
    | .status => s.print (.status r.snapshot)
    | .nothing => s
    | .unknown text => s.complain s!"Unknown input '{text}'"

/-- A number of milliseconds pass. -/
def pass (s : Session) (ms : Nat) : Session := s.absorb (s.bench.advance ms)

/-- The output at the end of the run. A run that fails is logged, unless it was reset. -/
def conclude (s : Session) : Output :=
  let stdout := s.printed.reverse
  let stderr := s.complaints.reverse
  match s.outcome with
  | some (.ok metrics) =>
    .succeeded (stdout ++ [.status s.bench.runner.snapshot, .plain metrics.text])
      (stderr ++ s.bench.runner.status.errors.map errorLine)
  | some (.error .reset) => .failedRun stdout stderr .reset
  | some (.error e) =>
    .failedRun stdout (stderr ++ [s!"[ERROR] Execution failed: {e.message}"]) e
  | none => ⟨stdout, stderr, 1⟩

/-! ## Dialogs -/

/-- A part of a dialog: once a line with a text is printed, some lines are typed. -/
structure Cue where
  awaited : String
  typed : List String

/-- Whether `part` occurs in `text`. -/
def occursIn (part : List Char) : List Char → Bool
  | [] => part.isEmpty
  | c :: text => part.isPrefixOf (c :: text) || occursIn part text

/-- Read the lines printed up to the first one with a text, or all of them if there is none, and
tell whether there is one. -/
def readTo (text : String) (s : Session) : Session × Bool :=
  match s.unread.reverse.dropWhile fun l => !occursIn text.toList l.toList with
  | _ :: rest => ({ s with unread := rest.reverse }, true)
  | [] => ({ s with unread := [] }, false)

/-- Let time pass until a line with a text is printed, at most `fuel` times up to something that
happens by itself, and tell whether it is printed. -/
def awaitFor (text : String) : Nat → Session → Session × Bool
  | 0, s => s.readTo text
  | fuel + 1, s =>
    match s.readTo text with
    | (s, true) => (s, true)
    | (s, false) =>
      if s.hasEnded then (s, false)
      else
        match s.bench.tick? with
        | some b => awaitFor text fuel (s.absorb b)
        | none => (s, false)

/-- Let time pass until the run ends, at most `fuel` times up to something that happens by
itself. -/
def finishFor : Nat → Session → Session
  | 0, s => s
  | fuel + 1, s =>
    if s.hasEnded then s
    else
      match s.bench.tick? with
      | some b => finishFor fuel (s.absorb b)
      | none => s

/-- A bound on the things that happen by themselves before the run ends or something is typed. -/
def workload (s : Session) : Nat := s.bench.workload

/-- The run with the lines of a dialog typed, up to its end. -/
def follow : List Cue → Session → Session
  | [], s => finishFor s.workload s
  | c :: dialog, s =>
    match awaitFor c.awaited s.workload s with
    | (s, true) => follow dialog (c.typed.foldl (fun s l => s.enter (.ofLine l)) s)
    | (s, false) => s

end Session

end MotionScript.Cli
