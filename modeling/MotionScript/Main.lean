import MotionScript.Cli.Program

/-!
# The command line

Files are read and lines are printed here, and a run follows the clock of the machine. All else is
decided by `Cli`. Only the simulated device can be reached from here: there is no network.
-/

namespace Terminal

open MotionScript (FileError)
open MotionScript.Cli

/-- Why a file cannot be read. -/
def fileError : IO.Error → String
  | .noFileOrDirectory _ _ _ => FileError.missing.message
  | .permissionDenied _ _ _ => "Permission denied (os error 13)"
  | .inappropriateType _ code _ =>
    if code = 20 then FileError.notFolder.message else FileError.isFolder.message
  | e => toString e

/-- The text of a file, or why it cannot be read. -/
def readFile (file : String) : IO (Except String String) := do
  try
    return .ok (← IO.FS.readFile file)
  catch e =>
    return .error (fileError e)

/-- Print a line. -/
def printLine (l : Line) : IO Unit := do
  IO.println l.text
  (← IO.getStdout).flush

/-- Print an output; the lines in `shown` are printed already. -/
def printOutput (shown : Nat) (o : Output) : IO UInt32 := do
  (o.stdout.drop shown).forM printLine
  o.stderr.forM fun l => IO.eprintln l
  return o.exit.toUInt32

/-- The next line of standard input, in a task of its own. -/
def nextLine : IO (Task (Except IO.Error String)) := do
  IO.asTask (← IO.getStdin).getLine

/-- Print the lines of a session that are not in `shown`, and forget its complaints. -/
def printNew (shown : Nat) (s : Session) : IO (Nat × Session) := do
  (s.printed.reverse.drop shown).forM printLine
  s.complaints.reverse.forM fun l => IO.eprintln l
  return (s.printed.length, { s with complaints := [] })

/-- Follow a run that began at a time of the machine until it ends. -/
partial def follow (began shown : Nat) (input : Option (Task (Except IO.Error String)))
    (s : Session) : IO UInt32 := do
  let now ← IO.monoMsNow
  let (shown, s) ← printNew shown (s.pass (now - began - s.bench.runner.clock))
  if s.hasEnded then printOutput shown s.conclude
  else
    match input with
    | some task =>
      if ← IO.hasFinished task then
        match task.get with
        | .ok line =>
          if line.isEmpty then follow began shown none s
          else follow began shown (some (← nextLine)) (s.enter (.ofLine line))
        | .error _ => follow began shown none s
      else
        IO.sleep 1
        follow began shown input s
    | none =>
      IO.sleep 1
      follow began shown none s

/-- Carry out a command line. -/
def run (args : List String) : IO UInt32 := do
  match Invocation.ofArguments args with
  | .error r => printOutput 0 r.output
  | .ok i =>
    let config ← readFile (i.config?.getD "")
    let script ← readFile i.action.file
    match i.prepare fun file => if i.config? = some file then config else script with
    | .error o => printOutput 0 o
    | .ok s => follow (← IO.monoMsNow) 0 (some (← nextLine)) s

end Terminal

def main (args : List String) : IO UInt32 := Terminal.run args
