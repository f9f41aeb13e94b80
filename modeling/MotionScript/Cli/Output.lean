import MotionScript.Run.Event
import MotionScript.Run.Failure
import MotionScript.Run.Status
import MotionScript.Script.Compilation

/-!
# Output of the program

* `Colour.paint`: a text between the control sequences of a terminal.
* `Line`: a line on standard output. The status of a run is kept as such, so that a reader sees its
  parts and not only its text.
* `Output`: what the program prints, and its exit code.
* `Output.failed`: the end of a program that fails, with the cause of the failure if it has one.
* `Output.aborted`: the end of a program that cannot go on, since a number left its word.
-/

namespace MotionScript.Cli

/-- A colour of a terminal. -/
inductive Colour where
  | red
  | green
  | yellow
  | blue
  | purple

namespace Colour

/-- The code of a colour. -/
def code : Colour → String
  | red => "31"
  | green => "32"
  | yellow => "33"
  | blue => "34"
  | purple => "35"

/-- A text between the sequence of `style` and the one that ends it. -/
def styled (style s : String) : String := "\x1b[" ++ style ++ "m" ++ s ++ "\x1b[0m"

/-- A text in a colour. -/
def paint (c : Colour) (s : String) : String := styled c.code s

/-- A text in a colour and in bold. -/
def paintBold (c : Colour) (s : String) : String := styled ("1;" ++ c.code) s

end Colour

/-- A line on standard output. -/
inductive Line where
  | plain (text : String)
  | status (snapshot : Snapshot)

/-- The text of a line. -/
def Line.text : Line → String
  | plain s => s
  | status s => s.text

/-- The line of an event. -/
def Line.ofEvent (e : Event) : Line :=
  .plain (match e with
    | .phaseChanged _ => Colour.blue.paint e.text
    | .failed _ _ => Colour.red.paint e.text
    | .waiting _ _ => Colour.yellow.paint e.text
    | .finished _ => Colour.green.paint e.text
    | .started _ _ | .completed _ _ | .signalled => e.text)

/-- What the program prints, and its exit code. -/
structure Output where
  stdout : List Line
  /-- The lines on standard error. -/
  stderr : List String
  exit : Nat

namespace Output

/-- The end of a program that succeeds. -/
def succeeded (stdout : List Line) (stderr : List String) : Output := ⟨stdout, stderr, 0⟩

/-- A text with each of its lines set in. -/
def indented (s : String) : String :=
  "\n".intercalate ((s.splitOn "\n").map ("    " ++ ·))

/-- The lines that report why the program fails. -/
def failureLines (message : String) (cause : Option String) : List String :=
  s!"Error: {message}" ::
    match cause with
    | some c => ["", "Caused by:", indented c]
    | none => []

/-- The end of a program that fails. -/
def failed (stdout : List Line) (stderr : List String) (message : String)
    (cause : Option String) : Output :=
  ⟨stdout, stderr ++ failureLines message cause, 1⟩

/-- The end of a program that cannot go on. -/
def aborted (stdout : List Line) (stderr : List String) (message : String) : Output :=
  ⟨stdout, stderr ++ [message], 101⟩

/-- The end of a program that refuses a source. -/
def refused (e : SourceError) : Output :=
  match e with
  | .tooLarge _ _ => failed [] [] e.message none
  | .overflow _ => aborted [] [] e.message

/-- The end of a program that fails because of a runner. -/
def failedRun (stdout : List Line) (stderr : List String) (e : Failure) : Output :=
  match e with
  | .device fault => failed stdout stderr e.message (some fault.text)
  | .overflow _ => aborted stdout stderr e.message
  | _ => failed stdout stderr e.message none

/-- An output after some lines on standard output. -/
def after (lines : List Line) (o : Output) : Output := { o with stdout := lines ++ o.stdout }

/-- The text of standard error. -/
def stderrText (o : Output) : String := String.join (o.stderr.map (· ++ "\n"))

end Output

/-- The line of an error. -/
def errorLine (text : String) : String := Colour.red.paintBold "error:" ++ " " ++ text

/-- The line of a warning. -/
def warningLine (text : String) : String := Colour.yellow.paintBold "warning:" ++ " " ++ text

end MotionScript.Cli
