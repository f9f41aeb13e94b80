import MotionScript.Script.Duration
import MotionScript.Script.Statement
import MotionScript.Script.Token

/-!
# Programs

* `Program`: the commands of a script outside routines, and its routines.
* `Command.ofStatement`: the command of a statement. Its estimate has to fit a 64-bit word.
* `Token.read`: what a token is where commands are expected.
* `ProgramScan`: the scan of the tokens, a fold. A routine header has to be followed by an opening
  brace; the braces of its body are matched, inner ones having no meaning of their own.
* `Program.ofTokens`: the program of a token list with the problems found, in the order in which
  the tokens show them. Of several routines with one name the first is kept.
-/

namespace MotionScript

/-- The commands outside routines and the routines, both in source order. -/
structure Program where
  commands : List Command
  routines : List Routine
  deriving DecidableEq

/-- All commands: those outside routines, then those of the routines. -/
def Program.allCommands (p : Program) : List Command :=
  p.commands ++ p.routines.flatMap (·.commands)

/-- The command of a statement, or everything that is wrong with it. The estimate is made in a
64-bit word. -/
def Command.ofStatement (s : List Char) (line : Nat) :
    Except Overflow (Except (List Problem) Command) :=
  match Instruction.read s with
  | .ok i => return .ok ⟨i, String.ofList s, line, ← i.estimateWord, []⟩
  | .error ps => return .error ps

theorem Command.ofStatement_of_read {s : List Char} {i : Instruction}
    (h : Instruction.read s = .ok i) (line : Nat) : ofStatement s line =
      if i.estimate ≤ word64Max then .ok (.ok ⟨i, String.ofList s, line, i.estimate, []⟩)
      else .error .addition := by
  simp only [ofStatement, h, Instruction.estimateWord]
  split <;> rfl

theorem Command.ofStatement_of_error {s : List Char} {ps : List Problem}
    (h : Instruction.read s = .error ps) (line : Nat) : ofStatement s line = .ok (.error ps) := by
  rw [ofStatement, h]
  rfl

/-- What a token is where commands are expected. -/
inductive Reading where
  | openBrace
  | closeBrace
  /-- The header of a routine. -/
  | header (name : List Char)
  /-- A statement with its command. -/
  | command (c : Command)
  /-- A statement with all that is wrong with it. -/
  | refused (ps : List Problem)

/-- Read a token. -/
def Token.read (t : Token) : Except Overflow Reading :=
  match t.lexeme with
  | .openBrace => return .openBrace
  | .closeBrace => return .closeBrace
  | .statement s =>
    match headerName? s with
    | some name => return .header name
    | none => do
      match ← Command.ofStatement s t.line with
      | .ok c => return .command c
      | .error ps => return .refused ps

/-- Where a scan of tokens is. -/
inductive ScanContext where
  /-- Outside routines. -/
  | outside
  /-- After a routine header. -/
  | header (name : List Char) (line : Nat)
  /-- In a routine body, with the number of open braces and the commands so far, last one first. -/
  | body (name : List Char) (line depth : Nat) (commands : List Command)

/-- State of a scan of tokens. -/
structure ProgramScan where
  context : ScanContext
  /-- Commands outside routines, last one first. -/
  commands : List Command
  /-- Routines, last one first. -/
  routines : List Routine
  /-- Problems, last one first. -/
  diagnostics : List Diagnostic

namespace ProgramScan

/-- Before the first token. -/
def start : ProgramScan := ⟨.outside, [], [], []⟩

/-- Report problems at a line. -/
def report (st : ProgramScan) (line : Nat) (ps : List Problem) : ProgramScan :=
  { st with diagnostics := (ps.map (Diagnostic.onLine line)).reverse ++ st.diagnostics }

/-- What is wrong with a finished routine, apart from the braces. `first?` is the one of the same
name before it. -/
def routineProblems (first? : Option Routine) (name : List Char) (commands : List Command) :
    List Problem :=
  (if isConventionalName name then [] else [.unconventionalName (String.ofList name)]) ++
    (if commands.isEmpty then [.emptyRoutine (String.ofList name)] else []) ++
    (match first? with
      | some first => [.repeatedRoutine (String.ofList name) first.line]
      | none => [])

/-- End a routine with the given commands, last one first. -/
def finishRoutine (st : ProgramScan) (name : List Char) (line : Nat) (commands : List Command) :
    ProgramScan :=
  let first? := Routine.find? st.routines (String.ofList name)
  { st.report line (routineProblems first? name commands) with
    context := .outside
    routines :=
      if first?.isSome then st.routines
      else ⟨String.ofList name, commands.reverse, line, 0⟩ :: st.routines }

/-- Take what is read at a line outside routines. -/
def takeOutside (st : ProgramScan) (line : Nat) : Reading → ProgramScan
  | .openBrace => st.report line [.strayOpenBrace]
  | .closeBrace => st.report line [.strayCloseBrace]
  | .header name => { st with context := .header name line }
  | .command c => { st with commands := c :: st.commands }
  | .refused ps => st.report line ps

/-- Give up a routine header that has no body. -/
def dropHeader (st : ProgramScan) (name : List Char) (line : Nat) : ProgramScan :=
  { st.report line [.missingOpenBrace (String.ofList name)] with context := .outside }

/-- Take what is read at a line in a routine body. -/
def takeInBody (st : ProgramScan) (name : List Char) (headerLine depth : Nat)
    (commands : List Command) (line : Nat) : Reading → ProgramScan
  | .openBrace => { st with context := .body name headerLine (depth + 1) commands }
  | .closeBrace =>
    if depth ≤ 1 then st.finishRoutine name headerLine commands
    else { st with context := .body name headerLine (depth - 1) commands }
  | .header inner => st.report line [.nestedRoutine (String.ofList inner) (String.ofList name)]
  | .command c => { st with context := .body name headerLine depth (c :: commands) }
  | .refused ps => st.report line ps

/-- Take what is read at a line. -/
def take (st : ProgramScan) (line : Nat) (r : Reading) : ProgramScan :=
  match st.context with
  | .outside => st.takeOutside line r
  | .header name headerLine =>
    match r with
    | .openBrace => { st with context := .body name headerLine 1 [] }
    | r => (st.dropHeader name headerLine).takeOutside line r
  | .body name headerLine depth commands => st.takeInBody name headerLine depth commands line r

/-- Read one token. -/
def push (st : ProgramScan) (t : Token) : Except Overflow ProgramScan :=
  return st.take t.line (← t.read)

/-- The end of the tokens. -/
def finish (st : ProgramScan) : ProgramScan :=
  match st.context with
  | .outside => st
  | .header name line => st.dropHeader name line
  | .body name line _ commands =>
    (st.report line [.missingCloseBrace (String.ofList name)]).finishRoutine name line commands

/-- The program of a scan and the problems found. -/
def result (st : ProgramScan) : Program × List Diagnostic :=
  (⟨st.commands.reverse, st.routines.reverse⟩, st.diagnostics.reverse)

end ProgramScan

/-- The program of a token list and the problems found. -/
def Program.ofTokens (ts : List Token) : Except Overflow (Program × List Diagnostic) :=
  return (← ts.foldlM ProgramScan.push .start).finish.result

end MotionScript
