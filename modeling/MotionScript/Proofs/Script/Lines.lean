import MotionScript.Proofs.Script.Estimate

/-!
# Source lines are labels

A line goes with its token into the commands, routines and diagnostics of a script, and nothing is
decided by it.

* `Token.mapLine`, `Command.mapLine`, …, `Compilation.mapLine`: each source line replaced by the one
  that a function gives for it.
* `Problem.namesLine`: one problem names a line itself, a routine defined again. No statement and no
  rule has it.
* `ProgramScan.mapLine_readToken`, `Program.scanned_mapLine`: a scan of relabelled tokens is the
  relabelled scan.
* `compileTokens_mapLine`: so it is with a compilation. `Compilation.SameProgram` is what two
  compilations with one relabelling have in common.
* **`compile_of_lexemes_eq`**: sources with the same lexemes compile to the same, apart from lines.
-/

namespace MotionScript

/-! ## Relabelling -/

section Definitions

variable (f : Nat → Nat)

def Token.mapLine (t : Token) : Token := { t with line := f t.line }

def Command.mapLine (c : Command) : Command := { c with line := f c.line }

def Routine.mapLine (r : Routine) : Routine :=
  { r with commands := r.commands.map (Command.mapLine f), line := f r.line }

def Problem.mapLine : Problem → Problem
  | repeatedRoutine name first => repeatedRoutine name (f first)
  | p => p

def Diagnostic.mapLine (d : Diagnostic) : Diagnostic := ⟨d.line?.map f, d.problem.mapLine f⟩

def Program.mapLine (p : Program) : Program :=
  ⟨p.commands.map (Command.mapLine f), p.routines.map (Routine.mapLine f)⟩

def Compilation.mapLine (c : Compilation) : Compilation :=
  ⟨c.program.mapLine f, c.diagnostics.map (Diagnostic.mapLine f), c.callDepth⟩

def ScanContext.mapLine : ScanContext → ScanContext
  | outside => outside
  | header name line => header name (f line)
  | body name line depth commands => body name (f line) depth (commands.map (Command.mapLine f))

def ProgramScan.mapLine (st : ProgramScan) : ProgramScan :=
  ⟨st.context.mapLine f, st.commands.map (Command.mapLine f), st.routines.map (Routine.mapLine f),
    st.diagnostics.map (Diagnostic.mapLine f)⟩

end Definitions

/-- Whether a problem names a line itself. -/
def Problem.namesLine : Problem → Bool
  | repeatedRoutine _ _ => true
  | _ => false

/-- Without regard to lines: the same commands, routines and durations, and as valid. -/
structure Compilation.SameProgram (c c' : Compilation) : Prop where
  commands : c'.program.commands.map (Command.mapLine fun _ => 0) =
    c.program.commands.map (Command.mapLine fun _ => 0)
  routines : c'.program.routines.map (Routine.mapLine fun _ => 0) =
    c.program.routines.map (Routine.mapLine fun _ => 0)
  diagnostics : c'.diagnostics.map (Diagnostic.mapLine fun _ => 0) =
    c.diagnostics.map (Diagnostic.mapLine fun _ => 0)
  totalDuration : c'.totalDuration = c.totalDuration
  isOk : c'.isOk = c.isOk

/-! ## Problems that name no line -/

namespace Problem

variable {f : Nat → Nat} {p : Problem} {ps : List Problem}

@[simp] theorem severity_mapLine (f : Nat → Nat) (p : Problem) :
    (p.mapLine f).severity = p.severity := by
  cases p <;> rfl

theorem mapLine_eq_self (h : p.namesLine = false) : p.mapLine f = p := by
  cases p <;> first | rfl | cases h

theorem map_mapLine_eq_self (h : ∀ p ∈ ps, p.namesLine = false) : ps.map (mapLine f) = ps := by
  calc ps.map (mapLine f)
      = ps.map id := List.map_congr_left fun p hp => mapLine_eq_self (h p hp)
    _ = ps := List.map_id ps

end Problem

section Statements

variable {s : List Char} {p : Problem}

theorem problemsOf_map {α β : Type} (r : Except (List Problem) α) (g : α → β) :
    problemsOf (r.map g) = problemsOf r := by
  cases r <;> rfl

theorem namesLine_of_move {call : AxisCall} (h : p ∈ problemsOf call.move) :
    p.namesLine = false := by
  unfold AxisCall.move readMove at h
  grind [problemsOf, Problem.namesLine]

theorem namesLine_of_readMoves {calls : List AxisCall} (h : p ∈ problemsOf (readMoves calls)) :
    p.namesLine = false := by
  unfold readMoves at h
  grind [problemsOf, namesLine_of_move]

theorem namesLine_of_readSpeed (h : p ∈ problemsOf (readSpeed s)) : p.namesLine = false := by
  unfold readSpeed readSpeedValue at h
  grind [problemsOf, Problem.namesLine]

/-- What is wrong with a statement names no line. -/
theorem namesLine_of_read (h : p ∈ problemsOf (Instruction.read s)) : p.namesLine = false := by
  unfold Instruction.read readGroup readSignal readCall readMovement at h
  grind [problemsOf, problemsOf_map, Problem.namesLine, namesLine_of_readMoves,
    namesLine_of_readSpeed]

end Statements

/-- No violation of a rule names a line. -/
theorem namesLine_of_mem_violations {i : Instruction} {p : Problem} (h : p ∈ i.violations) :
    p.namesLine = false := by
  have hviolation := isViolation_of_mem_violations h
  cases p <;> first | rfl | cases hviolation

theorem Program.namesLine_of_mem_callProblems {table : List Routine} {i : Instruction}
    {p : Problem} (h : p ∈ callProblems table i) : p.namesLine = false := by
  unfold callProblems at h
  grind [Problem.namesLine]

theorem Program.namesLine_of_mem_wholeProblems {p : Program} {q : Problem}
    (h : q ∈ p.wholeProblems) : q.namesLine = false := by
  unfold wholeProblems at h
  grind [Problem.namesLine]

/-! ## The scan of the tokens -/

section Scan

variable (f : Nat → Nat)

theorem Routine.find?_mapLine (table : List Routine) (name : String) :
    find? (table.map (mapLine f)) name = (find? table name).map (mapLine f) :=
  find?_map (f := mapLine f) (fun _ => rfl) table name

def Reading.mapLine : Reading → Reading
  | command c => command (c.mapLine f)
  | r => r

theorem problems_of_read {s : List Char} {ps : List Problem}
    (h : Instruction.read s = .error ps) : ps.map (Problem.mapLine f) = ps :=
  Problem.map_mapLine_eq_self fun p hp => namesLine_of_read (s := s) (by rw [h]; exact hp)

theorem Token.reading_mapLine (t : Token) : (t.mapLine f).reading = t.reading.mapLine f := by
  obtain ⟨lexeme, n⟩ := t
  cases lexeme with
  | openBrace => rfl
  | closeBrace => rfl
  | statement s =>
    simp only [reading, mapLine]
    cases headerName? s with
    | some name => rfl
    | none => cases Instruction.read s <;> rfl

theorem Token.fits_mapLine (t : Token) : (t.mapLine f).fits = t.fits := by
  unfold fits
  rw [reading_mapLine]
  cases t.reading <;> rfl

/-- What is wrong with a token names no line. -/
theorem Token.mapLine_refused {t : Token} {ps : List Problem} (h : t.reading = .refused ps) :
    ps.map (Problem.mapLine f) = ps := by
  obtain ⟨lexeme, n⟩ := t
  cases lexeme with
  | openBrace => cases h
  | closeBrace => cases h
  | statement s =>
    simp only [reading] at h
    cases hheader : headerName? s with
    | some name =>
      rw [hheader] at h
      cases h
    | none =>
      rw [hheader] at h
      cases hread : Instruction.read s with
      | ok i =>
        rw [hread] at h
        cases h
      | error qs =>
        rw [hread] at h
        cases h
        exact problems_of_read f hread

namespace ProgramScan

theorem mapLine_report (st : ProgramScan) (n : Nat) (ps : List Problem) :
    (st.report n ps).mapLine f = (st.mapLine f).report (f n) (ps.map (Problem.mapLine f)) := by
  simp only [report, mapLine, List.map_append, List.map_reverse, List.map_map]
  rfl

theorem mapLine_routineProblems (first? : Option Routine) (name : List Char)
    (commands : List Command) : (routineProblems first? name commands).map (Problem.mapLine f) =
      routineProblems (first?.map (Routine.mapLine f)) name
        (commands.map (Command.mapLine f)) := by
  unfold routineProblems
  rw [List.map_append, List.map_append, List.isEmpty_map]
  congr 1
  · congr 1 <;> split <;> rfl
  · cases first? <;> rfl

theorem mapLine_finishRoutine (st : ProgramScan) (name : List Char) (n : Nat)
    (commands : List Command) : (st.finishRoutine name n commands).mapLine f =
      (st.mapLine f).finishRoutine name (f n) (commands.map (Command.mapLine f)) := by
  have hfind : Routine.find? (st.mapLine f).routines (String.ofList name) =
      (Routine.find? st.routines (String.ofList name)).map (Routine.mapLine f) :=
    Routine.find?_mapLine f st.routines (String.ofList name)
  unfold finishRoutine
  rw [hfind]
  dsimp only
  rw [← mapLine_routineProblems]
  cases Routine.find? st.routines (String.ofList name) with
  | none => simp [mapLine, report, ScanContext.mapLine, Routine.mapLine, Diagnostic.mapLine,
      Diagnostic.onLine, Function.comp_def]
  | some first => simp [mapLine, report, ScanContext.mapLine, Diagnostic.mapLine,
      Diagnostic.onLine, Function.comp_def]

theorem mapLine_takeOutside (st : ProgramScan) (t : Token) :
    (st.takeOutside t.line t.reading).mapLine f =
      (st.mapLine f).takeOutside (f t.line) (t.reading.mapLine f) := by
  cases hr : t.reading with
  | openBrace | closeBrace => exact mapLine_report ..
  | header | command => rfl
  | refused ps =>
    simp only [takeOutside, Reading.mapLine]
    rw [mapLine_report, Token.mapLine_refused f hr]

theorem mapLine_takeInBody (st : ProgramScan) (name : List Char) (n depth : Nat)
    (commands : List Command) (t : Token) :
    (st.takeInBody name n depth commands t.line t.reading).mapLine f =
      (st.mapLine f).takeInBody name (f n) depth (commands.map (Command.mapLine f)) (f t.line)
        (t.reading.mapLine f) := by
  cases hr : t.reading with
  | openBrace | command => rfl
  | closeBrace =>
    simp only [takeInBody, Reading.mapLine]
    split
    · exact mapLine_finishRoutine ..
    · rfl
  | header => exact mapLine_report ..
  | refused ps =>
    simp only [takeInBody, Reading.mapLine]
    rw [mapLine_report, Token.mapLine_refused f hr]

/-- A token with another line does the same at another line. -/
theorem mapLine_readToken (st : ProgramScan) (t : Token) :
    (st.readToken t).mapLine f = (st.mapLine f).readToken (t.mapLine f) := by
  unfold readToken
  rw [Token.reading_mapLine]
  obtain ⟨context, commands, routines, diagnostics⟩ := st
  cases context with
  | outside => exact mapLine_takeOutside ..
  | header name n =>
    have houtside := mapLine_takeOutside f
      (dropHeader ⟨.header name n, commands, routines, diagnostics⟩ name n) t
    cases hr : t.reading with
    | openBrace => rfl
    | closeBrace | header | command | refused =>
      rw [hr] at houtside
      exact houtside
  | body name n depth body => exact mapLine_takeInBody ..

theorem mapLine_foldl (st : ProgramScan) (ts : List Token) : (ts.foldl readToken st).mapLine f =
    (ts.map (Token.mapLine f)).foldl readToken (st.mapLine f) := by
  induction ts generalizing st with
  | nil => rfl
  | cons t ts ih => rw [List.foldl_cons, ih, mapLine_readToken, List.map_cons, List.foldl_cons]

theorem mapLine_finish (st : ProgramScan) : st.finish.mapLine f = (st.mapLine f).finish := by
  obtain ⟨context, commands, routines, diagnostics⟩ := st
  cases context with
  | outside => rfl
  | header name n => rfl
  | body name n depth body => exact mapLine_finishRoutine ..

end ProgramScan

/-- The program of relabelled tokens is the relabelled program, and so are its diagnostics. -/
theorem Program.scanned_mapLine (ts : List Token) : Program.scanned (ts.map (Token.mapLine f)) =
    ((Program.scanned ts).1.mapLine f,
      (Program.scanned ts).2.map (Diagnostic.mapLine f)) := by
  have hscan : ((ts.map (Token.mapLine f)).foldl ProgramScan.readToken .start).finish =
      ((ts.foldl ProgramScan.readToken .start).finish).mapLine f := by
    rw [ProgramScan.mapLine_finish, ProgramScan.mapLine_foldl]
    rfl
  unfold Program.scanned
  rw [hscan]
  simp only [ProgramScan.result, ProgramScan.mapLine, Program.mapLine, List.map_reverse]

end Scan

/-! ## Programs and compilations -/

section Programs

variable (f : Nat → Nat)

namespace Program

theorem allCommands_mapLine (p : Program) :
    (p.mapLine f).allCommands = p.allCommands.map (Command.mapLine f) := by
  simp [allCommands, mapLine, Routine.mapLine, List.map_flatMap, List.flatMap_map]

theorem callProblems_mapLine (table : List Routine) (i : Instruction) :
    callProblems (table.map (Routine.mapLine f)) i = callProblems table i := by
  unfold callProblems
  cases i.callee? with
  | none => rfl
  | some name => simp [Routine.find?_mapLine]

theorem commandDiagnostics_mapLine (table : List Routine) (c : Command) :
    commandDiagnostics (table.map (Routine.mapLine f)) (c.mapLine f) =
      (commandDiagnostics table c).map (Diagnostic.mapLine f) := by
  have hnone : ∀ p ∈ c.instruction.violations ++ callProblems table c.instruction,
      p.namesLine = false := by
    intro p hp
    rcases List.mem_append.1 hp with hp | hp
    · exact namesLine_of_mem_violations hp
    · exact namesLine_of_mem_callProblems hp
  unfold commandDiagnostics
  rw [callProblems_mapLine, List.map_map]
  refine List.map_congr_left fun p hp => ?_
  show Diagnostic.onLine (f c.line) p = Diagnostic.onLine (f c.line) (p.mapLine f)
  rw [Problem.mapLine_eq_self (hnone p hp)]

theorem wholeProblems_mapLine (p : Program) : (p.mapLine f).wholeProblems = p.wholeProblems := by
  have hsync : (p.mapLine f).syncPoints = p.syncPoints := by
    rw [syncPoints, allCommands_mapLine, List.countP_map]
    rfl
  rw [wholeProblems, hsync, mapLine, List.isEmpty_map]
  rfl

theorem diagnostics_mapLine (p : Program) :
    (p.mapLine f).diagnostics = p.diagnostics.map (Diagnostic.mapLine f) := by
  unfold diagnostics
  rw [allCommands_mapLine, wholeProblems_mapLine, List.map_append, List.map_flatMap,
    List.flatMap_map, List.map_map]
  congr 1
  · exact congrArg (List.flatMap · _) (funext (commandDiagnostics_mapLine f p.routines))
  · refine List.map_congr_left fun q hq => ?_
    show Diagnostic.ofScript q = Diagnostic.ofScript (q.mapLine f)
    rw [Problem.mapLine_eq_self (namesLine_of_mem_wholeProblems hq)]

theorem bodyDuration_mapLine (table : List Routine) (depth : Nat) :
    bodyDuration (table.map (Routine.mapLine f)) depth = bodyDuration table depth := by
  induction depth with
  | zero => rfl
  | succ depth ih =>
    funext name
    rw [bodyDuration, bodyDuration, ih, Routine.find?_mapLine]
    cases Routine.find? table name with
    | none => rfl
    | some r => exact total_map _ _ r.commands

theorem resolve_mapLine (depth : Nat) (p : Program) :
    (p.mapLine f).resolve depth = (p.resolve depth).mapLine f := by
  rw [resolve_eq, resolve_eq, mapLine, bodyDuration_mapLine]
  simp only [mapLine, List.map_map]
  congr 1
  refine List.map_congr_left fun r _ => ?_
  simp only [Function.comp_apply, Routine.resolve, Routine.mapLine, List.map_map]
  rfl

end Program

/-- A compilation of relabelled tokens is the relabelled compilation. -/
theorem compileTokens_mapLine (callDepth : Nat) (ts : List Token) (lexical : List Diagnostic) :
    compileTokens callDepth (ts.map (Token.mapLine f)) (lexical.map (Diagnostic.mapLine f)) =
      (compileTokens callDepth ts lexical).mapLine f := by
  rw [compileTokens_eq, compileTokens_eq, Program.scanned_mapLine, Program.resolve_mapLine,
    Program.diagnostics_mapLine]
  simp only [Compilation.mapLine, List.map_append]

namespace Compilation

@[simp] theorem totalDuration_mapLine (c : Compilation) :
    (c.mapLine f).totalDuration = c.totalDuration :=
  total_map _ _ c.program.commands

@[simp] theorem isOk_mapLine (c : Compilation) : (c.mapLine f).isOk = c.isOk := by
  have herror : Diagnostic.isError ∘ Diagnostic.mapLine f = Diagnostic.isError := by
    funext d
    simp [Diagnostic.isError, Diagnostic.mapLine]
  rw [isOk, mapLine, List.any_map, herror]
  rfl

end Compilation

theorem estimatesFit_mapLine (ts : List Token) (c : Compilation) :
    estimatesFit (ts.map (Token.mapLine f)) (c.mapLine f) = estimatesFit ts c := by
  have hroutines : (c.mapLine f).program.routines.all (·.duration ≤ word64Max) =
      c.program.routines.all (·.duration ≤ word64Max) := List.all_map ..
  have htokens : (ts.map (Token.mapLine f)).all Token.fits = ts.all Token.fits := by
    rw [List.all_map]
    exact congrArg ts.all (funext (Token.fits_mapLine f))
  rw [estimatesFit, estimatesFit, htokens, Compilation.fits, Compilation.fits, hroutines,
    Compilation.totalDuration_mapLine]

end Programs

/-! ## Sources with the same lexemes -/

theorem Compilation.SameProgram.of_mapLine_eq {c c' : Compilation}
    (h : c'.mapLine (fun _ => 0) = c.mapLine fun _ => 0) : c.SameProgram c' where
  commands := congrArg (·.program.commands) h
  routines := congrArg (·.program.routines) h
  diagnostics := congrArg (·.diagnostics) h
  totalDuration := by
    rw [← c'.totalDuration_mapLine, h, c.totalDuration_mapLine]
  isOk := by
    rw [← c'.isOk_mapLine, h, c.isOk_mapLine]

theorem mapLine_eq_of_lexemes_eq {ts ts' : List Token}
    (h : ts.map (·.lexeme) = ts'.map (·.lexeme)) :
    ts.map (Token.mapLine fun _ => 0) = ts'.map (Token.mapLine fun _ => 0) := by
  have hmap : ∀ us : List Token,
      us.map (Token.mapLine fun _ => 0) = (us.map (·.lexeme)).map (⟨·, 0⟩) := by
    intro us
    rw [List.map_map]
    rfl
  rw [hmap, hmap, h]

section Tokens

variable {ts ts' : List Token}

theorem compileTokens_of_lexemes_eq (callDepth : Nat)
    (h : ts'.map (·.lexeme) = ts.map (·.lexeme)) :
    (compileTokens callDepth ts' []).mapLine (fun _ => 0) =
      (compileTokens callDepth ts []).mapLine fun _ => 0 := by
  rw [← compileTokens_mapLine, mapLine_eq_of_lexemes_eq h, compileTokens_mapLine]

theorem estimatesFit_of_lexemes_eq (callDepth : Nat)
    (h : ts'.map (·.lexeme) = ts.map (·.lexeme)) :
    estimatesFit ts' (compileTokens callDepth ts' []) =
      estimatesFit ts (compileTokens callDepth ts []) := by
  rw [← estimatesFit_mapLine (fun _ => 0), mapLine_eq_of_lexemes_eq h,
    compileTokens_of_lexemes_eq callDepth h, estimatesFit_mapLine]

end Tokens

/-- **Sources with the same lexemes compile to the same program**, or are refused for the same
reason, if no line has a parenthesis out of balance. -/
theorem compile_of_lexemes_eq (callDepth : Nat) {source source' : String}
    (hsize : source.utf8ByteSize ≤ sourceLimit) (hsize' : source'.utf8ByteSize ≤ sourceLimit)
    (hlexical : (tokenize source.toList).2 = []) (hlexical' : (tokenize source'.toList).2 = [])
    (h : (tokenize source'.toList).1.map (·.lexeme) = (tokenize source.toList).1.map (·.lexeme)) :
    (∀ c, compile callDepth source = .ok c →
      ∃ c', compile callDepth source' = .ok c' ∧ c.SameProgram c') ∧
    ∀ e, compile callDepth source = .error e → compile callDepth source' = .error e := by
  have hsame := compileTokens_of_lexemes_eq callDepth h
  rw [compile_of_size_le callDepth hsize, compile_of_size_le callDepth hsize', hlexical,
    hlexical', estimatesFit_of_lexemes_eq callDepth h]
  split
  · refine ⟨fun c hok => ?_, fun e he => ?_⟩
    · cases hok
      exact ⟨_, rfl, .of_mapLine_eq hsame⟩
    · cases he
  · refine ⟨fun c hok => ?_, fun e he => he⟩
    cases hok

end MotionScript
