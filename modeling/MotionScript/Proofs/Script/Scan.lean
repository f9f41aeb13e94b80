import MotionScript.Script.Compilation

/-!
# Scans that come to their end

A scan of tokens breaks off at a statement whose estimate does not fit its word, and the source is
refused then. A scan that comes to its end is a plain fold, in which estimates may be of any size.

* `Token.reading`, `Token.fits`: what a token is read as, and whether its estimate fits.
* `ProgramScan.foldlM_push`: a scan is the fold over the readings unless a token does not fit.
* `Program.scanned`, `compileTokens`: the program and the compilation of the readings.
* `Program.ofTokens_eq`, `compile_eq_ok`: they are those of a source that is not refused.
-/

namespace MotionScript

namespace Token

/-- What a token is where commands are expected, with an estimate of any size. -/
def reading (t : Token) : Reading :=
  match t.lexeme with
  | .openBrace => .openBrace
  | .closeBrace => .closeBrace
  | .statement s =>
    match headerName? s with
    | some name => .header name
    | none =>
      match Instruction.read s with
      | .ok i => .command ⟨i, String.ofList s, t.line, i.estimate, []⟩
      | .error ps => .refused ps

/-- Whether the estimate for a token fits its word. -/
def fits (t : Token) : Bool :=
  match t.reading with
  | .command c => c.duration ≤ word64Max
  | _ => true

theorem read_eq (t : Token) : t.read = if t.fits then .ok t.reading else .error .addition := by
  obtain ⟨lexeme, line⟩ := t
  cases lexeme with
  | openBrace => rfl
  | closeBrace => rfl
  | statement s =>
    cases hheader : headerName? s with
    | some name =>
      simp only [read, fits, reading, hheader]
      rfl
    | none =>
      cases hread : Instruction.read s with
      | error ps =>
        simp only [read, fits, reading, hheader, hread, Command.ofStatement_of_error hread]
        rfl
      | ok i =>
        simp only [read, fits, reading, hheader, hread, Command.ofStatement_of_read hread,
          decide_eq_true_eq]
        split <;> rfl

end Token

namespace ProgramScan

/-- Take what a token is read as. -/
def readToken (st : ProgramScan) (t : Token) : ProgramScan := st.take t.line t.reading

theorem push_eq (st : ProgramScan) (t : Token) :
    st.push t = if t.fits then .ok (st.readToken t) else .error .addition := by
  rw [push, t.read_eq]
  split <;> rfl

theorem foldlM_push (ts : List Token) (st : ProgramScan) : ts.foldlM push st =
    if ts.all Token.fits then .ok (ts.foldl readToken st) else .error .addition := by
  induction ts generalizing st with
  | nil => rfl
  | cons t ts ih =>
    rw [List.foldlM_cons, push_eq, List.all_cons, List.foldl_cons]
    cases t.fits with
    | true => exact ih (st.readToken t)
    | false => rfl

end ProgramScan

/-- The program of the readings of a token list and the problems found. -/
def Program.scanned (ts : List Token) : Program × List Diagnostic :=
  (ts.foldl ProgramScan.readToken .start).finish.result

theorem Program.ofTokens_eq (ts : List Token) : ofTokens ts =
    if ts.all Token.fits then .ok (scanned ts) else .error .addition := by
  rw [ofTokens, ProgramScan.foldlM_push]
  split <;> rfl

/-- The compilation of the readings of a token list, with the problems found before. -/
def compileTokens (callDepth : Nat) (ts : List Token) (lexical : List Diagnostic) : Compilation :=
  (Program.scanned ts).1.compiled callDepth (lexical ++ (Program.scanned ts).2)

/-- Whether all estimates fit their words: those for the tokens and those that follow calls. -/
def estimatesFit (ts : List Token) (c : Compilation) : Bool := ts.all Token.fits && c.fits

theorem compileTokens_eq (callDepth : Nat) (ts : List Token) (lexical : List Diagnostic) :
    compileTokens callDepth ts lexical =
      ⟨(Program.scanned ts).1.resolve callDepth,
        lexical ++ (Program.scanned ts).2 ++ (Program.scanned ts).1.diagnostics, callDepth⟩ :=
  rfl

section Compile

variable {callDepth : Nat} {source : String}

theorem compile_of_size_le (callDepth : Nat) (h : source.utf8ByteSize ≤ sourceLimit) :
    compile callDepth source =
      if estimatesFit (tokenize source.toList).1
          (compileTokens callDepth (tokenize source.toList).1 (tokenize source.toList).2) then
        .ok (compileTokens callDepth (tokenize source.toList).1 (tokenize source.toList).2)
      else .error (.overflow .addition) := by
  unfold compile estimatesFit
  rw [if_neg (Nat.not_lt.2 h)]
  dsimp only
  rw [Program.ofTokens_eq]
  cases (tokenize source.toList).1.all Token.fits with
  | true =>
    rw [Bool.true_and]
    rfl
  | false => rfl

/-- A source is compiled to what its tokens are, unless it is too long or an estimate does not
fit. -/
theorem compile_eq_ok {c : Compilation} : compile callDepth source = .ok c ↔
    source.utf8ByteSize ≤ sourceLimit ∧
      c = compileTokens callDepth (tokenize source.toList).1 (tokenize source.toList).2 ∧
      estimatesFit (tokenize source.toList).1 c = true := by
  by_cases hsize : source.utf8ByteSize ≤ sourceLimit
  · rw [compile_of_size_le callDepth hsize]
    split <;> grind
  · simp only [compile, if_pos (Nat.lt_of_not_le hsize), reduceCtorEq, hsize, false_and]

end Compile

end MotionScript
