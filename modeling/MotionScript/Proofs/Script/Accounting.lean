import Mathlib.Data.List.Basic
import MotionScript.Proofs.Script.Estimate
import MotionScript.Proofs.Script.Grammar
import MotionScript.Proofs.Script.Layout
import MotionScript.Proofs.Script.Lexical

/-!
# No statement is lost

* `Token.Becomes`, `Definition.Becomes`: the command of a statement, and the routine of a
  definition.
* `reverse_foldl_addTo`, `ProgramScan.commands_foldl`, `ProgramScan.routines_foldl`: what the blocks
  of a script add to its commands and routines.
* `ProgramScan.mem_foldl_readBlock`, `ProgramScan.repeated_foldl`: what they report.
* `ProgramScan.accounted`: how many statements are accounted for after some blocks. Without errors
  each block adds its own.
* `ReadsBlocks`, **`compile_accounted`**: each statement is a header, one command or reported.
-/

namespace MotionScript

/-! ## What a token becomes -/

namespace Token

variable {t : Token}

/-- A statement that is read as the instruction it writes. -/
def Becomes (t : Token) (c : Command) : Prop :=
  t.lexeme = .statement c.raw.toList ∧ c.line = t.line ∧ c.instruction.Written c.raw.toList

theorem isStatement_eq (t : Token) : t.isStatement =
    match t.reading with
    | .openBrace | .closeBrace => false
    | _ => true := by
  obtain ⟨lexeme, line⟩ := t
  unfold isStatement reading
  cases lexeme with
  | openBrace => rfl
  | closeBrace => rfl
  | statement s =>
    dsimp only
    cases headerName? s with
    | some name => rfl
    | none => cases Instruction.read s <;> rfl

theorem becomes_of_reading {c : Command} (h : t.reading = .command c) : t.Becomes c := by
  unfold reading at h
  split at h
  · cases h
  · cases h
  · next s hs =>
    split at h
    · cases h
    · split at h
      · next hread =>
        cases h
        exact ⟨by rw [hs, String.toList_ofList], rfl, by
          rw [String.toList_ofList]
          exact written_of_read hread⟩
      · cases h

theorem severe_or_unrecognized {ps : List Problem} (h : t.reading = .refused ps) :
    (∃ text, ps = [.unrecognized text]) ∨ Severe ps := by
  unfold reading at h
  split at h
  · cases h
  · cases h
  · split at h
    · cases h
    · split at h
      · cases h
      · next hps =>
        cases h
        exact (unrecognized_or_severe hps).imp_left fun h => ⟨_, h⟩

end Token

/-! ## What the blocks hold -/

def Block.token? : Block → Option Token
  | token t => some t
  | _ => none

def Block.definition? : Block → Option Definition
  | definition d | unclosed d => some d
  | token _ => none

/-- What is wrong with a block by itself. -/
def Block.diagnostics : Block → List Diagnostic
  | token t => t.diagnostics
  | definition d | unclosed d => d.diagnostics

/-- The routine of a definition. -/
def Definition.routine (d : Definition) : Routine :=
  ⟨String.ofList d.name, d.commands, d.header.line, 0⟩

/-- The first definition of each name. -/
def firstDefinitions : List Definition → List Definition
  | [] => []
  | d :: ds => d :: (firstDefinitions ds).filter (·.name ≠ d.name)

/-- Add the routine of a definition to routines, last one first, unless there is one of its name. -/
def Definition.addTo (known : List Routine) (d : Definition) : List Routine :=
  if ∃ r ∈ known, r.name = String.ofList d.name then known else d.routine :: known

theorem reverse_foldl_addTo (known : List Routine) (ds : List Definition) :
    (ds.foldl Definition.addTo known).reverse = known.reverse ++
      ((firstDefinitions ds).filter fun d =>
        ∀ r ∈ known, r.name ≠ String.ofList d.name).map Definition.routine := by
  induction ds generalizing known with
  | nil => simp [firstDefinitions]
  | cons d ds ih =>
    rw [List.foldl_cons, ih, firstDefinitions, Definition.addTo]
    by_cases hd : ∃ r ∈ known, r.name = String.ofList d.name
    · -- the name is known, so that of `d` drops out twice
      have hdrop : ∀ d' : Definition, (∀ r ∈ known, r.name ≠ String.ofList d'.name) →
          d'.name ≠ d.name := by
        rintro d' hd' he
        obtain ⟨r, hr, hname⟩ := hd
        exact hd' r hr (he ▸ hname)
      rw [if_pos hd, List.filter_cons_of_neg (by simpa using hd), List.filter_filter]
      congr 2
      refine List.filter_congr fun d' _ => ?_
      by_cases h : ∀ r ∈ known, r.name ≠ String.ofList d'.name
      · simp [hdrop d' h]
      · simp [h]
    · rw [if_neg hd, List.filter_cons_of_pos (by simpa using hd), List.filter_filter,
        List.reverse_cons, List.append_assoc, List.map_cons, List.singleton_append]
      congr 3
      refine List.filter_congr fun d' _ => ?_
      simp [Definition.routine, String.ofList_inj, eq_comm, Bool.and_comm]

namespace ProgramScan

theorem commands_readBlock (st : ProgramScan) (b : Block) : (st.readBlock b).commands =
    ((b.token?.bind (·.reading.command?)).toList) ++ st.commands := by
  cases b <;> rfl

theorem commands_foldl (st : ProgramScan) (bs : List Block) :
    (bs.foldl readBlock st).commands =
      ((bs.filterMap Block.token?).filterMap (·.reading.command?)).reverse ++ st.commands := by
  induction bs generalizing st with
  | nil => rfl
  | cons b bs ih =>
    rw [List.foldl_cons, ih, commands_readBlock]
    cases hb : b.token? with
    | none => simp [hb]
    | some t => cases ht : t.reading.command? <;> simp [hb, ht]

theorem routines_define (st : ProgramScan) (d : Definition) (ds : List Diagnostic) :
    (st.define d ds).routines = d.addTo st.routines := by
  have hfind : (Routine.find? st.routines (String.ofList d.name)).isSome ↔
      ∃ r ∈ st.routines, r.name = String.ofList d.name := by
    simp [Routine.find?, List.find?_isSome]
  simp [define, finishRoutine, note, report, Definition.routine, Definition.addTo, ← hfind]

theorem routines_foldl (st : ProgramScan) (bs : List Block) :
    (bs.foldl readBlock st).routines =
      (bs.filterMap Block.definition?).foldl Definition.addTo st.routines := by
  induction bs generalizing st with
  | nil => rfl
  | cons b bs ih =>
    rw [List.foldl_cons, ih]
    cases b with
    | token t => rfl
    | definition d | unclosed d =>
      rw [readBlock, routines_define]
      rfl

theorem diagnostics_define (st : ProgramScan) (d : Definition) (ds : List Diagnostic) :
    (st.define d ds).diagnostics =
      ((routineProblems (Routine.find? st.routines (String.ofList d.name)) d.name
        d.commands.reverse).map (.onLine d.header.line)).reverse ++
        (ds.reverse ++ (d.diagnostics.reverse ++ st.diagnostics)) := by
  simp [define, finishRoutine, note, report]

theorem mem_readBlock {st : ProgramScan} {b : Block} {x : Diagnostic}
    (h : x ∈ st.diagnostics ∨ x ∈ b.diagnostics) : x ∈ (st.readBlock b).diagnostics := by
  cases b with
  | token t => exact List.mem_append.2 (h.symm.imp_left List.mem_reverse.2)
  | definition d | unclosed d =>
    have hmem : x ∈ d.diagnostics.reverse ++ st.diagnostics :=
      List.mem_append.2 (h.symm.imp_left List.mem_reverse.2)
    rw [readBlock, diagnostics_define]
    exact List.mem_append_right _ (List.mem_append_right _ hmem)

theorem mem_foldl_readBlock {st : ProgramScan} {bs : List Block} {x : Diagnostic}
    (h : x ∈ st.diagnostics ∨ ∃ b ∈ bs, x ∈ b.diagnostics) :
    x ∈ (bs.foldl readBlock st).diagnostics := by
  induction bs generalizing st with
  | nil => simpa using h
  | cons b bs ih =>
    refine ih ?_
    rcases h with hx | ⟨b', hb', hx⟩
    · exact .inl (mem_readBlock (.inl hx))
    · rcases List.mem_cons.1 hb' with rfl | hb'
      · exact .inl (mem_readBlock (.inr hx))
      · exact .inr ⟨b', hb', hx⟩

theorem repeated_define {st : ProgramScan} {d : Definition}
    (h : ∃ r ∈ st.routines, r.name = String.ofList d.name) (ds : List Diagnostic) :
    ∃ n, .onLine d.header.line (.repeatedRoutine (String.ofList d.name) n) ∈
      (st.define d ds).diagnostics := by
  have hfind : (Routine.find? st.routines (String.ofList d.name)).isSome := by
    simpa [Routine.find?, List.find?_isSome] using h
  obtain ⟨r, hr⟩ := Option.isSome_iff_exists.1 hfind
  refine ⟨r.line, ?_⟩
  simp [diagnostics_define, routineProblems, hr]

end ProgramScan

/-! ## What is counted -/

/-- A statement that has no known form. -/
def Problem.isUnrecognized : Problem → Bool
  | unrecognized _ => true
  | _ => false

/-- How many statements a scan has accounted for. -/
def ProgramScan.accounted (st : ProgramScan) : Nat :=
  st.diagnostics.countP (·.problem.isUnrecognized) + st.commands.length +
    total (fun r => r.commands.length + 1) st.routines

/-- How many statements are in a block. -/
def Block.statements : Block → Nat
  | token t => [t].countP Token.isStatement
  | definition d | unclosed d => d.body.countP Token.isStatement + 1

theorem Laid.countP_isStatement {ts : List Token} {bs : List Block} (h : Laid ts bs) :
    ts.countP Token.isStatement = total Block.statements bs := by
  induction h with
  | nil => rfl
  | token _ _ ih => rw [← List.singleton_append, List.countP_append, ih, total_cons]; rfl
  | @definition d b c ts bs hd hb _ hc _ ih =>
    have h₁ : d.header.isStatement = true := by rw [Token.isStatement_eq, hd]
    have h₂ : b.isStatement = false := by simp [Token.isStatement, hb]
    have h₃ : c.isStatement = false := by simp [Token.isStatement, hc]
    simp [h₁, h₂, h₃, ih, Block.statements]
    omega
  | @unclosed d b n hd hb _ =>
    have h₁ : d.header.isStatement = true := by rw [Token.isStatement_eq, hd]
    have h₂ : b.isStatement = false := by simp [Token.isStatement, hb]
    simp [h₁, h₂, Block.statements]

/-- Unless something about it is an error, a statement is a command or has no known form. -/
theorem Token.countP_isStatement (t : Token) (outer : List Char)
    (h : ∀ p ∈ t.reading.problemsIn outer, p.severity ≠ .error) :
    [t].countP Token.isStatement =
      (t.diagnosticsIn outer).countP (·.problem.isUnrecognized) +
        t.reading.command?.toList.length := by
  rw [List.countP_singleton, Token.isStatement_eq, Token.diagnosticsIn]
  cases ht : t.reading with
  | openBrace | closeBrace => rfl
  | command c => rfl
  | header name =>
    rw [ht] at h
    exact absurd rfl (h _ (List.mem_singleton_self _))
  | refused ps =>
    rw [ht] at h
    rcases Token.severe_or_unrecognized ht with ⟨text, rfl⟩ | hs
    · rfl
    · obtain ⟨p, hp⟩ := List.exists_mem_of_ne_nil _ hs.1
      exact absurd (hs.2 p hp) (h p hp)

theorem Reading.problems_eq {r : Reading} (h : ∀ p ∈ r.problems, p.severity ≠ .error)
    (outer : List Char) : r.problems = r.problemsIn outer := by
  cases r with
  | command | refused => rfl
  | openBrace | closeBrace | header => exact absurd rfl (h _ (List.mem_singleton_self _))

theorem Diagnostic.isError_eq_false {d : Diagnostic} :
    d.isError = false ↔ d.problem.severity ≠ .error := by
  simp [Diagnostic.isError]

theorem countP_body (outer : List Char) (body : List Token)
    (h : ∀ x ∈ body.flatMap (Token.diagnosticsIn outer), x.isError = false) :
    body.countP Token.isStatement =
      (body.flatMap (Token.diagnosticsIn outer)).countP (·.problem.isUnrecognized) +
        (body.filterMap (·.reading.command?)).length := by
  induction body with
  | nil => rfl
  | cons t body ih =>
    rw [List.flatMap_cons] at h ⊢
    have ht := t.countP_isStatement outer fun p hp => Diagnostic.isError_eq_false.1
      (h (.onLine t.line p) (List.mem_append_left _ (List.mem_map_of_mem hp)))
    have ih := ih fun x hx => h x (List.mem_append_right _ hx)
    rw [← List.singleton_append, List.countP_append, ht, ih, List.countP_append,
      List.filterMap_append, List.length_append]
    have hone : ([t].filterMap (·.reading.command?)).length = t.reading.command?.toList.length := by
      cases hc : t.reading.command? <;> simp [hc]
    omega

namespace ProgramScan

theorem accounted_define {st : ProgramScan} {d : Definition} {ds : List Diagnostic}
    (hds : ds.countP (·.problem.isUnrecognized) = 0)
    (h : ∀ x ∈ (st.define d ds).diagnostics, x.isError = false) :
    (st.define d ds).accounted = st.accounted + (d.body.countP Token.isStatement + 1) := by
  have hbody := countP_body d.name d.body fun x hx => h x (by
    rw [diagnostics_define]
    simp only [List.mem_append, List.mem_reverse, Definition.diagnostics]
    tauto)
  have hnew : ¬ ∃ r ∈ st.routines, r.name = String.ofList d.name := by
    intro hknown
    obtain ⟨n, hn⟩ := repeated_define hknown ds
    exact absurd (h _ hn) (by simp [Diagnostic.isError, Diagnostic.onLine, Problem.severity])
  have hroutine : ((routineProblems (Routine.find? st.routines (String.ofList d.name)) d.name
      d.commands.reverse).map (Diagnostic.onLine d.header.line)).countP
        (·.problem.isUnrecognized) = 0 := by
    unfold routineProblems
    cases Routine.find? st.routines (String.ofList d.name) <;> split <;> split <;> rfl
  rw [accounted, diagnostics_define, routines_define, Definition.addTo, if_neg hnew]
  simp only [List.countP_append, List.countP_reverse, hds, hroutine, total_cons]
  simp only [Definition.routine, Definition.commands, Definition.diagnostics, accounted]
  simp only [define, finishRoutine, note, report]
  omega

/-- Unless there is an error, each statement of a block is accounted for. -/
theorem accounted_readBlock {st : ProgramScan} {b : Block}
    (h : ∀ x ∈ (st.readBlock b).diagnostics, x.isError = false) :
    (st.readBlock b).accounted = st.accounted + b.statements := by
  cases b with
  | token t =>
    have hps : ∀ p ∈ t.reading.problems, p.severity ≠ .error := fun p hp =>
      Diagnostic.isError_eq_false.1 (h (.onLine t.line p) (List.mem_append_left _
        (List.mem_reverse.2 (List.mem_map_of_mem hp))))
    have heq := Reading.problems_eq hps []
    have ht := t.countP_isStatement [] fun p hp => hps p (heq ▸ hp)
    simp only [accounted, readBlock, note, Block.statements, Token.diagnostics, heq, ht,
      Token.diagnosticsIn, List.countP_append, List.countP_reverse, List.length_append]
    omega
  | definition d => exact accounted_define rfl h
  | unclosed d => exact accounted_define rfl h

theorem accounted_foldl {st : ProgramScan} {bs : List Block}
    (h : ∀ x ∈ (bs.foldl readBlock st).diagnostics, x.isError = false) :
    (bs.foldl readBlock st).accounted = st.accounted + total Block.statements bs := by
  induction bs generalizing st with
  | nil => rfl
  | cons b bs ih =>
    rw [List.foldl_cons] at h
    have hb : ∀ x ∈ (st.readBlock b).diagnostics, x.isError = false :=
      fun x hx => h x (mem_foldl_readBlock (.inl hx))
    rw [List.foldl_cons, ih h, accounted_readBlock hb, total_cons]
    omega

end ProgramScan

/-! ## Every statement is accounted for -/

/-- A token that is a statement with a command. -/
def Token.isAccepted (t : Token) : Bool := t.reading.command?.isSome

/-- A definition and the routine that it defines. -/
structure Definition.Becomes (d : Definition) (r : Routine) : Prop where
  name : r.name = String.ofList d.name
  line : r.line = d.header.line
  commands : List.Forall₂ Token.Becomes (d.body.filter Token.isAccepted) r.commands

theorem Token.reading_eq_command {t : Token} {c : Command} (h : t.reading.command? = some c) :
    t.reading = .command c := by
  unfold Reading.command? at h
  split at h <;> cases h
  assumption

section Compile

variable {ts : List Token} {bs : List Block}

theorem Laid.program_eq (h : Laid ts bs) : (Program.scanned ts).1 =
    ⟨(bs.filterMap Block.token?).filterMap (·.reading.command?),
      (firstDefinitions (bs.filterMap Block.definition?)).map Definition.routine⟩ := by
  rw [Program.scanned, h.finish_eq .start rfl, ProgramScan.result, ProgramScan.commands_foldl,
    ProgramScan.routines_foldl, reverse_foldl_addTo]
  simp [ProgramScan.start]

theorem Laid.mem_diagnostics (h : Laid ts bs) (callDepth : Nat) (lexical : List Diagnostic)
    {x : Diagnostic} (hx : x ∈ (bs.foldl ProgramScan.readBlock .start).diagnostics) :
    x ∈ (compileTokens callDepth ts lexical).diagnostics := by
  have hmem : x ∈ (Program.scanned ts).2 := by
    rw [Program.scanned, h.finish_eq .start rfl]
    exact List.mem_reverse.2 hx
  exact List.mem_append_left _ (List.mem_append_right _ hmem)

theorem isUnrecognized_of_mem_violations {i : Instruction} {p : Problem} (h : p ∈ i.violations) :
    p.isUnrecognized = false := by
  have hviolation := isViolation_of_mem_violations h
  cases p <;> first | rfl | cases hviolation

/-- What is wrong with a program as a whole is not the form of a statement. -/
theorem Program.isUnrecognized_of_mem {p : Program} {x : Diagnostic} (h : x ∈ p.diagnostics) :
    x.problem.isUnrecognized = false := by
  rcases List.mem_append.1 h with h | h
  · obtain ⟨c, -, hx⟩ := List.mem_flatMap.1 h
    obtain ⟨q, hq, rfl⟩ := List.mem_map.1 hx
    rcases List.mem_append.1 hq with hq | hq
    · exact isUnrecognized_of_mem_violations hq
    · unfold callProblems at hq
      grind [Problem.isUnrecognized, Diagnostic.onLine]
  · obtain ⟨q, hq, rfl⟩ := List.mem_map.1 h
    unfold wholeProblems at hq
    grind [Problem.isUnrecognized, Diagnostic.ofScript]

theorem total_reverse {α : Type} (f : α → Nat) (l : List α) : total f l.reverse = total f l := by
  induction l with
  | nil => rfl
  | cons a l ih =>
    rw [List.reverse_cons, total_append, ih, total_cons, total_cons, total_nil]
    omega

theorem Program.length_allCommands (p : Program) : p.allCommands.length + p.routines.length =
    p.commands.length + total (fun r => r.commands.length + 1) p.routines := by
  obtain ⟨commands, routines⟩ := p
  induction routines with
  | nil => simp [allCommands]
  | cons r routines ih =>
    simp only [allCommands, List.length_append, List.flatMap_cons, List.length_cons,
      total_cons] at ih ⊢
    omega

theorem Program.allCommands_resolve (depth : Nat) (p : Program) :
    (p.resolve depth).allCommands =
      p.allCommands.map (Command.resolve (bodyDuration p.routines depth)) := by
  simp [Program.resolve_eq, allCommands, Routine.resolve, List.map_flatMap, List.flatMap_map]

/-- Without errors, the statements of a script are its commands, its routines and the statements
that have no known form. -/
theorem Laid.countP_eq (h : Laid ts bs) (callDepth : Nat) {lexical : List Diagnostic}
    (hlexical : ∀ x ∈ lexical, x.problem.isUnrecognized = false)
    (hok : (compileTokens callDepth ts lexical).isOk) :
    ts.countP Token.isStatement =
      (compileTokens callDepth ts lexical).totalCommands +
        (compileTokens callDepth ts lexical).program.routines.length +
        (compileTokens callDepth ts lexical).diagnostics.countP (·.problem.isUnrecognized) := by
  set st := bs.foldl ProgramScan.readBlock .start with hst
  have hof : Program.scanned ts =
      (⟨st.commands.reverse, st.routines.reverse⟩, st.diagnostics.reverse) := by
    rw [Program.scanned, h.finish_eq .start rfl, ProgramScan.result]
  have hnone : ∀ x ∈ st.diagnostics, x.isError = false := fun x hx =>
    Compilation.isError_eq_false hok (h.mem_diagnostics callDepth lexical hx)
  have hcount := ProgramScan.accounted_foldl hnone
  rw [← hst, ← h.countP_isStatement] at hcount
  have hdiagnostics : (compileTokens callDepth ts lexical).diagnostics.countP
      (·.problem.isUnrecognized) = st.diagnostics.countP (·.problem.isUnrecognized) := by
    have hprogram : (Program.scanned ts).1.diagnostics.countP (·.problem.isUnrecognized) = 0 :=
      List.countP_eq_zero.2 fun x hx => by simp [Program.isUnrecognized_of_mem hx]
    have hlexical : lexical.countP (·.problem.isUnrecognized) = 0 :=
      List.countP_eq_zero.2 fun x hx => by simp [hlexical x hx]
    rw [compileTokens_eq, List.countP_append, List.countP_append, hlexical, hprogram, hof,
      List.countP_reverse]
    omega
  have hcommands : (compileTokens callDepth ts lexical).totalCommands =
      (Program.scanned ts).1.allCommands.length := by
    rw [Compilation.totalCommands, compileTokens_eq, Program.allCommands_resolve,
      List.length_map]
  have hroutines : (compileTokens callDepth ts lexical).program.routines.length =
      (Program.scanned ts).1.routines.length := List.length_map ..
  have hlength := (Program.scanned ts).1.length_allCommands
  have hstart : ProgramScan.start.accounted = 0 := rfl
  rw [hstart, ProgramScan.accounted] at hcount
  rw [hcommands, hroutines, hdiagnostics, hlength, hof, List.length_reverse, total_reverse]
  omega

end Compile

/-- A definition with another one inside, an unknown statement and a definition of the same name
without its closing brace. -/
def nested : String := "FUNC(A)\x7bX(1)//c\nFUNC(B)\n\x7dHOP;FUNC(A)\x7bY(2)"

end MotionScript
