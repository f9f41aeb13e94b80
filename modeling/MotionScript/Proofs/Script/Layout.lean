import Mathlib.Data.List.Basic
import MotionScript.Proofs.Script.Scan

/-!
# The layout of a script

The tokens of a script are a sequence of blocks: definitions of routines and single tokens.

* `Block`, `Laid`: the blocks, and how they follow one another. A definition is a header, an opening
  brace, a body with its inner braces matched and a closing brace, which only the last definition
  may lack. A header without an opening brace behind it is a single token.
* `exists_laid`: every list of tokens is laid out in blocks.
* `Laid.finish_eq`: the scan of the tokens reads one block after the other.
-/

namespace MotionScript

namespace Reading

def command? : Reading → Option Command
  | command c => some c
  | _ => none

/-- What is wrong with a token outside routines. -/
def problems : Reading → List Problem
  | openBrace => [.strayOpenBrace]
  | closeBrace => [.strayCloseBrace]
  | header name => [.missingOpenBrace (String.ofList name)]
  | command _ => []
  | refused ps => ps

/-- What is wrong with a token in the body of a routine. -/
def problemsIn (outer : List Char) : Reading → List Problem
  | header name => [.nestedRoutine (String.ofList name) (String.ofList outer)]
  | refused ps => ps
  | _ => []

end Reading

namespace Token

def isStatement (t : Token) : Bool :=
  match t.lexeme with
  | .statement _ => true
  | _ => false

/-- The number of open braces after a token, unless it closes one too many. -/
def braces? (n : Nat) (t : Token) : Option Nat :=
  match t.lexeme, n with
  | .openBrace, n => some (n + 1)
  | .closeBrace, 0 => none
  | .closeBrace, n + 1 => some n
  | .statement _, n => some n

theorem reading_eq_openBrace {t : Token} : t.reading = .openBrace ↔ t.lexeme = .openBrace := by
  obtain ⟨lexeme, line⟩ := t
  cases lexeme with
  | openBrace | closeBrace => simp [reading]
  | statement s =>
    simp only [reading, reduceCtorEq, iff_false]
    cases headerName? s with
    | some name => simp
    | none => cases Instruction.read s <;> simp

theorem reading_eq_closeBrace {t : Token} : t.reading = .closeBrace ↔ t.lexeme = .closeBrace := by
  obtain ⟨lexeme, line⟩ := t
  cases lexeme with
  | openBrace | closeBrace => simp [reading]
  | statement s =>
    simp only [reading, reduceCtorEq, iff_false]
    cases headerName? s with
    | some name => simp
    | none => cases Instruction.read s <;> simp

end Token

/-- A definition of a routine, with the tokens between its braces. -/
structure Definition where
  name : List Char
  header : Token
  body : List Token

/-- A part of a script. -/
inductive Block where
  /-- A token outside definitions. -/
  | token (t : Token)
  | definition (d : Definition)
  /-- A definition without its closing brace. -/
  | unclosed (d : Definition)

/-- How the tokens of a script are laid out in blocks. -/
inductive Laid : List Token → List Block → Prop where
  | nil : Laid [] []
  | token {t : Token} {ts : List Token} {bs : List Block} :
    (∀ name, t.reading = .header name → ∀ b ∈ ts.head?, b.lexeme ≠ .openBrace) →
    Laid ts bs → Laid (t :: ts) (.token t :: bs)
  | definition {d : Definition} {b c : Token} {ts : List Token} {bs : List Block} :
    d.header.reading = .header d.name → b.lexeme = .openBrace →
    d.body.foldlM Token.braces? 0 = some 0 → c.lexeme = .closeBrace →
    Laid ts bs → Laid (d.header :: b :: (d.body ++ c :: ts)) (.definition d :: bs)
  | unclosed {d : Definition} {b : Token} {n : Nat} :
    d.header.reading = .header d.name → b.lexeme = .openBrace →
    d.body.foldlM Token.braces? 0 = some n →
    Laid (d.header :: b :: d.body) [.unclosed d]

/-! ## Every script has a layout -/

/-- Tokens after an opening brace either hold the closing one or leave it open. -/
theorem closes_or_open (n : Nat) (ts : List Token) :
    (∃ body c rest, ts = body ++ c :: rest ∧ body.foldlM Token.braces? n = some 0 ∧
      c.lexeme = .closeBrace) ∨ ∃ k, ts.foldlM Token.braces? n = some k := by
  induction ts generalizing n with
  | nil => exact .inr ⟨n, rfl⟩
  | cons t ts ih =>
    cases hb : t.braces? n with
    | none =>
      have hclose : t.lexeme = .closeBrace ∧ n = 0 := by
        unfold Token.braces? at hb
        split at hb <;> simp_all
      exact .inl ⟨[], t, ts, rfl, by rw [hclose.2]; rfl, hclose.1⟩
    | some m =>
      rcases ih m with ⟨body, c, rest, rfl, hbody, hc⟩ | ⟨k, hk⟩
      · exact .inl ⟨t :: body, c, rest, rfl, by rw [List.foldlM_cons, hb]; exact hbody, hc⟩
      · exact .inr ⟨k, by rw [List.foldlM_cons, hb]; exact hk⟩

theorem exists_laid (ts : List Token) : ∃ bs, Laid ts bs := by
  induction hn : ts.length using Nat.strongRecOn generalizing ts with
  | _ n ih =>
    subst hn
    cases ts with
    | nil => exact ⟨[], .nil⟩
    | cons t ts =>
      by_cases hdef : ∃ name b ts', t.reading = .header name ∧ ts = b :: ts' ∧
          b.lexeme = .openBrace
      · obtain ⟨name, b, ts', ht, rfl, hb⟩ := hdef
        rcases closes_or_open 0 ts' with ⟨body, c, rest, rfl, hbody, hc⟩ | ⟨k, hk⟩
        · obtain ⟨bs, hbs⟩ := ih rest.length (by simp; omega) rest rfl
          exact ⟨_, .definition (d := ⟨name, t, body⟩) ht hb hbody hc hbs⟩
        · exact ⟨_, .unclosed (d := ⟨name, t, ts'⟩) ht hb hk⟩
      · obtain ⟨bs, hbs⟩ := ih ts.length (by simp) ts rfl
        refine ⟨_, .token (fun name ht b hm hb => hdef ?_) hbs⟩
        obtain ⟨ts', rfl⟩ := List.head?_eq_some_iff.1 hm
        exact ⟨name, b, ts', ht, rfl, hb⟩

/-! ## The scan reads one block after the other -/

/-- What is wrong with a token outside routines. -/
def Token.diagnostics (t : Token) : List Diagnostic :=
  t.reading.problems.map (.onLine t.line)

/-- What is wrong with a token in the body of a routine. -/
def Token.diagnosticsIn (outer : List Char) (t : Token) : List Diagnostic :=
  (t.reading.problemsIn outer).map (.onLine t.line)

/-- The commands in the body of a definition. -/
def Definition.commands (d : Definition) : List Command :=
  d.body.filterMap (·.reading.command?)

/-- What is wrong with the tokens in the body of a definition. -/
def Definition.diagnostics (d : Definition) : List Diagnostic :=
  d.body.flatMap (Token.diagnosticsIn d.name)

namespace ProgramScan

/-- Note what is wrong. -/
def note (st : ProgramScan) (ds : List Diagnostic) : ProgramScan :=
  { st with diagnostics := ds.reverse ++ st.diagnostics }

/-- Read a definition, and note what else is wrong with it. -/
def define (st : ProgramScan) (d : Definition) (ds : List Diagnostic) : ProgramScan :=
  (st.note (d.diagnostics ++ ds)).finishRoutine d.name d.header.line d.commands.reverse

/-- Read a block. -/
def readBlock (st : ProgramScan) : Block → ProgramScan
  | .token t =>
    { st.note t.diagnostics with commands := t.reading.command?.toList ++ st.commands }
  | .definition d => st.define d []
  | .unclosed d =>
    st.define d [.onLine d.header.line (.missingCloseBrace (String.ofList d.name))]

theorem note_note (st : ProgramScan) (ds es : List Diagnostic) :
    (st.note ds).note es = st.note (ds ++ es) := by
  simp [note]

theorem takeOutside_eq (st : ProgramScan) {t : Token} (ht : ∀ name, t.reading ≠ .header name) :
    st.takeOutside t.line t.reading = st.readBlock (.token t) := by
  simp only [readBlock, Token.diagnostics]
  cases hr : t.reading with
  | header name => exact absurd hr (ht name)
  | openBrace | closeBrace | command | refused => rfl

theorem readToken_body (st : ProgramScan) {name : List Char} {line n m : Nat} {cs : List Command}
    {t : Token} (ht : t.braces? n = some m) :
    { st with context := .body name line (n + 1) cs }.readToken t =
      { st.note (t.diagnosticsIn name) with
        context := .body name line (m + 1) (t.reading.command?.toList ++ cs) } := by
  unfold Token.braces? at ht
  unfold readToken take Token.diagnosticsIn
  split at ht
  · next hlexeme =>
    cases ht
    rw [Token.reading_eq_openBrace.2 hlexeme]
    rfl
  · cases ht
  · next n hlexeme =>
    cases ht
    rw [Token.reading_eq_closeBrace.2 hlexeme]
    rfl
  · next s hlexeme =>
    cases ht
    cases hr : t.reading with
    | openBrace => cases hlexeme.symm.trans (Token.reading_eq_openBrace.1 hr)
    | closeBrace => cases hlexeme.symm.trans (Token.reading_eq_closeBrace.1 hr)
    | header | command | refused => rfl

theorem foldl_readToken_body (st : ProgramScan) {name : List Char} {line n k : Nat}
    {cs : List Command} {body : List Token} (hbody : body.foldlM Token.braces? n = some k) :
    body.foldl readToken { st with context := .body name line (n + 1) cs } =
      { st.note (body.flatMap (Token.diagnosticsIn name)) with
        context :=
          .body name line (k + 1) ((body.filterMap (·.reading.command?)).reverse ++ cs) } := by
  induction body generalizing st n cs with
  | nil =>
    cases hbody
    rfl
  | cons t body ih =>
    rw [List.foldlM_cons] at hbody
    obtain ⟨m, ht, hbody⟩ := Option.bind_eq_some_iff.1 hbody
    rw [List.foldl_cons, readToken_body st ht]
    refine (ih (st.note (t.diagnosticsIn name)) hbody).trans ?_
    rw [note_note, List.flatMap_cons]
    cases hc : t.reading.command? <;> simp [hc]

theorem readToken_outside (st : ProgramScan) (t : Token) (hst : st.context = .outside) :
    st.readToken t = st.takeOutside t.line t.reading := by
  rw [readToken, take, hst]

theorem readToken_header {st : ProgramScan} (hst : st.context = .outside) {t : Token}
    {name : List Char} (ht : t.reading = .header name) :
    st.readToken t = { st with context := .header name t.line } := by
  rw [readToken_outside st t hst, ht]
  rfl

/-- A header that no opening brace follows is a token like others. -/
theorem dropHeader_eq {st : ProgramScan} (hst : st.context = .outside) {t : Token}
    {name : List Char} (ht : t.reading = .header name) :
    { st with context := .header name t.line }.dropHeader name t.line =
      st.readBlock (.token t) := by
  obtain ⟨context, commands, routines, diagnostics⟩ := st
  subst hst
  simp [dropHeader, readBlock, Token.diagnostics, ht, Reading.problems, Reading.command?, report,
    note]

theorem readToken_after_header {st : ProgramScan} (hst : st.context = .outside) {t b : Token}
    {name : List Char} (ht : t.reading = .header name) (hb : b.lexeme ≠ .openBrace) :
    { st with context := .header name t.line }.readToken b =
      (st.readBlock (.token t)).readToken b := by
  rw [readToken_outside (st.readBlock (.token t)) b hst, ← dropHeader_eq hst ht]
  have hreading : b.reading ≠ .openBrace := mt Token.reading_eq_openBrace.1 hb
  cases hr : b.reading with
  | openBrace => exact absurd hr hreading
  | closeBrace | header | command | refused => simp only [readToken, take, hr]

theorem foldl_readToken_definition {st : ProgramScan} (hst : st.context = .outside)
    {d : Definition} {b : Token} {k : Nat} (hd : d.header.reading = .header d.name)
    (hb : b.lexeme = .openBrace)
    (hbody : d.body.foldlM Token.braces? 0 = some k) :
    (d.header :: b :: d.body).foldl readToken st = { st.note d.diagnostics with
      context := .body d.name d.header.line (k + 1) d.commands.reverse } := by
  have hopen : { st with context := .header d.name d.header.line }.readToken b =
      { st with context := .body d.name d.header.line 1 [] } := by
    simp only [readToken, take, Token.reading_eq_openBrace.2 hb]
  rw [List.foldl_cons, List.foldl_cons, readToken_header hst hd, hopen,
    foldl_readToken_body st hbody, List.append_nil]
  rfl

theorem readToken_close (st : ProgramScan) (d : Definition) {c : Token}
    (hc : c.lexeme = .closeBrace) :
    { st.note d.diagnostics with
      context := .body d.name d.header.line 1 d.commands.reverse }.readToken c =
      st.define d [] := by
  simp only [readToken, take, takeInBody, Token.reading_eq_closeBrace.2 hc, define,
    List.append_nil, Nat.le_refl, if_true]
  -- the routine is finished wherever the scan is
  rfl

end ProgramScan

/-- The scan of the tokens reads one block after the other. -/
theorem Laid.finish_eq {ts : List Token} {bs : List Block} (h : Laid ts bs) (st : ProgramScan)
    (hst : st.context = .outside) :
    (ts.foldl ProgramScan.readToken st).finish = bs.foldl ProgramScan.readBlock st := by
  induction h generalizing st with
  | nil => simp [ProgramScan.finish, hst]
  | @token t ts bs hbare _ ih =>
    rw [List.foldl_cons, List.foldl_cons, ← ih (st.readBlock (.token t)) hst]
    cases ht : t.reading with
    | header name =>
      rw [ProgramScan.readToken_header hst ht]
      cases ts with
      | nil =>
        have hfinish : (st.readBlock (.token t)).finish = st.readBlock (.token t) := by
          simp [ProgramScan.finish, ProgramScan.readBlock, ProgramScan.note, hst]
        exact (ProgramScan.dropHeader_eq hst ht).trans hfinish.symm
      | cons b ts =>
        have hb : b.lexeme ≠ .openBrace := hbare name ht b rfl
        rw [List.foldl_cons, List.foldl_cons, ProgramScan.readToken_after_header hst ht hb]
    | openBrace | closeBrace | command | refused =>
      rw [ProgramScan.readToken_outside st t hst,
        ProgramScan.takeOutside_eq st fun name hname => by cases ht.symm.trans hname]
  | @definition d b c ts bs hd hb hbody hc _ ih =>
    have hsplit : d.header :: b :: (d.body ++ c :: ts) = (d.header :: b :: d.body) ++ c :: ts := rfl
    rw [hsplit, List.foldl_append, ProgramScan.foldl_readToken_definition hst hd hb hbody,
      List.foldl_cons, ProgramScan.readToken_close st d hc]
    exact ih _ rfl
  | @unclosed d b n hd hb hbody =>
    rw [ProgramScan.foldl_readToken_definition hst hd hb hbody, List.foldl_cons, List.foldl_nil,
      ProgramScan.readBlock, ProgramScan.define, ← ProgramScan.note_note]
    rfl

end MotionScript
