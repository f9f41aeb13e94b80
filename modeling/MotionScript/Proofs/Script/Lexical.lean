import Mathlib.Data.List.Basic
import MotionScript.Proofs.Text.Separated
import MotionScript.Script.Token

/-!
# Tokens keep the text of a script

A line without its comment and its tokens have the same visible characters, in the same order,
unless a parenthesis of the line is out of balance.

* `beforeComment_append`, `beforeComment_plain`: a line is cut at its first comment.
* `visible`: a text without blanks and semicolons.
* `LineScan.text`: the text that a scan holds. As long as it finds no problem, it holds what it has
  read.
* `visible_scanLine`: the visible characters of a line without problems.
* `unbalanced_of_mem_scanLine`: the only problems are parentheses out of balance.
-/

namespace MotionScript

/-- What begins a comment. -/
def commentMark : List Char := ['/', '/']

theorem beforeComment_cons (c : Char) (s : List Char) : beforeComment (c :: s) =
    if c = '/' ∧ s.head? = some '/' then [] else c :: beforeComment s := by
  cases s <;> simp [beforeComment]

theorem beforeComment_append (s : List Char) :
    ∃ comment, s = beforeComment s ++ comment ∧ (comment = [] ∨ commentMark <+: comment) := by
  induction s with
  | nil => exact ⟨[], rfl, .inl rfl⟩
  | cons c s ih =>
    obtain ⟨comment, hs, hmark⟩ := ih
    rw [beforeComment_cons]
    split
    · next h =>
      obtain ⟨rfl, hhead⟩ := h
      obtain ⟨r, rfl⟩ := List.head?_eq_some_iff.1 hhead
      exact ⟨_, rfl, .inr ⟨r, rfl⟩⟩
    · exact ⟨comment, congrArg (c :: ·) hs, hmark⟩

theorem beforeComment_plain (s : List Char) : ¬ commentMark <:+: beforeComment s := by
  induction s with
  | nil => decide
  | cons c s ih =>
    rw [beforeComment_cons]
    split
    · decide
    · next h =>
      intro hmark
      rcases List.infix_cons_iff.1 hmark with hprefix | hinfix
      · obtain ⟨hc, hprefix⟩ := List.cons_prefix_cons.1 hprefix
        obtain ⟨comment, hs, -⟩ := beforeComment_append s
        have hhead : ['/'] <+: s := hprefix.trans ⟨comment, hs.symm⟩
        obtain ⟨r, rfl⟩ := hhead
        exact h ⟨hc.symm, rfl⟩
      · exact ih hinfix

/-! ## The visible characters -/

/-- A character that is neither blank nor a semicolon. -/
def isVisible (c : Char) : Bool := !isBlank c && c ≠ ';'

/-- The visible characters of a text. -/
def visible (s : List Char) : List Char := s.filter isVisible

/-- The characters of a lexeme. -/
def Lexeme.chars : Lexeme → List Char
  | statement s => s
  | openBrace => ['\x7b']
  | closeBrace => ['\x7d']

@[simp] theorem visible_nil : visible [] = [] := rfl

@[simp] theorem visible_append (s t : List Char) : visible (s ++ t) = visible s ++ visible t :=
  List.filter_append ..

theorem visible_blank {s : List Char} (h : Blank s) : visible s = [] := by
  refine List.filter_eq_nil_iff.2 fun c hc => ?_
  simp [isVisible, h c hc]

theorem visible_trim (s : List Char) : visible (trim s) = visible s := by
  obtain ⟨b, e, hb, he, hs⟩ := padded_trim s
  calc visible (trim s)
      = visible (b ++ (trim s ++ e)) := by
        rw [visible_append, visible_append, visible_blank hb, visible_blank he, List.append_nil,
          List.nil_append]
    _ = visible s := by rw [← hs]

/-! ## The scan of a line -/

/-- A parenthesis is out of balance. -/
def Problem.isUnbalanced : Problem → Bool
  | unexpectedClose | missingClose _ => true
  | _ => false

namespace LineScan

/-- The visible characters that a scan holds. -/
def text (st : LineScan) : List Char :=
  visible (st.lexemes.reverse.flatMap Lexeme.chars) ++ visible st.buffer.reverse

theorem text_flush (st : LineScan) : st.flush.text = st.text := by
  have hpending : visible st.pending = visible st.buffer.reverse := visible_trim _
  unfold text flush
  by_cases hp : st.pending = []
  · rw [hp] at hpending
    simp [hp, ← hpending]
  · simp [hp, Lexeme.chars, hpending]

theorem text_brace (st : LineScan) (b : Lexeme) :
    (st.brace b).text = st.text ++ visible b.chars := by
  have hbuffer : st.flush.buffer = [] := rfl
  rw [← st.text_flush]
  simp [text, brace, hbuffer]

/-- A character is kept unless a parenthesis is closed too much. -/
theorem text_push (st : LineScan) (c : Char) (h : (st.push c).problems = []) :
    st.problems = [] ∧ (st.push c).text = st.text ++ visible [c] := by
  have hkeep : ∀ n, text ⟨n, c :: st.buffer, st.lexemes, st.problems⟩ = st.text ++ visible [c] := by
    intro n
    simp [text]
  unfold push at h ⊢
  split_ifs at h ⊢ with _ _ _ hsemicolon hopen hclose
  · exact ⟨h, hkeep _⟩
  · exact ⟨h, hkeep _⟩
  · refine ⟨h, ?_⟩
    rw [text_flush, hsemicolon.2]
    simp [visible, isVisible]
  · exact ⟨h, hopen.2 ▸ st.text_brace .openBrace⟩
  · exact ⟨h, hclose.2 ▸ st.text_brace .closeBrace⟩
  · exact ⟨h, hkeep _⟩

theorem text_foldl (st : LineScan) (s : List Char) (h : (s.foldl push st).problems = []) :
    st.problems = [] ∧ (s.foldl push st).text = st.text ++ visible s := by
  induction s generalizing st with
  | nil => simpa using h
  | cons c s ih =>
    obtain ⟨hproblems, htext⟩ := ih (st.push c) h
    obtain ⟨hproblems, hpush⟩ := st.text_push c hproblems
    refine ⟨hproblems, ?_⟩
    rw [List.foldl_cons, htext, hpush, List.append_assoc, ← visible_append]
    rfl

theorem unbalanced_push {st : LineScan} (h : ∀ p ∈ st.problems, p.isUnbalanced) (c : Char) :
    ∀ p ∈ (st.push c).problems, p.isUnbalanced := by
  unfold push
  split_ifs
  · exact h
  · exact List.forall_mem_cons.2 ⟨rfl, h⟩
  all_goals exact h

theorem unbalanced_foldl {st : LineScan} (h : ∀ p ∈ st.problems, p.isUnbalanced)
    (s : List Char) : ∀ p ∈ (s.foldl push st).problems, p.isUnbalanced := by
  induction s generalizing st with
  | nil => exact h
  | cons c s ih => exact ih (unbalanced_push h c)

theorem unbalanced_finish {st : LineScan} (h : ∀ p ∈ st.problems, p.isUnbalanced) :
    ∀ p ∈ st.finish.problems, p.isUnbalanced := by
  unfold finish
  split_ifs
  · exact h
  · exact List.forall_mem_cons.2 ⟨rfl, h⟩

end LineScan

/-! ## Speed statements -/

theorem unbalanced_of_mem_scanLine {s : List Char} {p : Problem} (h : p ∈ (scanLine s).2) :
    p.isUnbalanced :=
  LineScan.unbalanced_finish (LineScan.unbalanced_foldl (by simp [LineScan.start]) _) p
    (List.mem_reverse.1 h)

/-- The tokens of a line and its number. -/
def lineTokens (r : List Char × Nat) : List Token := (scanLine r.1).1.map (⟨·, r.2⟩)

theorem tokenize_fst (source : List Char) :
    (tokenize source).1 = ((lines source).zipIdx 1).flatMap lineTokens :=
  List.flatMap_map ..

theorem tokenize_snd (source : List Char) : (tokenize source).2 =
    ((lines source).zipIdx 1).flatMap fun r => (scanLine r.1).2.map (Diagnostic.onLine r.2) :=
  List.flatMap_map ..

theorem exists_line_of_mem_tokenize {source : List Char} {t : Token}
    (h : t ∈ (tokenize source).1) :
    ∃ l, (l, t.line) ∈ (lines source).zipIdx 1 ∧ t.lexeme ∈ (scanLine l).1 := by
  rw [tokenize_fst] at h
  obtain ⟨⟨l, n⟩, hl, ht⟩ := List.mem_flatMap.1 h
  obtain ⟨x, hx, rfl⟩ := List.mem_map.1 ht
  exact ⟨l, hl, hx⟩

theorem mem_tokenize_snd {source : List Char} {d : Diagnostic} : d ∈ (tokenize source).2 ↔
    ∃ l n, (l, n) ∈ (lines source).zipIdx 1 ∧ ∃ p ∈ (scanLine l).2, d = .onLine n p := by
  simp [tokenize_snd, eq_comm]

end MotionScript
