import MotionScript.Script.Keyword
import MotionScript.Script.Problem
import MotionScript.Text.Integer
import MotionScript.Text.Split

/-!
# Tokens of a script

Each line of a script is read for itself. What follows `//` is a comment. A statement ends at a
semicolon, and a brace is a token of its own; inside parentheses both are ordinary characters.

* `Lexeme`, `Token`: a statement or a brace, and its source line.
* `beforeComment`: a line without its comment.
* `LineScan`: the scan of one line, a fold over its characters. A parenthesis closed too much drops
  the statement so far, one left open drops the rest of the line.
* `joinSpeeds`: the fields of a `SPEED` statement are separated by semicolons. The first field is
  always taken; a second one only after a first that is no number, and only if it is a number.
* `tokenize`: the tokens of a source with the problems found, both in source order.
-/

namespace MotionScript

/-- A statement without its semicolon, or a brace. -/
inductive Lexeme where
  | statement (text : List Char)
  | openBrace
  | closeBrace
  deriving DecidableEq

/-- A lexeme at its source line. -/
structure Token where
  lexeme : Lexeme
  line : Nat
  deriving DecidableEq

/-- A line up to its first `//`. From the right, each character is kept in front of what follows
it, except that the first of two slashes drops all that follows. -/
def beforeComment (s : List Char) : List Char :=
  (s.foldr (fun c st => (c == '/', if c == '/' && st.1 then [] else c :: st.2)) (false, [])).2

/-- State of the scan of a line. -/
structure LineScan where
  /-- Number of open parentheses. -/
  depth : Nat
  /-- The statement in progress, last character first. -/
  buffer : List Char
  /-- The lexemes so far, last one first. -/
  lexemes : List Lexeme
  /-- The problems so far, last one first. -/
  problems : List Problem

namespace LineScan

/-- Before the first character. -/
def start : LineScan := ⟨0, [], [], []⟩

/-- The text of the statement in progress. -/
def pending (st : LineScan) : List Char := trim st.buffer.reverse

/-- End the statement in progress, if it has any text. -/
def flush (st : LineScan) : LineScan :=
  { st with
    buffer := []
    lexemes := if st.pending.isEmpty then st.lexemes else .statement st.pending :: st.lexemes }

/-- End the statement in progress and add a brace. -/
def brace (st : LineScan) (b : Lexeme) : LineScan :=
  { st.flush with lexemes := b :: st.flush.lexemes }

/-- Read one character. -/
def push (st : LineScan) (c : Char) : LineScan :=
  if c = '(' then { st with depth := st.depth + 1, buffer := c :: st.buffer }
  else if c = ')' then
    if st.depth = 0 then { st with buffer := [], problems := .unexpectedClose :: st.problems }
    else { st with depth := st.depth - 1, buffer := c :: st.buffer }
  else if st.depth = 0 ∧ c = ';' then st.flush
  else if st.depth = 0 ∧ c = '\x7b' then st.brace .openBrace
  else if st.depth = 0 ∧ c = '\x7d' then st.brace .closeBrace
  else { st with buffer := c :: st.buffer }

/-- The end of the line. -/
def finish (st : LineScan) : LineScan :=
  if st.depth = 0 then st.flush
  else { st with problems := .missingClose (String.ofList st.pending) :: st.problems }

end LineScan

/-- Whether a field is a number. -/
def isNumber (s : List Char) : Bool := (readInt64 s).isSome

/-- A speed statement with the given fields. -/
def speedStatement (fields : List (List Char)) : Lexeme :=
  .statement (speedKeyword ++ fields.flatMap fun f => ';' :: f)

/-- The fields of a speed statement among the lexemes after its keyword, and what follows them. -/
def takeFields : List Lexeme → List (List Char) × List Lexeme
  | .statement a :: .statement b :: ts =>
    if isNumber a then ([a], .statement b :: ts)
    else if isNumber b then ([a, b], ts)
    else ([a], .statement b :: ts)
  | .statement a :: ts => ([a], ts)
  | ts => ([], ts)

theorem length_takeFields_le (ts : List Lexeme) : (takeFields ts).2.length ≤ ts.length := by
  fun_cases takeFields ts with
  | case1 a b ts ha => exact Nat.le_succ _
  | case2 a b ts ha hb => exact Nat.le_trans (Nat.le_succ _) (Nat.le_succ _)
  | case3 a b ts ha hb => exact Nat.le_succ _
  | case4 a ts => exact Nat.le_succ _
  | case5 ts => exact Nat.le_refl _

/-- Join the fields of speed statements, after the lexemes in `done`, last one first. -/
def joinSpeedsOnto (done : List Lexeme) : List Lexeme → List Lexeme
  | [] => done.reverse
  | t :: ts =>
    if t = .statement speedKeyword then
      joinSpeedsOnto (speedStatement (takeFields ts).1 :: done) (takeFields ts).2
    else joinSpeedsOnto (t :: done) ts
termination_by ts => ts.length
decreasing_by
  · have := length_takeFields_le ts
    simp only [List.length_cons]
    omega
  · simp

/-- Join the fields of speed statements. -/
def joinSpeeds (ts : List Lexeme) : List Lexeme := joinSpeedsOnto [] ts

/-- The lexemes of a line and the problems found in it. -/
def scanLine (s : List Char) : List Lexeme × List Problem :=
  let st := ((trim (beforeComment s)).foldl LineScan.push .start).finish
  (joinSpeeds st.lexemes.reverse, st.problems.reverse)

/-- The tokens of a source and the problems found in it. -/
def tokenize (source : List Char) : List Token × List Diagnostic :=
  let scanned := ((lines source).zipIdx 1).map fun (s, n) => (scanLine s, n)
  (scanned.flatMap fun (r, n) => r.1.map fun t => ⟨t, n⟩,
    scanned.flatMap fun (r, n) => r.2.map (Diagnostic.onLine n))

@[simp] theorem joinSpeedsOnto_nil (done : List Lexeme) :
    joinSpeedsOnto done [] = done.reverse := by
  rw [joinSpeedsOnto]

theorem joinSpeedsOnto_eq (done ts : List Lexeme) :
    joinSpeedsOnto done ts = done.reverse ++ joinSpeedsOnto [] ts := by
  induction h : ts.length using Nat.strongRecOn generalizing done ts with
  | _ n ih =>
    cases ts with
    | nil => simp
    | cons t ts =>
      subst h
      have hle := length_takeFields_le ts
      rw [joinSpeedsOnto, joinSpeedsOnto.eq_2 []]
      split
      · rw [ih _ (by simp only [List.length_cons]; omega) _ _ rfl,
          ih _ (by simp only [List.length_cons]; omega) [_] _ rfl]
        simp
      · rw [ih _ (by simp) _ _ rfl, ih _ (by simp) [_] _ rfl]
        simp

@[simp] theorem joinSpeeds_nil : joinSpeeds [] = [] := by simp [joinSpeeds]

theorem joinSpeeds_cons (t : Lexeme) (ts : List Lexeme) :
    joinSpeeds (t :: ts) =
      if t = .statement speedKeyword then
        speedStatement (takeFields ts).1 :: joinSpeeds (takeFields ts).2
      else t :: joinSpeeds ts := by
  unfold joinSpeeds
  rw [joinSpeedsOnto]
  split <;> rw [joinSpeedsOnto_eq] <;> simp

end MotionScript
