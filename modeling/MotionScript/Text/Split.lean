/-!
# Cutting a text into parts

* `lines`: the lines of a text. A line break ends a line, so a text that ends in one has no
  further, empty line.
* `splitOn`: the parts between the occurrences of a separator; there is always at least one.
* `splitOutside`: the parts between the separators that stand outside all parentheses. A closing
  parenthesis with no open partner leaves the depth at zero.

Each is a single fold over the characters.
-/

namespace MotionScript

/-- Put `c` in front of the first line. -/
def consLine (c : Char) : List (List Char) → List (List Char)
  | [] => [[c]]
  | l :: ls => (c :: l) :: ls

/-- The lines of `s`, without their line breaks. -/
def lines (s : List Char) : List (List Char) :=
  s.foldr (fun c ls => if c = '\n' then [] :: ls else consLine c ls) []

/-- The parts of `s` between the occurrences of `sep`. -/
def splitOn (sep : Char) (s : List Char) : List (List Char) :=
  s.foldr (fun c ps => if c = sep then [] :: ps else consLine c ps) [[]]

/-- State of a scan that cuts at separators outside parentheses. -/
structure OuterScan where
  /-- Number of open parentheses. -/
  depth : Nat
  /-- The part in progress, last character first. -/
  part : List Char
  /-- The finished parts, last part first. -/
  parts : List (List Char)

/-- Read one character. -/
def OuterScan.push (sep : Char) (st : OuterScan) (c : Char) : OuterScan :=
  if c = '(' then ⟨st.depth + 1, c :: st.part, st.parts⟩
  else if c = ')' then ⟨st.depth - 1, c :: st.part, st.parts⟩
  else if c = sep ∧ st.depth = 0 then ⟨0, [], st.part.reverse :: st.parts⟩
  else ⟨st.depth, c :: st.part, st.parts⟩

/-- The parts of `s` between the occurrences of `sep` outside parentheses. -/
def splitOutside (sep : Char) (s : List Char) : List (List Char) :=
  let st := s.foldl (OuterScan.push sep) ⟨0, [], []⟩
  (st.part.reverse :: st.parts).reverse

@[simp] theorem lines_nil : lines [] = [] := rfl

theorem lines_cons (c : Char) (s : List Char) :
    lines (c :: s) = if c = '\n' then [] :: lines s else consLine c (lines s) := rfl

@[simp] theorem splitOn_nil (sep : Char) : splitOn sep [] = [[]] := rfl

theorem splitOn_cons (sep c : Char) (s : List Char) :
    splitOn sep (c :: s) = if c = sep then [] :: splitOn sep s else consLine c (splitOn sep s) :=
  rfl

theorem consLine_ne_nil (c : Char) (ls : List (List Char)) : consLine c ls ≠ [] := by
  cases ls <;> simp [consLine]

theorem splitOn_ne_nil (sep : Char) (s : List Char) : splitOn sep s ≠ [] := by
  cases s with
  | nil => simp
  | cons c s =>
    rw [splitOn_cons]
    split
    · simp
    · exact consLine_ne_nil _ _

theorem splitOutside_ne_nil (sep : Char) (s : List Char) : splitOutside sep s ≠ [] := by
  simp [splitOutside]

end MotionScript
