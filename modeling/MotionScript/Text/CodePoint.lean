import MotionScript.Text.Hexadecimal
import MotionScript.Text.Split

/-!
# Tables of code points

Properties of characters are given as lines of text, in hexadecimal.

* `readRanges`: a set of characters, written as ranges such as `41-5A 61`.
* `readRuns`: a text for each of some characters, written as runs such as `C0=41.300 41.301`: the
  texts of `U+00C0` and `U+00C1`, of two characters each.
-/

namespace MotionScript

/-- The words of some lines, between single blanks. -/
def words (lines : List String) : List (List Char) := lines.flatMap fun l => splitOn ' ' l.toList

/-! ## Sets -/

/-- The code points between two, both included. -/
structure CodeRange where
  first : Nat
  last : Nat

namespace CodeRange

/-- Whether a code point is in a range. -/
def contains (r : CodeRange) (n : Nat) : Bool := r.first ≤ n && n ≤ r.last

/-- The range of a word: two ends, or a single code point. -/
def read (s : List Char) : CodeRange :=
  match splitOn '-' s with
  | [a, b] => ⟨readHex a, readHex b⟩
  | _ => ⟨readHex s, readHex s⟩

end CodeRange

/-- The ranges of some lines. -/
def readRanges (lines : List String) : List CodeRange := (words lines).map CodeRange.read

/-- Whether a character is in one of some ranges. -/
def inRanges (rs : List CodeRange) (c : Char) : Bool := rs.any (·.contains c.toNat)

/-! ## Maps -/

/-- Texts for consecutive code points. -/
structure CodeRun where
  first : Nat
  texts : Array (List Char)

/-- The text of a code point. -/
def CodeRun.text? (r : CodeRun) (n : Nat) : Option (List Char) :=
  if r.first ≤ n then r.texts[n - r.first]? else none

/-- The characters of a word. -/
def readText (s : List Char) : List Char := (splitOn '.' s).map fun n => Char.ofNat (readHex n)

/-- The runs of some lines. -/
def readRuns (lines : List String) : List CodeRun :=
  ((words lines).foldr (fun w (texts, runs) =>
    match splitOn '=' w with
    | [first, t] => ([], ⟨readHex first, (readText t :: texts).toArray⟩ :: runs)
    | _ => (readText w :: texts, runs)) ([], [])).2

/-- The text of a character in one of some runs. -/
def runText? (rs : List CodeRun) (c : Char) : Option (List Char) := rs.findSome? (·.text? c.toNat)

end MotionScript
