import MotionScript.Text.CombiningClass
import MotionScript.Text.Decomposition

/-!
# Composed form

Two texts that look the same may differ in their characters. The composed form is the same for both.

* `decomposed`: all characters are replaced by their parts.
* `ordered`: the marks after a character are put in the order of their classes. Marks of one class
  stay in order.
* `composed`: after that each mark is composed with the character before it, unless a mark of the
  same or a greater class stands between them.
-/

namespace MotionScript

/-- The parts of a character and, `depth` levels deep, theirs. -/
def decomposeChar : Nat → Char → List Char
  | 0, c => [c]
  | depth + 1, c =>
    match parts? c with
    | some cs => cs.flatMap (decomposeChar depth)
    | none => [c]

/-- A bound on how deep decompositions are nested. -/
def decompositionDepth : Nat := 8

/-- `s` with all characters replaced by their parts. -/
def decomposed (s : List Char) : List Char := s.flatMap (decomposeChar decompositionDepth)

/-! ## Order -/

/-- Put a character at the end of a text, given last character first, but before the marks there
that have a greater class. -/
def insertMark (c : Char) : List Char → List Char
  | [] => [c]
  | d :: ds =>
    if 0 < combiningClass c ∧ combiningClass c < combiningClass d then d :: insertMark c ds
    else c :: d :: ds

/-- `s` with its marks in the order of their classes. -/
def ordered (s : List Char) : List Char := (s.foldl (fun done c => insertMark c done) []).reverse

/-! ## Composition -/

/-- A text that is being composed. -/
structure Composer where
  /-- The finished text, last character first. -/
  done : List Char
  /-- The last character that is no mark. -/
  base? : Option Char
  /-- The marks after it that it is not composed with, last one first. -/
  marks : List Char

namespace Composer

/-- The text so far, last character first. -/
def text (st : Composer) : List Char := st.marks ++ st.base?.toList ++ st.done

/-- Whether a mark keeps `c` from being composed with the base. -/
def isBlocked (st : Composer) (c : Char) : Bool :=
  match st.marks with
  | d :: _ => combiningClass c ≤ combiningClass d
  | [] => false

/-- The base composed with `c`. -/
def join? (st : Composer) (c : Char) : Option Char :=
  if st.isBlocked c then none else st.base?.bind fun b => compose? b c

/-- Read one character. -/
def push (st : Composer) (c : Char) : Composer :=
  match st.join? c with
  | some b => { st with base? := some b }
  | none =>
    if combiningClass c = 0 then ⟨st.text, some c, []⟩ else { st with marks := c :: st.marks }

end Composer

/-- The composed form of a text. -/
def composed (s : List Char) : List Char :=
  ((ordered (decomposed s)).foldl Composer.push ⟨[], none, []⟩).text.reverse

end MotionScript
