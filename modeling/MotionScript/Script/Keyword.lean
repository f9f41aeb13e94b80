import MotionScript.Text.Blank

/-!
# Keywords

* The words that statements begin with or consist of.
* `enclosed?`: the text between the parentheses after a keyword. The parentheses end the statement,
  and blanks may stand before them.
* `named?`: the same where a name is expected: no parentheses inside, and blanks around it dropped.
* `headerName?`, `isConventionalName`: the name of a routine and the convention for such names.
-/

namespace MotionScript

/-- The keyword of a routine definition. -/
def funcKeyword : List Char := ['F', 'U', 'N', 'C']

/-- The keyword of a call. -/
def callKeyword : List Char := ['C', 'A', 'L', 'L']

/-- The keyword of a signal. -/
def setKeyword : List Char := ['S', 'E', 'T']

/-- The keyword of a group. -/
def groupKeyword : List Char := ['G', 'R', 'O', 'U', 'P']

/-- The keyword of a speed. -/
def speedKeyword : List Char := ['S', 'P', 'E', 'E', 'D']

/-- The word for a wait. -/
def waitWord : List Char := ['W', 'A', 'I', 'T']

/-- The word for a detection. -/
def detectWord : List Char := ['D', 'E', 'T', 'E', 'C', 'T']

/-- What stands between the parentheses that a text consists of, after blanks. -/
def parenthesized? (s : List Char) : Option (List Char) :=
  match trimStart s with
  | '(' :: r => if r.getLast? = some ')' then some r.dropLast else none
  | _ => none

/-- What stands between the parentheses after a keyword. -/
def enclosed? (keyword s : List Char) : Option (List Char) :=
  if keyword.isPrefixOf s then parenthesized? (s.drop keyword.length) else none

/-- A parenthesis. -/
def isParenthesis (c : Char) : Bool := c = '(' || c = ')'

/-- The name between the parentheses after a keyword, without the blanks around it. A name has no
parentheses itself. -/
def named? (keyword s : List Char) : Option (List Char) :=
  match enclosed? keyword s with
  | some inner => if inner.any isParenthesis then none else some (trim inner)
  | none => none

/-- The name that a routine header defines. -/
def headerName? (s : List Char) : Option (List Char) := named? funcKeyword s

/-- Whether a routine name is a capital letter followed by capital letters, digits and
underscores. -/
def isConventionalName : List Char → Bool
  | [] => false
  | c :: s => c.isUpper && s.all fun c => c.isUpper || c.isDigit || c = '_'

end MotionScript
