import MotionScript.Toml.Scalar

/-!
# Reading TOML

* `Toml.value?`: a value at the start of a text.
* `Toml.parse?`: the root table of a document.
-/

namespace MotionScript.Toml

mutual

/-- A value at the start of a text. `depth` is the number of levels that may still be entered and
`fuel` bounds the number of tokens. -/
def value? (fuel depth : Nat) (s : List Char) : Option (Toml × List Char) :=
  match fuel with
  | 0 => none
  | fuel + 1 =>
    match s with
    | '"' :: _ | '\'' :: _ => (string? s).map fun (t, s) => (.string t, s)
    | 't' :: 'r' :: 'u' :: 'e' :: s => some (.boolean true, s)
    | 'f' :: 'a' :: 'l' :: 's' :: 'e' :: s => some (.boolean false, s)
    | '[' :: s =>
      match depth with
      | 0 => none
      | depth + 1 => (items? fuel depth [] s).map fun (l, s) => (.array l, s)
    | '\x7b' :: s =>
      match depth with
      | 0 => none
      | depth + 1 =>
        match skipBlanks s with
        | '\x7d' :: s => some (.table .closed [], s)
        | s => (members? fuel depth (.closed, []) s).map fun ((_, es), s) =>
          (.table .closed es, s)
    | s =>
      match datetime? s with
      | some s => some (.datetime, s)
      | none => number? s

/-- The items of an array after those in `done`, last one first, up to the closing bracket. -/
def items? (fuel depth : Nat) (done : List Toml) (s : List Char) :
    Option (List Toml × List Char) :=
  match fuel with
  | 0 => none
  | fuel + 1 =>
    match skipLines (s.length + 1) s with
    | none => none
    | some (']' :: s) => some (done.reverse, s)
    | some s =>
      match value? fuel depth s with
      | none => none
      | some (v, s) =>
        match skipLines (s.length + 1) s with
        | some (',' :: s) => items? fuel depth (v :: done) s
        | some (']' :: s) => some ((v :: done).reverse, s)
        | _ => none

/-- The members of a table between braces after those in `t`, up to the closing brace. -/
def members? (fuel depth : Nat) (t : Target) (s : List Char) : Option (Target × List Char) :=
  match fuel with
  | 0 => none
  | fuel + 1 =>
    match key? s with
    | some (path, key, '=' :: s) =>
      match value? fuel depth (skipBlanks s) with
      | none => none
      | some (v, s) =>
        match put path key v t with
        | none => none
        | some t =>
          match skipBlanks s with
          | ',' :: s => members? fuel depth t s
          | '\x7d' :: s => some (t, s)
          | _ => none
    | _ => none

end

/-- A document being read: its root table and the path of the last header. -/
structure Document where
  root : Target
  header : List String

namespace Document

/-- Nothing read yet. -/
def empty : Document := ⟨(.header, []), []⟩

/-- A line with a key and a value, and what follows it. -/
def entry? (d : Document) (s : List Char) : Option (Document × List Char) := do
  match key? s with
  | some (path, key, '=' :: s) =>
    let s := skipBlanks s
    let (v, s) ← value? (2 * s.length + 2) (nestingLimit - 1) s
    let s ← endOfLine? s
    let root ← descend false (put path key v) d.header d.root
    return ({ d with root }, s)
  | _ => none

/-- A header after its opening brackets, and what follows it. -/
def header? (repeated : Bool) (d : Document) (s : List Char) :
    Option (Document × List Char) := do
  let (path, key, s) ← key? s
  let s ← expect? ']' s
  let s ← if repeated then expect? ']' s else some s
  let s ← endOfLine? s
  let root ← if repeated then openItem path key d.root else openTable path key d.root
  return (⟨root, path ++ [key]⟩, s)

/-- The lines of a document. -/
def read? (fuel : Nat) (d : Document) (s : List Char) : Option Document :=
  match fuel with
  | 0 => none
  | fuel + 1 =>
    match skipBlanks s with
    | [] => some d
    | '#' :: s => (endOfLine? ('#' :: s)).bind (read? fuel d)
    | '\n' :: s => read? fuel d s
    | '\r' :: s => (lineBreak? ('\r' :: s)).bind (read? fuel d)
    | '[' :: '[' :: s =>
      match header? true d s with
      | some (d, s) => read? fuel d s
      | none => none
    | '[' :: s =>
      match header? false d s with
      | some (d, s) => read? fuel d s
      | none => none
    | s =>
      match entry? d s with
      | some (d, s) => read? fuel d s
      | none => none

end Document

/-- `s` without a byte order mark. -/
def skipMark : List Char → List Char
  | '\ufeff' :: s => s
  | s => s

/-- The root table of a document. -/
def parse? (s : String) : Option Toml :=
  let cs := skipMark s.toList
  (Document.read? (cs.length + 1) .empty cs).map fun d => .table .header d.root.2

end MotionScript.Toml
