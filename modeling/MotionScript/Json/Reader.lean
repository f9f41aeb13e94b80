import MotionScript.Json.Number
import MotionScript.Text.Hexadecimal

/-!
# Reading JSON

* `Json.parse?`: the value of a whole text. Blanks may stand around every token, nothing may
  follow the value, and arrays and objects may be nested 127 levels deep.
* `Json.value?`, `Json.skip?`: a value at the start of a text, read or only stepped over. A value
  stepped over may be nested to any depth and its numbers may have any size.
* `Json.string?`: a string literal after its opening quotation mark. Control characters have to be
  escaped, and a surrogate escape needs its partner.
-/

namespace MotionScript.Json

/-- A blank between tokens. -/
def isSpace (c : Char) : Bool := c = ' ' || c = '\n' || c = '\t' || c = '\r'

/-- `s` without leading blanks. -/
def skipSpace (s : List Char) : List Char := s.dropWhile isSpace

/-- The value of four hexadecimal digits. -/
def hex4? (a b c d : Char) : Option Nat := do
  return (((← hexValue? a) * 16 + (← hexValue? b)) * 16 + (← hexValue? c)) * 16 + (← hexValue? d)

/-- The character of a one-letter escape. -/
def shortEscape? : Char → Option Char
  | '"' => some '"'
  | '\\' => some '\\'
  | '/' => some '/'
  | 'b' => some '\x08'
  | 'f' => some '\x0c'
  | 'n' => some '\n'
  | 'r' => some '\r'
  | 't' => some '\t'
  | _ => none

/-- Whether a code unit opens a surrogate pair. -/
def isHighSurrogate (n : Nat) : Bool := 0xD800 ≤ n && n ≤ 0xDBFF

/-- Whether a code unit closes a surrogate pair. -/
def isLowSurrogate (n : Nat) : Bool := 0xDC00 ≤ n && n ≤ 0xDFFF

/-- The code point of a surrogate pair. -/
def surrogatePair (high low : Nat) : Nat := 0x10000 + (high - 0xD800) * 0x400 + (low - 0xDC00)

/-- The rest of a string literal after `out`, and what follows it. -/
def stringOnto (out : String) : List Char → Option (String × List Char)
  | '"' :: s => some (out, s)
  | '\\' :: 'u' :: a :: b :: c :: d :: s =>
    match hex4? a b c d with
    | none => none
    | some n =>
      if isLowSurrogate n then none
      else if isHighSurrogate n then
        match s with
        | '\\' :: 'u' :: a :: b :: c :: d :: s =>
          match hex4? a b c d with
          | none => none
          | some m =>
            if isLowSurrogate m then stringOnto (out.push (Char.ofNat (surrogatePair n m))) s
            else none
        | _ => none
      else stringOnto (out.push (Char.ofNat n)) s
  | '\\' :: c :: s =>
    match shortEscape? c with
    | some c => stringOnto (out.push c) s
    | none => none
  | c :: s => if c = '\\' ∨ c.toNat < 0x20 then none else stringOnto (out.push c) s
  | [] => none

/-- A string literal after its opening quotation mark, and what follows it. -/
def string? (s : List Char) : Option (String × List Char) := stringOnto "" s

/-- What follows a string literal that is only stepped over. -/
def skipString? : List Char → Option (List Char)
  | '"' :: s => some s
  | '\\' :: 'u' :: a :: b :: c :: d :: s => if (hex4? a b c d).isSome then skipString? s else none
  | '\\' :: c :: s => if (shortEscape? c).isSome then skipString? s else none
  | c :: s => if c = '\\' ∨ c.toNat < 0x20 then none else skipString? s
  | [] => none

/-- What follows the word `w` at the start of `s`. -/
def word? (w s : List Char) : Option (List Char) :=
  if w.isPrefixOf s then some (s.drop w.length) else none

/-- A key and the colon after it, and what follows them. The quotation mark is already read. -/
def key? (s : List Char) : Option (String × List Char) := do
  let (k, s) ← string? s
  match skipSpace s with
  | ':' :: s => some (k, s)
  | _ => none

mutual

/-- A value at the start of a text, and what follows it. `depth` is the number of levels that may
still be entered and `fuel` bounds the number of tokens. -/
def value? (fuel depth : Nat) (s : List Char) : Option (Json × List Char) :=
  match fuel with
  | 0 => none
  | fuel + 1 =>
    match skipSpace s with
    | 'n' :: s => (word? ['u', 'l', 'l'] s).map (.null, ·)
    | 't' :: s => (word? ['r', 'u', 'e'] s).map (.bool true, ·)
    | 'f' :: s => (word? ['a', 'l', 's', 'e'] s).map (.bool false, ·)
    | '"' :: s => (string? s).map fun (t, s) => (.str t, s)
    | '[' :: s =>
      match depth with
      | 0 => none
      | depth + 1 =>
        match skipSpace s with
        | ']' :: s => some (.arr [], s)
        | s => (items? fuel depth [] s).map fun (l, s) => (.arr l, s)
    | '\x7b' :: s =>
      match depth with
      | 0 => none
      | depth + 1 =>
        match skipSpace s with
        | '\x7d' :: s => some (.obj [], s)
        | s => (members? fuel depth [] s).map fun (l, s) => (.obj l, s)
    | s => do
      let (t, s) ← NumberText.scan s
      return (← t.value?, s)

/-- The items of an array after those in `done`, last first, up to the closing bracket. -/
def items? (fuel depth : Nat) (done : List Json) (s : List Char) :
    Option (List Json × List Char) :=
  match fuel with
  | 0 => none
  | fuel + 1 =>
    match value? fuel depth s with
    | none => none
    | some (j, s) =>
      match skipSpace s with
      | ',' :: s => items? fuel depth (j :: done) s
      | ']' :: s => some ((j :: done).reverse, s)
      | _ => none

/-- The members of an object after those in `done`, last first, up to the closing brace. -/
def members? (fuel depth : Nat) (done : List (String × Json)) (s : List Char) :
    Option (List (String × Json) × List Char) :=
  match fuel with
  | 0 => none
  | fuel + 1 =>
    match skipSpace s with
    | '"' :: s =>
      match key? s with
      | none => none
      | some (k, s) =>
        match value? fuel depth s with
        | none => none
        | some (j, s) =>
          match skipSpace s with
          | ',' :: s => members? fuel depth ((k, j) :: done) s
          | '\x7d' :: s => some (((k, j) :: done).reverse, s)
          | _ => none
    | _ => none

end

/-- Number of nested levels at which a value is refused. -/
def depthLimit : Nat := 128

/-- The value of a whole text. -/
def parse? (s : String) : Option Json :=
  let cs := s.toList
  match value? (2 * cs.length + 2) (depthLimit - 1) cs with
  | some (j, rest) => if (skipSpace rest).isEmpty then some j else none
  | none => none

/-- What a step over a value waits for. -/
inductive Expect where
  /-- A value. -/
  | value
  /-- A value, or the end of an array just opened. -/
  | firstItem
  /-- A key, or the end of an object just opened. -/
  | firstKey
  /-- A key. -/
  | key
  /-- The end of the innermost bracket, or a comma. -/
  | next

/-- What follows a value that is only stepped over. `brackets` tells which of the open brackets,
innermost first, are objects. -/
def skipFrom (fuel : Nat) (brackets : List Bool) (expect : Expect) (s : List Char) :
    Option (List Char) :=
  match fuel with
  | 0 => none
  | fuel + 1 =>
    match expect, skipSpace s with
    | .next, s =>
      match brackets, s with
      | [], s => some s
      | true :: _, ',' :: s => skipFrom fuel brackets .key s
      | false :: _, ',' :: s => skipFrom fuel brackets .value s
      | true :: rest, '\x7d' :: s => skipFrom fuel rest .next s
      | false :: rest, ']' :: s => skipFrom fuel rest .next s
      | _, _ => none
    | .firstItem, ']' :: s => skipFrom fuel brackets.tail .next s
    | .firstKey, '\x7d' :: s => skipFrom fuel brackets.tail .next s
    | .firstKey, s | .key, s =>
      match s with
      | '"' :: s => do
        match skipSpace (← skipString? s) with
        | ':' :: s => skipFrom fuel brackets .value s
        | _ => none
      | _ => none
    | .value, s | .firstItem, s =>
      match s with
      | 'n' :: s => do skipFrom fuel brackets .next (← word? ['u', 'l', 'l'] s)
      | 't' :: s => do skipFrom fuel brackets .next (← word? ['r', 'u', 'e'] s)
      | 'f' :: s => do skipFrom fuel brackets .next (← word? ['a', 'l', 's', 'e'] s)
      | '"' :: s => do skipFrom fuel brackets .next (← skipString? s)
      | '[' :: s => skipFrom fuel (false :: brackets) .firstItem s
      | '\x7b' :: s => skipFrom fuel (true :: brackets) .firstKey s
      | s => do
        let (_, s) ← NumberText.scan s
        skipFrom fuel brackets .next s

/-- What follows a value that is only stepped over. -/
def skip? (s : List Char) : Option (List Char) := skipFrom (2 * s.length + 2) [] .value s

end MotionScript.Json
