import MotionScript.Json.Reader
import MotionScript.Toml.Basic

/-!
# TOML scalars

* `Toml.skipBlanks`, `Toml.lineBreak?`, `Toml.skipComment`: what may stand between tokens.
* `Toml.basicString?`, `Toml.literalString?` and their forms over several lines.
* `Toml.key?`: a dotted key of bare and quoted parts.
* `Toml.datetime?`, `Toml.number?`: dates and times, floats and integers.

Each reader takes a text and yields what it read and the rest of the text.
-/

namespace MotionScript.Toml

/-! ## Between tokens -/

/-- A blank within a line. -/
def isTabOrSpace (c : Char) : Bool := c = ' ' || c = '\t'

/-- `s` without leading blanks. -/
def skipBlanks (s : List Char) : List Char := s.dropWhile isTabOrSpace

/-- What follows a line break. -/
def lineBreak? : List Char → Option (List Char)
  | '\n' :: s => some s
  | '\r' :: '\n' :: s => some s
  | _ => none

/-- A character of a comment. -/
def isCommentChar (c : Char) : Bool := c = '\t' || (0x20 ≤ c.toNat && c.toNat ≠ 0x7F)

/-- `s` without a leading comment. -/
def skipComment : List Char → List Char
  | '#' :: s => s.dropWhile isCommentChar
  | s => s

/-- What follows the end of a line, with blanks and a comment before it. -/
def endOfLine? (s : List Char) : Option (List Char) :=
  match skipComment (skipBlanks s) with
  | [] => some []
  | s => lineBreak? s

/-- What follows blanks, comments and line breaks. -/
def skipLines (fuel : Nat) (s : List Char) : Option (List Char) :=
  match fuel with
  | 0 => none
  | fuel + 1 =>
    match skipBlanks s with
    | '#' :: s => (lineBreak? (skipComment ('#' :: s))).bind (skipLines fuel)
    | '\n' :: s => skipLines fuel s
    | '\r' :: s => (lineBreak? ('\r' :: s)).bind (skipLines fuel)
    | s => some s

/-! ## Strings -/

/-- A character that stands for itself in a quoted string, apart from its quotation mark and the
backslash. -/
def isStringChar (c : Char) : Bool := c = '\t' || (0x20 ≤ c.toNat && c.toNat ≠ 0x7F)

/-- The character of a code point. -/
def codePoint? (n : Nat) : Option Char :=
  if n.isValidChar then some (Char.ofNat n) else none

/-- The value of hexadecimal digits. -/
def hexDigits? (ds : List Char) : Option Nat :=
  ds.foldlM (fun n c => (hexValue? c).map (16 * n + ·)) 0

/-- The character of an escape after its backslash. -/
def escape? : List Char → Option (Char × List Char)
  | 'b' :: s => some ('\x08', s)
  | 't' :: s => some ('\t', s)
  | 'n' :: s => some ('\n', s)
  | 'f' :: s => some ('\x0c', s)
  | 'r' :: s => some ('\r', s)
  | '"' :: s => some ('"', s)
  | '\\' :: s => some ('\\', s)
  | 'u' :: s => if s.length < 4 then none else
    ((hexDigits? (s.take 4)).bind codePoint?).map (·, s.drop 4)
  | 'U' :: s => if s.length < 8 then none else
    ((hexDigits? (s.take 8)).bind codePoint?).map (·, s.drop 8)
  | _ => none

/-- `s` without leading blanks and line breaks. -/
def skipBreaks (fuel : Nat) (s : List Char) : List Char :=
  match fuel with
  | 0 => s
  | fuel + 1 =>
    match lineBreak? (skipBlanks s) with
    | some s => skipBreaks fuel s
    | none => skipBlanks s

/-- What follows a backslash that ends a line, and the blanks and line breaks after it. -/
def joinedLine? (s : List Char) : Option (List Char) :=
  (lineBreak? (skipBlanks s)).map fun s => skipBreaks s.length s

/-- The rest of a string in quotation marks after `out`. -/
def basicOnto (fuel : Nat) (out : String) (s : List Char) : Option (String × List Char) :=
  match fuel with
  | 0 => none
  | fuel + 1 =>
    match s with
    | '"' :: s => some (out, s)
    | '\\' :: s =>
      match escape? s with
      | some (c, s) => basicOnto fuel (out.push c) s
      | none => none
    | c :: s => if isStringChar c then basicOnto fuel (out.push c) s else none
    | [] => none

/-- A string in quotation marks, after the opening one. -/
def basicString? (s : List Char) : Option (String × List Char) := basicOnto (s.length + 1) "" s

/-- The rest of a string in apostrophes after `out`. -/
def literalOnto (out : String) : List Char → Option (String × List Char)
  | '\'' :: s => some (out, s)
  | c :: s => if isStringChar c then literalOnto (out.push c) s else none
  | [] => none

/-- A string in apostrophes, after the opening one. -/
def literalString? (s : List Char) : Option (String × List Char) := literalOnto "" s

/-- The end of a string over several lines at a run of its quotation marks: three marks end it, and
up to two more before them belong to it. -/
def closeRun? (q : Char) (out : String) (s : List Char) : Option (String × List Char) :=
  let run := s.takeWhile (· = q)
  if run.length < 3 then none
  else
    let extra := min 2 (run.length - 3)
    some (out ++ String.ofList (List.replicate extra q), s.drop (extra + 3))

/-- The rest of a string over several lines after `out`. -/
def longOnto (escapes : Bool) (q : Char) (fuel : Nat) (out : String) (s : List Char) :
    Option (String × List Char) :=
  match fuel with
  | 0 => none
  | fuel + 1 =>
    match closeRun? q out s with
    | some r => some r
    | none =>
      match lineBreak? s with
      | some s => longOnto escapes q fuel (out.push '\n') s
      | none =>
        match s with
        | [] => none
        | c :: s =>
          if escapes && c == '\\' then
            match joinedLine? s with
            | some s => longOnto escapes q fuel out s
            | none =>
              match escape? s with
              | some (c, s) => longOnto escapes q fuel (out.push c) s
              | none => none
          else if isStringChar c then longOnto escapes q fuel (out.push c) s
          else none

/-- A string over several lines, after the opening marks. A line break right there is dropped. -/
def longString? (escapes : Bool) (q : Char) (s : List Char) : Option (String × List Char) :=
  let s := (lineBreak? s).getD s
  longOnto escapes q (s.length + 1) "" s

/-- A string of any form. -/
def string? : List Char → Option (String × List Char)
  | '"' :: '"' :: '"' :: s => longString? true '"' s
  | '\'' :: '\'' :: '\'' :: s => longString? false '\'' s
  | '"' :: s => basicString? s
  | '\'' :: s => literalString? s
  | _ => none

/-! ## Keys -/

/-- A character of a bare key. -/
def isBareChar (c : Char) : Bool := c.isAlphanum || c = '-' || c = '_'

/-- One part of a key. -/
def keyPart? (s : List Char) : Option (String × List Char) :=
  match s with
  | '"' :: s => basicString? s
  | '\'' :: s => literalString? s
  | s =>
    let w := s.takeWhile isBareChar
    if w.isEmpty then none else some (String.ofList w, s.dropWhile isBareChar)

/-- Greatest nesting of keys and of values, exclusively. -/
def nestingLimit : Nat := 80

/-- The parts of a dotted key, those in `done` first, last one first. At most `fuel` more. -/
def keyPath? (fuel : Nat) (done : List String) (s : List Char) :
    Option (List String × List Char) :=
  match fuel with
  | 0 => none
  | fuel + 1 =>
    match keyPart? (skipBlanks s) with
    | none => none
    | some (k, s) =>
      match skipBlanks s with
      | '.' :: s => keyPath? fuel (k :: done) s
      | s => some ((k :: done).reverse, s)

/-- A key: the path to its table and its last part. -/
def key? (s : List Char) : Option (List String × String × List Char) :=
  match keyPath? (nestingLimit - 1) [] s with
  | some (path, s) => path.getLast?.map fun k => (path.dropLast, k, s)
  | none => none

/-! ## Dates and times -/

/-- A number of exactly `n` digits within bounds. -/
def fixedDigits? (n low high : Nat) (s : List Char) : Option (Nat × List Char) :=
  let ds := s.take n
  if ds.length = n ∧ ds.all Char.isDigit then
    let v := ds.foldl (fun v c => 10 * v + digitValue c) 0
    if low ≤ v ∧ v ≤ high then some (v, s.drop n) else none
  else none

/-- What follows a character. -/
def expect? (c : Char) : List Char → Option (List Char)
  | d :: s => if d = c then some s else none
  | [] => none

/-- The number of days of a month. -/
def daysOfMonth (year month : Nat) : Nat :=
  if month = 2 then
    if (year % 4 = 0 ∧ year % 100 ≠ 0) ∨ year % 400 = 0 then 29 else 28
  else if month = 4 ∨ month = 6 ∨ month = 9 ∨ month = 11 then 30
  else 31

/-- What follows a date. -/
def date? (s : List Char) : Option (List Char) := do
  let (year, s) ← fixedDigits? 4 0 9999 s
  let s ← expect? '-' s
  let (month, s) ← fixedDigits? 2 1 12 s
  let s ← expect? '-' s
  let (_, s) ← fixedDigits? 2 1 (daysOfMonth year month) s
  return s

/-- What follows the fraction of a second, if there is one. -/
def secondFraction (s : List Char) : List Char :=
  match s with
  | '.' :: r =>
    let rest := r.dropWhile Char.isDigit
    if rest.length = r.length then s else rest
  | s => s

/-- What follows a time. -/
def time? (s : List Char) : Option (List Char) := do
  let (_, s) ← fixedDigits? 2 0 23 s
  let s ← expect? ':' s
  let (_, s) ← fixedDigits? 2 0 59 s
  let s ← expect? ':' s
  let (_, s) ← fixedDigits? 2 0 60 s
  return secondFraction s

/-- What follows the offset of a time zone. -/
def offset? (s : List Char) : Option (List Char) :=
  match s with
  | 'Z' :: s | 'z' :: s => some s
  | '+' :: s | '-' :: s => do
    let (_, s) ← fixedDigits? 2 0 23 s
    let s ← expect? ':' s
    let (_, s) ← fixedDigits? 2 0 59 s
    return s
  | _ => none

/-- What follows a date, a time, or both. -/
def datetime? (s : List Char) : Option (List Char) :=
  match date? s with
  | some s =>
    match s with
    | c :: r =>
      if c = 'T' ∨ c = 't' ∨ c = ' ' then
        match time? r with
        | some r => some ((offset? r).getD r)
        | none => some s
      else some s
    | [] => some s
  | none => time? s

/-! ## Numbers -/

/-- The digits of a number, in which single underscores may stand between digits. The first
character is already known to be a digit. -/
def digitRun (isDigit : Char → Bool) (s : List Char) : List Char × List Char :=
  let run := s.takeWhile fun c => isDigit c || c = '_'
  (run, s.drop run.length)

/-- Whether every underscore of a run stands between two digits. -/
def underscoresOk : List Char → Bool
  | [] => false
  | ['_'] => false
  | '_' :: '_' :: _ => false
  | [_] => true
  | _ :: s => underscoresOk s

/-- The digits of a run, if it is well formed. -/
def runDigits? (run : List Char) : Option (List Char) :=
  if run.head? = some '_' ∨ !underscoresOk run then none else some (run.filter (· ≠ '_'))

/-- Digits at the start of a text. -/
def digits? (isDigit : Char → Bool) (s : List Char) : Option (List Char × List Char) :=
  let (run, rest) := digitRun isDigit s
  (runDigits? run).map (·, rest)

/-- A sign at the start of a text; `true` for minus. -/
def sign : List Char → Bool × List Char
  | '-' :: s => (true, s)
  | '+' :: s => (false, s)
  | s => (false, s)

/-- Digits of a number without leading zeros. -/
def wholeDigits? (s : List Char) : Option (List Char × List Char) :=
  match s with
  | '0' :: rest => some (['0'], rest)
  | s => digits? Char.isDigit s

/-- A number in base `base`, at most the greatest signed 64-bit number. -/
def baseNumber? (base : Nat) (ds : List Char) : Option Nat :=
  ds.foldlM (fun n c => do
    let n := base * n + (← hexValue? c)
    if n ≤ int64Max then some n else none) 0

/-- An integer with a base before it. -/
def basedInteger? (base : Nat) (isDigit : Char → Bool) (s : List Char) :
    Option (Toml × List Char) := do
  let (ds, s) ← digits? isDigit s
  return (.integer (← baseNumber? base ds), s)

/-- A hexadecimal digit. -/
def isHexDigit (c : Char) : Bool := (hexValue? c).isSome

/-- A decimal integer, a signed 64-bit number. -/
def decimalInteger? (s : List Char) : Option (Toml × List Char) := do
  let (negative, s) := sign s
  let (ds, s) ← wholeDigits? s
  return (.integer (← readInt64 (if negative then '-' :: ds else ds)), s)

/-- The double of a decimal. Decimals far outside the range of the doubles need no computation. -/
def decimalFloat (ds : List Char) (exponent : Int) : Float :=
  let ds := ds.dropWhile (· = '0')
  let size : Int := ds.length + exponent
  if ds.isEmpty ∨ size < -400 then 0
  else if 400 < size then 1.0 / 0.0
  else
    let n := ds.foldl (fun n c => 10 * n + digitValue c) 0
    if exponent < 0 then Float.ofScientific n true (-exponent).toNat
    else Float.ofScientific n false exponent.toNat

/-- An exponent at the start of a text. -/
def exponent? : List Char → Option (Int × List Char)
  | c :: s =>
    if c = 'e' ∨ c = 'E' then do
      let (negative, s) := sign s
      let (ds, s) ← digits? Char.isDigit s
      let n : Int := ((readDigits 1000000 (ds.dropWhile (· = '0') |> fun
        | [] => ['0']
        | ds => ds)).getD 1000000 : Nat)
      return (if negative then -n else n, s)
    else none
  | [] => none

/-- A double at the start of a text: it has decimals, an exponent or both, and is not too large. -/
def float? (s : List Char) : Option (Toml × List Char) := do
  let (negative, s) := sign s
  match s with
  | 'i' :: 'n' :: 'f' :: s => some (.float (if negative then -1.0 / 0.0 else 1.0 / 0.0), s)
  | 'n' :: 'a' :: 'n' :: s => some (.float (0.0 / 0.0), s)
  | s =>
    let (whole, s) ← wholeDigits? s
    let (decimals, s, pointed) ← match s with
      | '.' :: s => (digits? Char.isDigit s).map fun (ds, s) => (ds, s, true)
      | s => some ([], s, false)
    let (e, s) ← match exponent? s with
      | some r => some r
      | none => if pointed then some (0, s) else none
    let x := decimalFloat (whole ++ decimals) (e - decimals.length)
    if x.isInf ∧ !negative then none else some (.float (if negative then -x else x), s)

/-- A number at the start of a text. -/
def number? (s : List Char) : Option (Toml × List Char) :=
  match float? s with
  | some r => some r
  | none =>
    match s with
    | '0' :: 'x' :: s => basedInteger? 16 isHexDigit s
    | '0' :: 'o' :: s => basedInteger? 8 (fun c => '0' ≤ c ∧ c ≤ '7') s
    | '0' :: 'b' :: s => basedInteger? 2 (fun c => c = '0' ∨ c = '1') s
    | s => decimalInteger? s

end MotionScript.Toml
