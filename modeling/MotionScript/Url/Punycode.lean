import MotionScript.Word

/-!
# Punycode

A text is written as its ASCII characters followed by the positions of all others, in order of code
point, as numbers of variable length in base 36. The thresholds between digits adapt to the size of
the numbers.

* `Punycode.encode`, `Punycode.decode?`.
-/

namespace MotionScript.Punycode

/-- A digit: letters first, then figures. -/
def digit (d : Nat) : Char :=
  if d < 26 then Char.ofNat ('a'.toNat + d) else Char.ofNat ('0'.toNat + (d - 26))

/-- The value of a digit. -/
def digitValue? (c : Char) : Option Nat :=
  if 'a' ≤ c ∧ c ≤ 'z' then some (c.toNat - 'a'.toNat)
  else if 'A' ≤ c ∧ c ≤ 'Z' then some (c.toNat - 'A'.toNat)
  else if c.isDigit then some (c.toNat - '0'.toNat + 26)
  else none

/-- The threshold of a digit at a weight `k`, from 1 to 26. -/
def threshold (k bias : Nat) : Nat :=
  if k ≤ bias then 1 else if bias + 26 ≤ k then 26 else k - bias

/-- The digits of `q` from the weight `k` on. -/
def encodeNumber (bias fuel k q : Nat) : List Char :=
  match fuel with
  | 0 => []
  | fuel + 1 =>
    let t := threshold k bias
    if q < t then [digit q]
    else digit (t + (q - t) % (36 - t)) :: encodeNumber bias fuel (k + 36) ((q - t) / (36 - t))

/-- Scale a difference down, counting the steps. -/
def scaleDown (fuel k delta : Nat) : Nat × Nat :=
  match fuel with
  | 0 => (k, delta)
  | fuel + 1 => if 455 < delta then scaleDown fuel (k + 36) (delta / 35) else (k, delta)

/-- The bias after a number. -/
def adapt (delta count : Nat) (first : Bool) : Nat :=
  let d := if first then delta / 700 else delta / 2
  let (k, d) := scaleDown d 0 (d + d / count)
  k + 36 * d / (d + 38)

/-- State of the encoder. -/
structure Encoder where
  delta : Nat
  bias : Nat
  /-- Number of characters written. -/
  written : Nat
  out : List Char

/-- Account for a character while those with the code point `n` are written. -/
def Encoder.push (n basic : Nat) (e : Encoder) (c : Nat) : Encoder :=
  if c < n then { e with delta := e.delta + 1 }
  else if c = n then
    ⟨0, adapt e.delta (e.written + 1) (e.written == basic), e.written + 1,
      e.out ++ encodeNumber e.bias (e.delta + 1) 36 e.delta⟩
  else e

/-- Write the characters that are not ASCII, by code point. -/
def encodeFrom (s : List Nat) (basic fuel n : Nat) (e : Encoder) : List Char :=
  match fuel with
  | 0 => e.out
  | fuel + 1 =>
    match (s.filter (n ≤ ·)).min? with
    | none => e.out
    | some m =>
      let e := { e with delta := e.delta + (m - n) * (e.written + 1) }
      let e := s.foldl (Encoder.push m basic) e
      encodeFrom s basic fuel (m + 1) { e with delta := e.delta + 1 }

/-- The encoded form of a text. -/
def encode (s : List Char) : List Char :=
  let basic := s.filter fun c => c.toNat < 128
  let start := if basic.isEmpty then [] else basic ++ ['-']
  encodeFrom (s.map Char.toNat) basic.length (s.length + 1) 128
    ⟨0, 72, basic.length, start⟩

/-- The number at the start of a text, added to `i`, and the rest. Neither the number nor the weight
of a digit may exceed a 32-bit word. -/
def decodeNumber (bias : Nat) (k w i : Nat) : List Char → Option (Nat × List Char)
  | [] => none
  | c :: s => do
    let d ← digitValue? c
    let t := threshold k bias
    let i := i + d * w
    if word32Max < i then none
    else if d < t then return (i, s)
    else if word32Max < w * (36 - t) then none
    else decodeNumber bias (k + 36) (w * (36 - t)) i s

/-- Insert the characters that the numbers of a text stand for. -/
def decodeFrom (fuel n i bias : Nat) (out s : List Char) : Option (List Char) :=
  match fuel, s with
  | _, [] => some out
  | 0, _ => none
  | fuel + 1, s => do
    let (j, s) ← decodeNumber bias 36 1 i s
    let count := out.length + 1
    let bias := adapt (j - i) count (i == 0)
    let n := n + j / count
    let i := j % count
    if n.isValidChar then
      decodeFrom fuel n (i + 1) bias (out.take i ++ Char.ofNat n :: out.drop i) s
    else none

/-- The text of an encoded form. -/
def decode? (s : List Char) : Option (List Char) :=
  let tail := (s.reverse.takeWhile (· ≠ '-')).reverse
  let basic := s.take (s.length - tail.length - 1)
  if basic.all fun c => c.toNat < 128 then
    decodeFrom (s.length + 1) 128 0 72 basic tail
  else none

end MotionScript.Punycode
