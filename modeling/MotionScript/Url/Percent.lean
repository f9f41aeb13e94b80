import MotionScript.Json.Printer
import MotionScript.Json.Reader

/-!
# Percent coding

* `percentEncode`: the bytes of a text in which the characters of a set and everything outside
  printable ASCII are written as `%` and two hexadecimal digits.
* `percentDecode`: the bytes of a text in which such triples stand for bytes.
* The sets for paths and for user names and passwords.
-/

namespace MotionScript.Url

/-- A control character of ASCII. -/
def isControl (c : Char) : Bool := c.toNat < 0x20 || c.toNat = 0x7F

/-- The characters to encode in a path. -/
def inPathSet (c : Char) : Bool := [' ', '"', '<', '>', '\x60', '#', '?', '\x7b', '\x7d'].contains c

/-- The characters to encode in a user name or a password. -/
def inUserSet (c : Char) : Bool :=
  inPathSet c || ['/', ':', ';', '=', '@', '[', '\\', ']', '^', '|'].contains c

/-- A digit of an encoded byte. -/
def upperHex (n : Nat) : Char :=
  if n < 10 then Char.ofNat ('0'.toNat + n) else Char.ofNat ('A'.toNat + (n - 10))

/-- An encoded byte. -/
def encodeByte (b : UInt8) : List Char := ['%', upperHex (b.toNat / 16), upperHex (b.toNat % 16)]

/-- Encode a character if it is in the set, a control character or not ASCII. -/
def encodeChar (inSet : Char → Bool) (c : Char) : List Char :=
  if inSet c || isControl c || 0x7F < c.toNat then
    (String.singleton c).toUTF8.toList.flatMap encodeByte
  else [c]

/-- Encode the characters of a set. -/
def percentEncode (inSet : Char → Bool) (s : List Char) : List Char :=
  s.flatMap (encodeChar inSet)

/-- The bytes of a text after those in `done`, last one first. -/
def decodeOnto (done : List UInt8) : List Char → List UInt8
  | '%' :: a :: b :: s =>
    match hexValue? a, hexValue? b with
    | some m, some n => decodeOnto (UInt8.ofNat (16 * m + n) :: done) s
    | _, _ => decodeOnto ('%'.toNat.toUInt8 :: done) (a :: b :: s)
  | c :: s => decodeOnto ((String.singleton c).toUTF8.toList.reverse ++ done) s
  | [] => done.reverse

/-- The text that the bytes of `s` encode, if they encode one. -/
def percentDecode? (s : List Char) : Option (List Char) :=
  (String.fromUTF8? ⟨(decodeOnto [] s).toArray⟩).map (·.toList)

end MotionScript.Url
