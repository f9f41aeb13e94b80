import MotionScript.Text.Split
import MotionScript.Url.Percent

/-!
# Paths of URLs

* `isSlash`, `endsPath`: where the segments of a path and the path itself end.
* `segments`: the segments of a path. Those that stand for the same level or the level above are
  resolved, but the level of a drive is never left.
* `fileSegments`: the same for a file, where a drive at the start is written with a colon and
  empty segments at the start are dropped.
-/

namespace MotionScript.Url

/-- A slash of a URL; a backslash counts as one if the URL is special. -/
def isSlash (special : Bool) (c : Char) : Bool := c = '/' || (special && c = '\\')

/-- Where the path of a URL ends. -/
def endsPath (c : Char) : Bool := c = '?' || c = '#'

/-- A segment that stands for the same level. -/
def isDot (s : List Char) : Bool := (String.ofList s).toLower ∈ [".", "%2e"]

/-- A segment that stands for the level above. -/
def isDoubleDot (s : List Char) : Bool :=
  (String.ofList s).toLower ∈ ["..", "%2e.", ".%2e", "%2e%2e"]

/-- The sign after the letter of a drive. -/
def isDriveSign (c : Char) : Bool := c = ':' || c = '|'

/-- A drive: a letter and a sign. -/
def isDrive (s : List Char) : Bool :=
  match s with
  | [a, b] => a.isAlpha && isDriveSign b
  | _ => false

/-- A drive as it is written in a URL. -/
def isWrittenDrive (s : List Char) : Bool := isDrive s && s.getLast? = some ':'

/-- A drive with a colon for its sign; any other segment is kept. -/
def writeDrive (s : List Char) : List Char :=
  if isDrive s then s.take 1 ++ [':'] else s

/-- A segment whose level is never left: a drive, which a backslash may end. -/
def isKept (s : List Char) : Bool := isDrive (s.take 2) && (s.drop 2).head?.all (· = '\\')

/-- The segments on the level above, last one first. -/
def leave (done : List (List Char)) : List (List Char) :=
  match done with
  | s :: ss => if isKept s then done else ss
  | [] => []

/-- The parts of a path between its slashes. -/
def splitSlashes (special : Bool) (s : List Char) : List (List Char) :=
  splitOn '/' (s.map fun c => if isSlash special c then '/' else c)

/-- Put a segment after those in `done`, last one first. The first one of a file may be a drive. -/
def pushSegment (file : Bool) (done : List (List Char)) (s : List Char) : List (List Char) :=
  (if file && done.isEmpty then writeDrive s else s) :: done

/-- The segments of a path after those in `done`, last one first. A dot segment at the end leaves an
empty one. -/
def resolveDots (file : Bool) (done : List (List Char)) : List (List Char) → List (List Char)
  | [] => done.reverse
  | [s] =>
    if isDoubleDot s then ([] :: leave done).reverse
    else if isDot s then ([] :: done).reverse
    else (pushSegment file done s).reverse
  | s :: ss =>
    if isDoubleDot s then resolveDots file (leave done) ss
    else if isDot s then resolveDots file done ss
    else resolveDots file (pushSegment file done s) ss

/-- The segments of a path after its first slash, up to the end of the path. -/
def segmentsOf (file special : Bool) (s : List Char) : List (List Char) :=
  let path := s.takeWhile fun c => !endsPath c
  resolveDots file [] ((splitSlashes special path).map (percentEncode inPathSet))

/-- The segments of a path after its first slash. -/
def segments (special : Bool) (s : List Char) : List (List Char) := segmentsOf false special s

/-- Segments without empty ones at the start; of empty ones alone the last one is kept. -/
def dropEmpty (ss : List (List Char)) : List (List Char) :=
  match ss.dropWhile (·.isEmpty) with
  | [] => [[]]
  | ss => ss

/-- The segments of the path of a file after its first slash, and whether it begins with a drive. -/
def fileSegments (s : List Char) : List (List Char) × Bool :=
  let ss := segmentsOf true true s
  (dropEmpty ss, ss.head?.any isDrive)

/-- `s` without a slash at its start. -/
def dropSlash (special : Bool) (s : List Char) : List Char :=
  match s with
  | c :: r => if isSlash special c then r else s
  | [] => []

/-- The path of a URL with a host. Only a special URL always has one. -/
def pathAfterHost (special : Bool) (s : List Char) : List (List Char) :=
  if !special && s.head?.all endsPath then [] else segments special (dropSlash special s)

end MotionScript.Url
