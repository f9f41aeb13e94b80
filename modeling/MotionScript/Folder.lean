import MotionScript.Text.Split

/-!
# Folders

* `FileError`: why the text of a file cannot be had.
* `Folder`: files by name, as they stand below a working folder.
* `Folder.read`: the text that a path leads to. Outside the folder there are the root with its usual
  folders and the null device, which is empty.
-/

namespace MotionScript

/-- Why the text of a file cannot be had. -/
inductive FileError where
  | missing
  /-- The path goes on behind a file. -/
  | notFolder
  /-- The path ends at a folder. -/
  | isFolder
  /-- A name or the whole path is too long. -/
  | nameTooLong
  deriving DecidableEq

/-- The wording of an error. -/
def FileError.message : FileError → String
  | missing => "No such file or directory (os error 2)"
  | notFolder => "Not a directory (os error 20)"
  | isFolder => "Is a directory (os error 21)"
  | nameTooLong => "File name too long (os error 36)"

/-- The texts of files, by the names that lead to them. -/
structure Folder where
  files : List (List (List Char) × String)

namespace Folder

/-- Greatest length of a name in bytes. -/
def nameLimit : Nat := 255

/-- Greatest length of a path in bytes. -/
def pathLimit : Nat := 4095

/-- Where a path leads. -/
inductive Destination where
  /-- A folder, with the names that lead to it, last one first. -/
  | folder (names : List (List Char))
  /-- A folder that holds the working folder. -/
  | above
  /-- A folder, with the names that lead to it from the root, last one first. -/
  | absolute (names : List (List Char))
  | file (text : String)

/-- The name of the same folder. -/
def isHere (name : List Char) : Bool := name = [] || name = ['.']

/-- The name of the folder above. -/
def isAbove (name : List Char) : Bool := name = ['.', '.']

/-- A folder of the names and texts of its files. Slashes separate the names on the way. -/
def ofList (files : List (String × String)) : Folder :=
  ⟨files.map fun (name, text) => ((splitOn '/' name.toList).filter (!isHere ·), text)⟩

/-- What stands at the end of some names. -/
def find (f : Folder) (names : List (List Char)) : Except FileError Destination :=
  match f.files.lookup names.reverse with
  | some text => .ok (.file text)
  | none =>
    if f.files.any fun e => names.reverse.isPrefixOf e.1 then .ok (.folder names)
    else .error .missing

/-- The folders at the root. -/
def rootFolders : List String := ["bin", "dev", "etc", "home", "lib", "proc", "tmp", "usr", "var"]

/-- What stands at the end of some names from the root, last one first. -/
def findAbsolute (names : List (List Char)) : Except FileError Destination :=
  match names.map String.ofList with
  | ["null", "dev"] => .ok (.file "")
  | [name] => if rootFolders.contains name then .ok (.absolute names) else .error .missing
  | _ => .error .missing

/-- Go on from a place to a name that is neither the same folder nor the one above. -/
def enter (f : Folder) (p : Destination) (name : List Char) : Except FileError Destination :=
  if nameLimit < (String.ofList name).utf8ByteSize then .error .nameTooLong
  else
    match p with
    | .folder names => f.find (name :: names)
    | .absolute names => findAbsolute (name :: names)
    | .above | .file _ => .error .missing

/-- The folder above a place. The root is above itself. -/
def leave : Destination → Destination
  | .folder (_ :: names) => .folder names
  | .absolute names => .absolute names.tail
  | _ => .above

/-- Go on from a place to a name. -/
def step (f : Folder) (p : Destination) (name : List Char) : Except FileError Destination :=
  match p with
  | .file _ => .error .notFolder
  | p => if isHere name then .ok p else if isAbove name then .ok (leave p) else f.enter p name

/-- Where a path begins. -/
def start (path : List Char) : Destination :=
  if path.head? = some '/' then .absolute [] else .folder []

/-- The text that a path leads to. -/
def read (f : Folder) (path : String) : Except FileError String := do
  if path.isEmpty then .error .missing
  else if pathLimit < path.utf8ByteSize then .error .nameTooLong
  else
    match ← (splitOn '/' path.toList).foldlM f.step (start path.toList) with
    | .file text => .ok text
    | .folder _ | .above | .absolute _ => .error .isFolder

end Folder

end MotionScript
