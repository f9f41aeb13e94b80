/-!
# TOML values

* `Toml`: the values. A table remembers how it was written, since that decides who may add to it.
* `Toml.descend`: change the table at the end of a path of keys, creating tables on the way.
* `Toml.put`, `Toml.openTable`, `Toml.openItem`: a key with its value, and the two kinds of header.
  Nothing is ever defined twice.
-/

namespace MotionScript

/-- How a table came to be. -/
inductive TableKind where
  /-- By its own header. -/
  | header
  /-- By the header of a table below it. -/
  | implied
  /-- By a dotted key. -/
  | dotted
  /-- Between braces. It is complete as it stands. -/
  | closed
  deriving DecidableEq

/-- A TOML value. -/
inductive Toml where
  | string (s : String)
  | integer (i : Int)
  | float (x : Float)
  | boolean (b : Bool)
  /-- A date, a time, or both. -/
  | datetime
  | array (items : List Toml)
  | table (kind : TableKind) (entries : List (String × Toml))
  /-- The tables of a repeated header. -/
  | tables (items : List Toml)

namespace Toml

instance : Inhabited Toml := ⟨.boolean false⟩

/-- The entries of a table, by key. -/
abbrev Entries := List (String × Toml)

/-- The table that a change is made to: its kind and its entries. -/
abbrev Target := TableKind × Entries

/-- Replace the value of a key. -/
def replace (key : String) (v : Toml) (es : Entries) : Entries :=
  es.map fun e => if e.1 == key then (key, v) else e

/-- Change the table at the end of a path. A path of a dotted key may not enter a table that has
its own header. -/
def descend (dotted : Bool) (change : Target → Option Target) :
    List String → Target → Option Target
  | [], t => change t
  | key :: path, (kind, es) =>
    match es.lookup key with
    | none => do
      let (k, inner) ← descend dotted change path (if dotted then .dotted else .implied, [])
      return (kind, es ++ [(key, table k inner)])
    | some (table k inner) =>
      if k = .closed ∨ (dotted ∧ k = .header) then none
      else do
        let (k, inner) ← descend dotted change path (k, inner)
        return (kind, replace key (table k inner) es)
    | some (tables items) =>
      match items.getLast? with
      | some (table k inner) => do
        let (k, inner) ← descend dotted change path (k, inner)
        return (kind, replace key (tables (items.dropLast ++ [table k inner])) es)
      | _ => none
    | some _ => none

/-- Add a key with its value. Where a dotted key leads there, the table has to be made by dotted
keys only. -/
def add (dotted : Bool) (key : String) (v : Toml) : Target → Option Target
  | (kind, es) =>
    if dotted = (kind = .dotted) ∧ (es.lookup key).isNone then some (kind, es ++ [(key, v)])
    else none

/-- Add a value under a dotted key. -/
def put (path : List String) (key : String) (v : Toml) (t : Target) : Option Target :=
  descend true (add (!path.isEmpty) key v) path t

/-- Open the table of a header. -/
def openTable (path : List String) (key : String) (t : Target) : Option Target :=
  descend false (fun (kind, es) =>
    match es.lookup key with
    | none => some (kind, es ++ [(key, table .header [])])
    | some (table .implied inner) => some (kind, replace key (table .header inner) es)
    | some _ => none) path t

/-- Open a further table of a repeated header. -/
def openItem (path : List String) (key : String) (t : Target) : Option Target :=
  descend false (fun (kind, es) =>
    match es.lookup key with
    | none => some (kind, es ++ [(key, tables [table .header []])])
    | some (tables items) => some (kind, replace key (tables (items ++ [table .header []])) es)
    | some _ => none) path t

end Toml

end MotionScript
