/-!
# JSON values

* `Json`: the values. Whole numbers are exact, all others are doubles; an object keeps its members
  in the order written.
* `Json.field?`: the member with a given name, the last one if there are several.
-/

namespace MotionScript

/-- A JSON value. -/
inductive Json where
  | null
  | bool (b : Bool)
  | int (i : Int)
  | float (x : Float)
  | str (s : String)
  | arr (items : List Json)
  | obj (members : List (String × Json))

namespace Json

instance : Inhabited Json := ⟨.null⟩

/-- A natural number. -/
def nat (n : Nat) : Json := .int n

/-- A list of texts. -/
def strs (l : List String) : Json := .arr (l.map .str)

/-- A value that may be absent. -/
def opt {α : Type} (f : α → Json) : Option α → Json
  | none => .null
  | some a => f a

/-- The member of an object named `key`; of several, the last. -/
def field? (key : String) : Json → Option Json
  | .obj members => (members.reverse.find? fun m => m.1 == key).map (·.2)
  | _ => none

end Json

end MotionScript
