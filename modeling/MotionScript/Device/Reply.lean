import MotionScript.Json.Reader

/-!
# Replies of a controller

* `Reply`: whether a controller accepted a command, with a message, an optional payload and the
  number of retries that were needed.
* `Reply.decode?`: the reply of a response body, an object or the same members by position. Only
  `success` is required; an unknown member is stepped over and a known one may stand only once.
-/

namespace MotionScript

/-- The reply of a controller to a command. -/
structure Reply where
  /-- Whether the command was accepted. -/
  success : Bool
  message : String
  data? : Option Json
  /-- Number of retries the sender needed. -/
  retries : Nat

namespace Reply

/-- A command is accepted. -/
def accepted (message : String) : Reply := ⟨true, message, none, 0⟩

/-- A command is rejected. -/
def rejected (message : String) : Reply := ⟨false, message, none, 0⟩

/-- A reply as a line of text. -/
def text (r : Reply) : String :=
  (if r.success then "Accepted" else "Rejected") ++ " (" ++ r.message ++ "); Retries: " ++
    toString r.retries

/-- A reply as JSON. The retries are the sender's and not part of it. -/
def toJson (r : Reply) : Json :=
  .obj ([("success", .bool r.success), ("message", .str r.message)] ++
    (r.data?.map fun d => ("data", d)).toList)

/-! ## Decoding -/

/-- The members of a reply read so far. -/
structure Draft where
  success : Option Bool
  message : Option String
  data : Option (Option Json)

/-- The reply of the members read, if there are enough. -/
def Draft.reply? (d : Draft) : Option Reply :=
  d.success.map fun s => ⟨s, d.message.getD "", d.data.getD none, 0⟩

/-- A truth value at the start of a text. -/
def truth? (s : List Char) : Option (Bool × List Char) :=
  match Json.skipSpace s with
  | 't' :: s => (Json.word? ['r', 'u', 'e'] s).map (true, ·)
  | 'f' :: s => (Json.word? ['a', 'l', 's', 'e'] s).map (false, ·)
  | _ => none

/-- A string at the start of a text. -/
def message? (s : List Char) : Option (String × List Char) :=
  match Json.skipSpace s with
  | '"' :: s => Json.string? s
  | _ => none

/-- A payload at the start of a text. It stands one level deep already; `null` is no payload. -/
def payload? (s : List Char) : Option (Option Json × List Char) :=
  match Json.skipSpace s with
  | 'n' :: s => (Json.word? ['u', 'l', 'l'] s).map (none, ·)
  | s => (Json.value? (2 * s.length + 2) (Json.depthLimit - 2) s).map fun (j, s) => (some j, s)

/-- Read the value of a member into a draft. -/
def Draft.put? (d : Draft) (key : String) (s : List Char) : Option (Draft × List Char) :=
  if key = "success" then
    if d.success.isSome then none
    else (truth? s).map fun (b, s) => ({ d with success := some b }, s)
  else if key = "message" then
    if d.message.isSome then none
    else (message? s).map fun (t, s) => ({ d with message := some t }, s)
  else if key = "data" then
    if d.data.isSome then none
    else (payload? s).map fun (j, s) => ({ d with data := some j }, s)
  else (Json.skip? s).map (d, ·)

/-- The members of an object, up to the closing brace. -/
def members? (fuel : Nat) (d : Draft) (s : List Char) : Option (Draft × List Char) :=
  match fuel with
  | 0 => none
  | fuel + 1 =>
    match Json.skipSpace s with
    | '"' :: s => do
      let (key, s) ← Json.key? s
      let (d, s) ← d.put? key s
      match Json.skipSpace s with
      | ',' :: s => members? fuel d s
      | '\x7d' :: s => some (d, s)
      | _ => none
    | _ => none

/-- The members by position, up to the closing bracket. -/
def items? (keys : List String) (d : Draft) (s : List Char) : Option (Draft × List Char) :=
  match keys with
  | [] => none
  | key :: keys => do
    let (d, s) ← d.put? key s
    match Json.skipSpace s with
    | ']' :: s => some (d, s)
    | ',' :: s => items? keys d s
    | _ => none

/-- The members of a body, and what follows it. -/
def draft? (s : List Char) : Option (Draft × List Char) :=
  match Json.skipSpace s with
  | '[' :: s => items? ["success", "message", "data"] ⟨none, none, none⟩ s
  | '\x7b' :: s =>
    match Json.skipSpace s with
    | '\x7d' :: s => some (⟨none, none, none⟩, s)
    | s => members? (s.length + 1) ⟨none, none, none⟩ s
  | _ => none

/-- The reply of a response body. -/
def decode? (body : String) : Option Reply := do
  let (d, s) ← draft? body.toList
  if (Json.skipSpace s).isEmpty then d.reply? else none

end Reply

end MotionScript
