import MotionScript.Text.Split

/-!
# Arguments of a command line

* `OptionSpec`: an option with its long names, its letter and whether it takes a value.
* `scanOptions`: the options of a command line up to its first other argument.
* `scanAll`: the options and all other arguments, which may be mixed. After `--` every argument
  counts as one of the others.

A long name takes its value after `=` or from the next argument, a letter also from the characters
behind it. An argument that begins with a dash is no value. Letters may share a dash. An option may
be given once, unless it counts.
-/

namespace MotionScript.Cli

/-- An option. -/
structure OptionSpec where
  /-- The names after two dashes, the principal one first. -/
  names : List String
  /-- The name after a single dash. -/
  letter? : Option Char
  takesValue : Bool
  /-- Whether it may be given more than once. -/
  counts : Bool

namespace OptionSpec

/-- The principal name of an option. -/
def name (o : OptionSpec) : String := o.names.headD ""

/-- An option without a value. -/
def flag (name : String) : OptionSpec := ⟨[name], none, false, false⟩

/-- An option with a value. -/
def valued (name : String) : OptionSpec := ⟨[name], none, true, false⟩

end OptionSpec

/-- Why a command line is not carried out. -/
inductive Refusal where
  /-- Help is asked for. -/
  | help
  /-- The version is asked for, of the program or of one of its actions. -/
  | version (action? : Option String)
  /-- The command line is not understood. -/
  | invalid
  deriving DecidableEq

/-- A refusal among the arguments of an action. -/
def Refusal.within (action : String) : Refusal → Refusal
  | version _ => version (some action)
  | r => r

/-- An option as it is given. A flag has an empty value. -/
structure Given where
  name : String
  value : String

/-- What the form of an argument tells. -/
inductive ArgumentForm where
  /-- It is no option. -/
  | word
  /-- It ends the options. -/
  | terminator
  /-- It gives options. -/
  | options (given : List Given)
  /-- It gives options, and the value of the last one is the next argument. -/
  | needsValue (given : List Given) (name : String)

/-- Whether an argument begins like an option. -/
def isDashed (a : List Char) : Bool :=
  match a with
  | '-' :: _ :: _ => true
  | _ => false

/-- The options of the letters after a dash, following those in `given`, last one first. -/
def letters (specs : List OptionSpec) (given : List Given) :
    List Char → Except Refusal ArgumentForm
  | [] => .ok (.options given.reverse)
  | c :: cs =>
    if c = 'h' then .error .help
    else if c = 'V' then .error (.version none)
    else
      match specs.find? fun o => o.letter? == some c with
      | none => .error .invalid
      | some o =>
        if o.takesValue then
          match cs with
          | [] => .ok (.needsValue given.reverse o.name)
          | '=' :: v | v => .ok (.options (⟨o.name, String.ofList v⟩ :: given).reverse)
        else letters specs (⟨o.name, ""⟩ :: given) cs

/-- The option of a long name, with the value after its equals sign. -/
def longOption (specs : List OptionSpec) (a : List Char) : Except Refusal ArgumentForm :=
  let name := String.ofList (a.takeWhile (· ≠ '='))
  let value? := match a.dropWhile (· ≠ '=') with
    | _ :: v => some (String.ofList v)
    | [] => none
  if name = "help" ∧ value? = none then .error .help
  else if name = "version" ∧ value? = none then .error (.version none)
  else
    match specs.find? fun o => o.names.contains name, value? with
    | none, _ => .error .invalid
    | some o, some v => if o.takesValue then .ok (.options [⟨o.name, v⟩]) else .error .invalid
    | some o, none =>
      .ok (if o.takesValue then .needsValue [] o.name else .options [⟨o.name, ""⟩])

/-- The form of an argument. -/
def form (specs : List OptionSpec) (a : String) : Except Refusal ArgumentForm :=
  match a.toList with
  | ['-', '-'] => .ok .terminator
  | '-' :: '-' :: a => longOption specs a
  | '-' :: c :: a => letters specs [] (c :: a)
  | _ => .ok .word

/-- The options up to the first other argument, and the arguments from there on. -/
def scanOptions (specs : List OptionSpec) :
    List String → Except Refusal (List Given × List String)
  | [] => .ok ([], [])
  | a :: rest => do
    match ← form specs a with
    | .word => return ([], a :: rest)
    | .terminator => .error .invalid
    | .options given =>
      let (more, rest) ← scanOptions specs rest
      return (given ++ more, rest)
    | .needsValue given name =>
      match rest with
      | [] => .error .invalid
      | v :: rest =>
        if isDashed v.toList then .error .invalid
        else
          let (more, rest) ← scanOptions specs rest
          return (given ++ ⟨name, v⟩ :: more, rest)

/-- The options and the other arguments. -/
def scanAll (specs : List OptionSpec) : List String → Except Refusal (List Given × List String)
  | [] => .ok ([], [])
  | a :: rest => do
    match ← form specs a with
    | .word =>
      let (more, words) ← scanAll specs rest
      return (more, a :: words)
    | .terminator => return ([], rest)
    | .options given =>
      let (more, words) ← scanAll specs rest
      return (given ++ more, words)
    | .needsValue given name =>
      match rest with
      | [] => .error .invalid
      | v :: rest =>
        if isDashed v.toList then .error .invalid
        else
          let (more, words) ← scanAll specs rest
          return (given ++ ⟨name, v⟩ :: more, words)

/-- Whether no option is given too often. -/
def isProper (specs : List OptionSpec) (given : List Given) : Bool :=
  specs.all fun o => o.counts || given.countP (·.name == o.name) ≤ 1

/-- Whether an option is given. -/
def isGiven (name : String) (given : List Given) : Bool := given.any (·.name == name)

/-- The value of an option, if it is given. -/
def value? (name : String) (given : List Given) : Option String :=
  (given.find? (·.name == name)).map (·.value)

end MotionScript.Cli
