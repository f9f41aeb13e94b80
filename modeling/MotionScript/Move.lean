import MotionScript.Axis

/-!
# Moves of one axis

* `Move`: an axis with its target positions, delays and speed overrides. The lists are parallel:
  the n-th delay and the n-th speed belong to the n-th position, and either list may be shorter.
* `Move.legs`: the positions with what belongs to them.
* `Move.text`: a move as it is written in a script.
-/

namespace MotionScript

/-- A move of one axis through its target positions. -/
structure Move where
  axis : Axis
  /-- Target positions in controller units. -/
  positions : List Int
  /-- Delays in milliseconds. -/
  delays : List Nat
  /-- Speed overrides. -/
  speeds : List Nat
  deriving DecidableEq

/-- One target position with the delay and the speed that belong to it. -/
structure Leg where
  target : Int
  delay? : Option Nat
  speed? : Option Nat
  deriving DecidableEq

namespace Move

/-- The legs through the given positions, after those in `done`, last first. -/
def legsOnto (done : List Leg) : List Int → List Nat → List Nat → List Leg
  | [], _, _ => done.reverse
  | p :: ps, ds, ss => legsOnto (⟨p, ds.head?, ss.head?⟩ :: done) ps ds.tail ss.tail

/-- The legs of a move, in order. -/
def legs (m : Move) : List Leg := legsOnto [] m.positions m.delays m.speeds

/-- The parameters that state a leg: its target, then its delay, then its speed. -/
def legParameters (l : Leg) : List String :=
  toString l.target :: (l.delay?.map fun d => "d" ++ toString d).toList ++
    (l.speed?.map fun v => "s" ++ toString v).toList

/-- A move as it is written in a script. -/
def text (m : Move) : String :=
  m.axis.name ++ "(" ++ ",".intercalate (m.legs.flatMap legParameters) ++ ")"

theorem legsOnto_eq (done : List Leg) (ps : List Int) (ds ss : List Nat) :
    legsOnto done ps ds ss = done.reverse ++ legsOnto [] ps ds ss := by
  induction ps generalizing done ds ss with
  | nil => simp [legsOnto]
  | cons p ps ih =>
    rw [legsOnto, legsOnto, ih, ih [_]]
    simp

@[simp] theorem legsOnto_nil (ds ss : List Nat) : legsOnto [] [] ds ss = [] := rfl

@[simp] theorem legsOnto_cons (p : Int) (ps : List Int) (ds ss : List Nat) :
    legsOnto [] (p :: ps) ds ss = ⟨p, ds.head?, ss.head?⟩ :: legsOnto [] ps ds.tail ss.tail := by
  rw [legsOnto, legsOnto_eq]
  rfl

theorem length_legsOnto (ps : List Int) (ds ss : List Nat) :
    (legsOnto [] ps ds ss).length = ps.length := by
  induction ps generalizing ds ss with
  | nil => rfl
  | cons p ps ih => simp [ih]

end Move

end MotionScript
