import MotionScript.Run.Metrics
import MotionScript.Run.Status

/-!
# Events of a runner

* `Event`: what a runner announces while it works.
* `recent`: the last events of a list, as many as a listener is kept, and the number of older ones
  that are lost to it.
-/

namespace MotionScript

/-- What a runner announces. Times are in milliseconds. -/
inductive Event where
  | phaseChanged (phase : Phase)
  | started (index : Nat) (command : String)
  | completed (index elapsed : Nat)
  | failed (index : Nat) (error : String)
  /-- A wait for the external signal begins. -/
  | waiting (index timeout : Nat)
  /-- The external signal arrived. -/
  | signalled
  | finished (metrics : Metrics)

/-- An event as a line of text. Commands are counted from 1. -/
def Event.text : Event → String
  | phaseChanged p => s!"State changed to {p.text}"
  | started i command => s!"[{i + 1}] {command}"
  | completed i elapsed => s!"[{i + 1}] Completed in {elapsed}ms"
  | failed i error => s!"[{i + 1}] Failed: {error}"
  | waiting i timeout => s!"[{i + 1}] Waiting for signal ({timeout}ms)"
  | signalled => "Signal received"
  | finished m => s!"Finished: {m.text}"

/-- Number of events kept for a listener. -/
def eventCapacity : Nat := 64

/-- The number of events lost from a list, and the events kept. -/
def recent (l : List Event) : Nat × List Event :=
  (l.length - eventCapacity, l.drop (l.length - eventCapacity))

end MotionScript
