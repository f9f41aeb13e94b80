import MotionScript.Run.Schedule

/-!
# Abandoned runs

A run that began before the last reset compares its epoch with that of the runner wherever it could
write something. Whatever lets it go on, it ends, and nothing but its end is noted.

* **`goOn_abandoned`**: an abandoned run that goes on ends with a reset and changes nothing else.
-/

namespace MotionScript

namespace Runner

variable {run : Run} {r : Runner}

theorem finish_abandoned (he : run.epoch ≠ r.epoch) (outcome : Except Failure Unit) :
    r.finish run outcome = r.note (.ended run.id (.error .reset)) :=
  if_neg he

theorem conclude_abandoned (he : run.epoch ≠ r.epoch) (a : Attempt) (ending : Ending) :
    r.conclude run a ending = r.note (.ended run.id (.error .reset)) := by
  unfold conclude
  rw [if_pos he, finish_abandoned he]

theorem advance_abandoned (he : run.epoch ≠ r.epoch) (hc : r.control ≠ .pause)
    (todo : List Task) : r.advance run todo = r.note (.ended run.id (.error .reset)) := by
  cases h : r.control with
  | pause => exact absurd h hc
  | stop => cases todo <;> simp only [advance, h, finish_abandoned he]
  | run => cases todo <;> simp only [advance, h, if_pos he, finish_abandoned he]

theorem not_mayGoOn (he : run.epoch ≠ r.epoch) : ¬ r.MayGoOn run := fun h => he h.2

theorem resume_abandoned (he : run.epoch ≠ r.epoch) (a : Attempt) :
    r.resume run a = r.note (.ended run.id (.error .reset)) := by
  unfold resume
  split
  · rw [if_neg fun h => not_mayGoOn he h.2.2, conclude_abandoned he]
  · rw [if_neg (not_mayGoOn he), conclude_abandoned he]

theorem hear_abandoned (he : run.epoch ≠ r.epoch) (a : Attempt) (text : String)
    (reply : Except Fault Reply) :
    r.hear run a text reply = r.note (.ended run.id (.error .reset)) := by
  unfold hear
  split
  · exact conclude_abandoned he ..
  · split
    · exact resume_abandoned he _
    · exact conclude_abandoned he ..

/-- A wait that does not take the next signal leaves the slot to the wait that does. -/
theorem leaveWait_abandoned (he : run.epoch ≠ r.epoch) (a : Attempt) {wait : Nat}
    (hs : r.slot ≠ some wait) (w : Wake) :
    r.leaveWait run a wait w = r.note (.ended run.id (.error .reset)) := by
  have hd : r.disarm wait = r := by rw [disarm, if_neg hs]
  unfold leaveWait
  rw [hd, if_pos he, conclude_abandoned he]

/-- An abandoned run that something lets go on ends, and changes nothing else. -/
theorem goOn_abandoned {b : Blocked} {w : Wake} (he : run.epoch ≠ r.epoch) (ha : r.allows run b w)
    (hs : ∀ a wait d told, b = .waiting a wait d told → r.slot ≠ some wait) :
    (r.without run.id).goOn run b w = (r.without run.id).note (.ended run.id (.error .reset)) := by
  have he : run.epoch ≠ (r.without run.id).epoch := he
  cases b with
  | paused todo =>
    have hp : (r.without run.id).control ≠ .pause := by
      cases w <;> simp [allows] at ha
      exact ha
    exact advance_abandoned he hp todo
  | calling a text =>
    cases w with
    | answered reply => exact hear_abandoned he a text reply
    | elapsed | signalled | released => simp [allows] at ha
  | holding a d =>
    cases w with
    | elapsed => exact resume_abandoned he a
    | answered reply | signalled | released => exact conclude_abandoned he a .interrupted
  | spacing a d => exact conclude_abandoned he a .done
  | waiting a wait d told => exact leaveWait_abandoned he a (hs a wait d told rfl) w

end Runner

end MotionScript
