import Mathlib.Algebra.GroupWithZero.Nat
import MotionScript.Proofs.Run.Chronicle
import MotionScript.Proofs.Run.Plan

/-!
# The timetable of a list of tasks

On a device that answers every text after the same time, the latency, the steps of a list of tasks
can be timed in advance. A send takes the latency and a hold its milliseconds. After a task that
sends something there is the spacing, which is a hold like any other.

* `agenda`: the steps of some tasks, with the spacing between them.
* `sendTimes`, `duration`: when the texts of some steps are sent, and when the steps are done.
* `timeAfter`: the time after some tasks and some steps, in closed form.
* `Sending`: a step of a list of tasks that sends a text.
* **`Sending.getElem?_sendTimes`**: the texts of an agenda are sent at the times in closed form.
* `Sending.time_of_group`: between the texts of a group there is the latency only.
-/

namespace MotionScript

/-- The milliseconds that some steps hold for. -/
def delaysOf (steps : List Step) : List Nat :=
  steps.filterMap fun
    | .delay ms => some ms
    | .send _ | .signal => none

/-- The steps of some tasks. What follows a task that sends something is the spacing. -/
def agenda (spacing : Nat) (todo : List Task) : List Step :=
  todo.flatMap fun t => t.steps ++ if t.texts = [] then [] else hold spacing

/-- The milliseconds that some steps take, if every text is answered after a latency. -/
def duration (latency : Nat) (steps : List Step) : Nat :=
  latency * (textsOf steps).length + (delaysOf steps).sum

/-- The texts that some steps send, each with its time, if the steps are begun at a time and every
text is answered after a latency. -/
def sendTimes (latency : Nat) : Nat → List Step → List (Nat × String)
  | _, [] => []
  | time, .send text :: steps => (time, text) :: sendTimes latency (time + latency) steps
  | time, .delay ms :: steps => sendTimes latency (time + ms) steps
  | time, .signal :: steps => sendTimes latency time steps

/-- The time after some tasks and some steps of the next one. Each text takes the latency, each hold
its milliseconds, and each of the tasks that sends something the spacing. -/
def timeAfter (latency spacing start : Nat) (tasks : List Task) (steps : List Step) : Nat :=
  start + latency * (textsOf (tasks.flatMap Task.steps ++ steps)).length +
    (delaysOf (tasks.flatMap Task.steps ++ steps)).sum +
    spacing * tasks.countP fun t => t.texts ≠ []

/-- A step of some tasks that sends a text. -/
structure Sending (todo : List Task) where
  /-- The tasks before its own. -/
  before : List Task
  task : Task
  later : List Task
  /-- The steps before it in its own task. -/
  earlier : List Step
  text : String
  rest : List Step
  todo_eq : todo = before ++ task :: later
  steps_eq : task.steps = earlier ++ .send text :: rest

namespace Sending

variable {todo : List Task}

/-- The number of texts sent before. -/
def index (x : Sending todo) : Nat := (textsOf (x.before.flatMap Task.steps ++ x.earlier)).length

/-- The time at which the text is sent. -/
def time (latency spacing start : Nat) (x : Sending todo) : Nat :=
  timeAfter latency spacing start x.before x.earlier

end Sending

section Timetable

variable {latency time spacing : Nat} {text : String} {todo : List Task} {steps steps' : List Step}

/-! ## Texts and holds of steps -/

theorem textsOf_append (steps steps' : List Step) :
    textsOf (steps ++ steps') = textsOf steps ++ textsOf steps' := List.filterMap_append

theorem delaysOf_append (steps steps' : List Step) :
    delaysOf (steps ++ steps') = delaysOf steps ++ delaysOf steps' := List.filterMap_append

theorem sum_delaysOf_hold (ms : Nat) : (delaysOf (hold ms)).sum = ms := by
  unfold hold
  split
  · next h => exact h.symm
  · rfl

theorem exists_send {k : Nat} (h : k < (textsOf steps).length) :
    ∃ earlier text rest, steps = earlier ++ .send text :: rest ∧ (textsOf earlier).length = k := by
  induction steps generalizing k with
  | nil => exact absurd h (Nat.not_lt_zero k)
  | cons s steps ih =>
    cases s with
    | send text =>
      cases k with
      | zero => exact ⟨[], text, steps, rfl, rfl⟩
      | succ k =>
        obtain ⟨earlier, text', rest, rfl, rfl⟩ := ih (Nat.lt_of_succ_lt_succ h)
        exact ⟨.send text :: earlier, text', rest, rfl, rfl⟩
    | delay ms =>
      obtain ⟨earlier, text, rest, rfl, rfl⟩ := ih h
      exact ⟨.delay ms :: earlier, text, rest, rfl, rfl⟩
    | signal =>
      obtain ⟨earlier, text, rest, rfl, rfl⟩ := ih h
      exact ⟨.signal :: earlier, text, rest, rfl, rfl⟩

/-! ## Times of steps -/

theorem duration_send (latency : Nat) (text : String) (steps : List Step) :
    duration latency (.send text :: steps) = latency + duration latency steps := by
  have htexts : textsOf (.send text :: steps) = text :: textsOf steps := rfl
  have hdelays : delaysOf (.send text :: steps) = delaysOf steps := rfl
  rw [duration, duration, htexts, hdelays, List.length_cons, Nat.mul_succ]
  omega

theorem duration_delay (latency ms : Nat) (steps : List Step) :
    duration latency (.delay ms :: steps) = ms + duration latency steps := by
  have htexts : textsOf (.delay ms :: steps) = textsOf steps := rfl
  have hdelays : delaysOf (.delay ms :: steps) = ms :: delaysOf steps := rfl
  rw [duration, duration, htexts, hdelays, List.sum_cons]
  omega

theorem duration_signal (latency : Nat) (steps : List Step) :
    duration latency (.signal :: steps) = duration latency steps := rfl

theorem sendTimes_append (latency time : Nat) (steps steps' : List Step) :
    sendTimes latency time (steps ++ steps') =
      sendTimes latency time steps ++
        sendTimes latency (time + duration latency steps) steps' := by
  induction steps generalizing time with
  | nil => rfl
  | cons s steps ih =>
    cases s with
    | send text =>
      rw [List.cons_append, sendTimes, ih, sendTimes, duration_send, Nat.add_assoc]
      rfl
    | delay ms => rw [List.cons_append, sendTimes, ih, sendTimes, duration_delay, Nat.add_assoc]
    | signal => rw [List.cons_append, sendTimes, ih, sendTimes, duration_signal]

theorem length_sendTimes (latency time : Nat) (steps : List Step) :
    (sendTimes latency time steps).length = (textsOf steps).length := by
  induction steps generalizing time with
  | nil => rfl
  | cons s steps ih =>
    cases s with
    | send text => exact congrArg (· + 1) (ih _)
    | delay | signal => exact ih _

theorem le_of_mem_sendTimes {d : Nat × String} (h : d ∈ sendTimes latency time steps) :
    time ≤ d.1 := by
  induction steps generalizing time with
  | nil => cases h
  | cons s steps ih =>
    cases s with
    | send text =>
      rcases List.mem_cons.1 h with rfl | h
      · exact Nat.le_refl _
      · exact Nat.le_of_add_right_le (ih h)
    | delay ms => exact Nat.le_of_add_right_le (ih h)
    | signal => exact ih h

/-! ## Times of tasks -/

theorem agenda_cons (spacing : Nat) (t : Task) (later : List Task) :
    agenda spacing (t :: later) =
      t.steps ++ (if t.texts = [] then [] else hold spacing) ++ agenda spacing later :=
  List.flatMap_cons

theorem agenda_append (spacing : Nat) (todo todo' : List Task) :
    agenda spacing (todo ++ todo') = agenda spacing todo ++ agenda spacing todo' :=
  List.flatMap_append

theorem textsOf_agenda (spacing : Nat) (todo : List Task) :
    textsOf (agenda spacing todo) = textsOf (todo.flatMap Task.steps) := by
  induction todo with
  | nil => rfl
  | cons t later ih =>
    have hspacing : textsOf (if t.texts = [] then [] else hold spacing) = [] := by
      split
      · rfl
      · exact textsOf_hold _
    rw [agenda_cons, List.flatMap_cons, textsOf_append, textsOf_append, hspacing, ih,
      textsOf_append, List.append_nil]

/-- What tasks take over their steps is the spacing, once for each that sends something. -/
theorem sum_delaysOf_agenda (spacing : Nat) (todo : List Task) :
    (delaysOf (agenda spacing todo)).sum =
      (delaysOf (todo.flatMap Task.steps)).sum + spacing * todo.countP fun t => t.texts ≠ [] := by
  induction todo with
  | nil => rfl
  | cons t later ih =>
    have hspacing : (delaysOf (if t.texts = [] then [] else hold spacing)).sum =
        spacing * if t.texts ≠ [] then 1 else 0 := by
      by_cases ht : t.texts = []
      · simp [ht, delaysOf]
      · simp [ht, sum_delaysOf_hold]
    simp only [agenda_cons, List.flatMap_cons, delaysOf_append, List.sum_append, hspacing, ih,
      List.countP_cons, decide_eq_true_eq, Nat.mul_add]
    omega

theorem timeAfter_eq (latency spacing start : Nat) (tasks : List Task) (steps : List Step) :
    timeAfter latency spacing start tasks steps =
      start + duration latency (agenda spacing tasks ++ steps) := by
  simp only [timeAfter, duration, textsOf_append, textsOf_agenda, delaysOf_append, List.sum_append,
    sum_delaysOf_agenda]
  omega

/-- Only a command that waits for the signal has a step that does. -/
theorem signal_notMem_steps {t : Task} (h : t.command.instruction ≠ .wait) :
    .signal ∉ t.steps :=
  fun hm => h (instruction_eq_of_signal_mem t.planned hm)

theorem signal_notMem_agenda (spacing : Nat)
    (h : ∀ t ∈ todo, t.command.instruction ≠ .wait) : .signal ∉ agenda spacing todo := by
  intro hm
  obtain ⟨t, ht, hm⟩ := List.mem_flatMap.1 hm
  rcases List.mem_append.1 hm with hm | hm
  · exact signal_notMem_steps (h t ht) hm
  · split at hm
    · cases hm
    · exact signal_notMem_hold _ hm

end Timetable

namespace Sending

variable {todo : List Task}

/-- **The texts of an agenda are sent at the times in closed form.** -/
theorem getElem?_sendTimes (x : Sending todo) (latency spacing start : Nat) :
    (sendTimes latency start (agenda spacing todo))[x.index]? =
      some (x.time latency spacing start, x.text) := by
  have hagenda : agenda spacing todo = (agenda spacing x.before ++ x.earlier) ++
      .send x.text :: (x.rest ++ (if x.task.texts = [] then [] else hold spacing) ++
        agenda spacing x.later) := by
    conv_lhs => rw [x.todo_eq, agenda_append, agenda_cons, x.steps_eq]
    simp only [List.append_assoc, List.cons_append]
  have hlen : (sendTimes latency start (agenda spacing x.before ++ x.earlier)).length =
      x.index := by
    rw [length_sendTimes, textsOf_append, textsOf_agenda, ← textsOf_append]
    rfl
  rw [hagenda, sendTimes_append, List.getElem?_append_right (Nat.le_of_eq hlen), hlen,
    Nat.sub_self, sendTimes, List.getElem?_cons_zero, time, timeAfter_eq]

theorem exists_index {k : Nat} (h : k < (textsOf (todo.flatMap Task.steps)).length) :
    ∃ x : Sending todo, x.index = k := by
  induction todo generalizing k with
  | nil => exact absurd h (Nat.not_lt_zero k)
  | cons t later ih =>
    rw [List.flatMap_cons, textsOf_append, List.length_append] at h
    by_cases hk : k < (textsOf t.steps).length
    · obtain ⟨earlier, text, rest, hsteps, rfl⟩ := exists_send hk
      exact ⟨⟨[], t, later, earlier, text, rest, rfl, hsteps⟩, rfl⟩
    · obtain ⟨x, hx⟩ := ih (k := k - (textsOf t.steps).length) (by omega)
      refine ⟨⟨t :: x.before, x.task, x.later, x.earlier, x.text, x.rest,
        congrArg (t :: ·) x.todo_eq, x.steps_eq⟩, ?_⟩
      change (textsOf ((t :: x.before).flatMap Task.steps ++ x.earlier)).length = k
      rw [List.flatMap_cons, List.append_assoc, textsOf_append, List.length_append]
      change _ + x.index = k
      omega

/-- Every entry of a timetable is for a text that some step of the tasks sends. -/
theorem exists_of_getElem? {latency spacing start k : Nat} {d : Nat × String}
    (h : (sendTimes latency start (agenda spacing todo))[k]? = some d) :
    ∃ x : Sending todo, x.index = k ∧ d = (x.time latency spacing start, x.text) := by
  have hlt : k < (textsOf (todo.flatMap Task.steps)).length := by
    rw [← textsOf_agenda spacing, ← length_sendTimes latency start]
    exact (List.getElem?_eq_some_iff.1 h).1
  obtain ⟨x, rfl⟩ := exists_index hlt
  exact ⟨x, rfl, Option.some.inj (h.symm.trans (x.getElem?_sendTimes latency spacing start))⟩

theorem delaysOf_of_group (x : Sending todo) {ms : List Move}
    (hms : x.task.command.instruction = .group ms) : delaysOf x.earlier = [] := by
  have hsteps : ms.filterMap Move.groupStep? ++ hold (groupDelay ms) =
      x.earlier ++ .send x.text :: x.rest := by
    rw [← x.steps_eq]
    simpa [plan, hms] using x.task.planned
  have hgroup : ∀ s ∈ ms.filterMap Move.groupStep?, ∃ text, s = .send text := by
    intro s hs
    obtain ⟨m, -, hm⟩ := List.mem_filterMap.1 hs
    obtain ⟨p, -, rfl⟩ := Option.map_eq_some_iff.1 hm
    exact ⟨_, rfl⟩
  have hprefix : ∀ s ∈ x.earlier, ∃ text, s = .send text := by
    rcases List.append_eq_append_iff.1 hsteps with ⟨l, -, hl⟩ | ⟨l, hl, -⟩
    · have hm : Step.send x.text ∈ hold (groupDelay ms) := by
        rw [hl]
        exact List.mem_append_right _ List.mem_cons_self
      exact absurd hm (send_notMem_hold _ _)
    · exact fun s hs => hgroup s (by rw [hl]; exact List.mem_append_left _ hs)
  refine List.filterMap_eq_nil_iff.2 fun s hs => ?_
  obtain ⟨text, rfl⟩ := hprefix s hs
  rfl

theorem time_of_group {x y : Sending todo} {ms : List Move} (latency spacing start : Nat)
    (hxy : x.before = y.before) (hms : x.task.command.instruction = .group ms)
    (hle : x.index ≤ y.index) :
    y.time latency spacing start =
      x.time latency spacing start + latency * (y.index - x.index) := by
  have htask : x.task = y.task := by
    have htodo := x.todo_eq.symm.trans y.todo_eq
    rw [hxy] at htodo
    exact (List.cons.inj (List.append_cancel_left htodo)).1
  have hx := x.delaysOf_of_group hms
  have hy := y.delaysOf_of_group (htask ▸ hms)
  have htime (z : Sending todo) (hz : delaysOf z.earlier = []) : z.time latency spacing start =
      start + latency * z.index + (delaysOf (z.before.flatMap Task.steps)).sum +
        spacing * z.before.countP fun t => t.texts ≠ [] := by
    rw [time, timeAfter, delaysOf_append, hz, List.append_nil]
    rfl
  have hmul : latency * y.index = latency * x.index + latency * (y.index - x.index) := by
    rw [← Nat.mul_add, Nat.add_sub_cancel' hle]
  rw [htime y hy, htime x hx, ← hxy, hmul]
  omega

end Sending

end MotionScript
