import MotionScript.Run.Options
import MotionScript.Run.Task

/-!
# The sequential interpreter

What a play sends is determined by what it hears: the answers of the device, the ends of its holds
and waits, and a stop. The interpreter carries out the tasks one after the other and the steps of a
task in order, and hears one thing after the other.

* `Heard`: something that a play hears.
* `Step.outcome?`: whether a step is done or failed once something is heard.
* `Options.afterFailure`: the tasks after one that failed.
* `course`, `attempt`: the texts that tasks send, and a task from one of its steps on.
* `Attempts`, `attempts_course`: within an attempt no text is sent twice, left out or out of order.
* `course_stopped`: a play that hears a stop between two tasks sends nothing more.
-/

namespace MotionScript

/-- Something that a play hears: an answer of the device, that a hold is over, that the signal came
or did not come in time, or that the play was stopped or reset. -/
inductive Heard where
  | accepted
  /-- The device rejected a text, or the call failed. -/
  | refused
  | elapsed
  | signalled
  | timedOut
  | stopped
  deriving DecidableEq

/-- Whether something heard is an answer of the device. -/
def Heard.isAnswer : Heard → Bool
  | accepted | refused => true
  | elapsed | signalled | timedOut | stopped => false

/-- Whether a step is done or failed once something is heard. Otherwise it is broken off. -/
def Step.outcome? : Step → Heard → Option Bool
  | send _, .accepted | delay _, .elapsed | signal, .signalled => some true
  | send _, .refused | signal, .timedOut => some false
  | _, _ => none

/-- What a step sends, with the greatest number of retries. -/
def Step.sends (maxRetries : Nat) : Step → List (String × Nat)
  | send text => [(text, maxRetries)]
  | delay _ | signal => []

/-- The tasks after one that failed: it is tried again, once the play goes on, or skipped, or it was
the last. -/
def Options.afterFailure (o : Options) (t : Task) (later : List Task) : List Task :=
  if o.pauseOnError then t :: later else if o.skipErrors then later else []

mutual

/-- What a list of tasks sends. -/
def course (o : Options) (todo : List Task) (hs : List Heard) : List (String × Nat) :=
  match todo with
  | [] => []
  | t :: later => attempt o t later t.steps hs
termination_by (hs.length, todo.length, 0)

/-- What a task sends from some of its steps on, and the tasks after it. A stop breaks it off before
a step. -/
def attempt (o : Options) (t : Task) (later : List Task) (steps : List Step) (hs : List Heard) :
    List (String × Nat) :=
  match steps, hs with
  | [], hs => course o later hs
  | s :: _, [] => s.sends o.maxRetries
  | _ :: _, .stopped :: _ => []
  | s :: steps, h :: hs =>
    s.sends o.maxRetries ++
      match s.outcome? h with
      | some true => attempt o t later steps hs
      | some false => course o (o.afterFailure t later) hs
      | none => []
termination_by (hs.length, later.length, 1)

end

/-- What is sent after a step was begun. -/
def await (o : Options) (t : Task) (later : List Task) (s : Step) (steps : List Step) :
    List Heard → List (String × Nat)
  | [] => []
  | h :: hs =>
    match s.outcome? h with
    | some true => attempt o t later steps hs
    | some false => course o (o.afterFailure t later) hs
    | none => []

/-- Texts that are sent in attempts. In an attempt no text is sent twice, left out or out of order:
it sends what the first of the steps of a task send. After one that is completed come the tasks
after it, after one that failed those that the options ask for. -/
inductive Attempts (o : Options) : List Task → List (String × Nat) → Prop where
  | nil : Attempts o [] []
  /-- The task is not done yet, or a stop broke it off. -/
  | broken (t : Task) (later : List Task) (n : Nat) :
    Attempts o (t :: later) ((t.steps.take n).flatMap (Step.sends o.maxRetries))
  | completed (t : Task) {later : List Task} {texts : List (String × Nat)} :
    Attempts o later texts →
    Attempts o (t :: later) (t.steps.flatMap (Step.sends o.maxRetries) ++ texts)
  | failed (t : Task) {later : List Task} (n : Nat) {texts : List (String × Nat)} :
    Attempts o (o.afterFailure t later) texts →
    Attempts o (t :: later) ((t.steps.take n).flatMap (Step.sends o.maxRetries) ++ texts)

section Laws

variable {o : Options} {t : Task} {later : List Task} {s : Step} {steps : List Step}
  {hs : List Heard}

@[simp] theorem course_nil : course o [] hs = [] := by rw [course]

theorem course_cons : course o (t :: later) hs = attempt o t later t.steps hs := by rw [course]

@[simp] theorem attempt_nil : attempt o t later [] hs = course o later hs := by
  cases hs <;> rw [attempt]

theorem attempt_cons (h : hs.head? ≠ some .stopped) :
    attempt o t later (s :: steps) hs = s.sends o.maxRetries ++ await o t later s steps hs := by
  cases hs with
  | nil => rw [attempt, await, List.append_nil]
  | cons h' hs =>
    rw [attempt, await]
    simpa using h

theorem attempt_cons_stopped : attempt o t later (s :: steps) (.stopped :: hs) = [] := by
  rw [attempt]

theorem await_stopped : await o t later s steps (.stopped :: hs) = [] := by
  cases s <;> rfl

theorem attempt_cons_of_sends (h : s.sends o.maxRetries = []) :
    attempt o t later (s :: steps) hs = await o t later s steps hs := by
  by_cases hh : hs.head? = some .stopped
  · obtain ⟨hs', rfl⟩ : ∃ hs', hs = .stopped :: hs' := by
      cases hs <;> simp_all
    rw [attempt_cons_stopped, await_stopped]
  · rw [attempt_cons hh, h, List.nil_append]

theorem await_delay (ms ms' : Nat) :
    await o t later (.delay ms) steps hs = await o t later (.delay ms') steps hs := by
  cases hs with
  | nil => rfl
  | cons h hs => cases h <;> rfl

/-- What an attempt sends is what the first of its steps send, and what is sent after it. It was
broken off, or completed, or it failed, which it does only once something is heard. -/
theorem attempt_eq_take (o : Options) (t : Task) (later : List Task) (steps : List Step)
    (hs : List Heard) : ∃ n,
      attempt o t later steps hs = (steps.take n).flatMap (Step.sends o.maxRetries) ∨
      (∃ hs', hs'.length ≤ hs.length ∧ attempt o t later steps hs =
        steps.flatMap (Step.sends o.maxRetries) ++ course o later hs') ∨
      ∃ hs', hs'.length < hs.length ∧ attempt o t later steps hs =
        (steps.take n).flatMap (Step.sends o.maxRetries) ++
          course o (o.afterFailure t later) hs' := by
  induction steps generalizing hs with
  | nil => exact ⟨0, .inr (.inl ⟨hs, Nat.le_refl _, by simp⟩)⟩
  | cons s steps ih =>
    by_cases hh : hs.head? = some .stopped
    · obtain ⟨hs', rfl⟩ : ∃ hs', hs = .stopped :: hs' := by
        cases hs <;> simp_all
      exact ⟨0, .inl attempt_cons_stopped⟩
    · rw [attempt_cons hh]
      cases hs with
      | nil => exact ⟨1, .inl (by simp [await])⟩
      | cons h hs =>
        simp only [await]
        split
        · obtain ⟨n, e | ⟨hs', hlt, e⟩ | ⟨hs', hlt, e⟩⟩ := ih hs
          · exact ⟨n + 1, .inl (by simp [e])⟩
          · exact ⟨n + 1, .inr (.inl ⟨hs', Nat.le_succ_of_le hlt, by simp [e]⟩)⟩
          · exact ⟨n + 1, .inr (.inr ⟨hs', Nat.lt_succ_of_lt hlt, by simp [e]⟩)⟩
        · exact ⟨1, .inr (.inr ⟨hs, Nat.lt_succ_self _, by simp⟩)⟩
        · exact ⟨1, .inl (by simp)⟩

/-- What tasks send is sent in attempts. A failed one takes something that is heard, a completed one
a task. -/
theorem attempts_course (o : Options) (todo : List Task) (hs : List Heard) :
    Attempts o todo (course o todo hs) := by
  cases todo with
  | nil =>
    rw [course_nil]
    exact .nil
  | cons t later =>
    rw [course_cons]
    obtain ⟨n, e | ⟨hs', hlt, e⟩ | ⟨hs', hlt, e⟩⟩ := attempt_eq_take o t later t.steps hs <;> rw [e]
    · exact .broken t later n
    · exact .completed t (attempts_course o later hs')
    · exact .failed t n (attempts_course o (o.afterFailure t later) hs')
termination_by (hs.length, todo.length)
decreasing_by
  · rcases Nat.lt_or_eq_of_le hlt with hlt | hlt
    · exact .left _ _ hlt
    · exact hlt ▸ .right _ (Nat.lt_succ_self _)
  · exact .left _ _ hlt

theorem course_stopped (o : Options) (todo : List Task) (hs : List Heard) :
    course o todo (.stopped :: hs) = [] := by
  induction todo with
  | nil => exact course_nil
  | cons t later ih =>
    rw [course_cons]
    cases t.steps with
    | nil => rw [attempt_nil, ih]
    | cons s steps => exact attempt_cons_stopped

theorem attempt_stopped : attempt o t later steps (.stopped :: hs) = [] := by
  cases steps with
  | nil => rw [attempt_nil, course_stopped]
  | cons s steps => exact attempt_cons_stopped

theorem await_cons_stopped (h : Heard) :
    await o t later s steps (h :: .stopped :: hs) = [] := by
  simp only [await]
  split
  · exact attempt_stopped
  · exact course_stopped _ _ _
  · rfl

end Laws

end MotionScript
