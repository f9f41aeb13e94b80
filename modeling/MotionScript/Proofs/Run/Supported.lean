import MotionScript.Proofs.Run.Written

/-!
# No run meets a command that it cannot carry out

Tasks are loaded with their plans, so what is left to fail is the device and the signal.

* `Failure.Supported`, `Entry.Supported`: no command is of a kind that cannot be executed.
* `Supports`: what is written between two states of a runner tells of no such command. It is proved
  for each part of a transition, and `supports_step` for every input.
* **`Reachable.supported`**: nothing in a journal tells of such a command.
-/

namespace MotionScript

/-- A failure other than that a command cannot be executed. -/
def Failure.Supported : Failure → Prop
  | unsupported _ => False
  | _ => True

/-- An outcome other than that a command cannot be executed. -/
def SupportedOutcome {α : Type} : Except Failure α → Prop
  | .ok _ => True
  | .error e => e.Supported

/-- The task in progress does not end because it cannot be executed. -/
def Ending.Supported : Ending → Prop
  | failed e => e.Supported
  | done | interrupted => True

/-- The failure of a task or of a play is not that a command cannot be executed. -/
def Entry.Supported : Entry → Prop
  | .event (.failed _ error) => ∃ (t : Task) (e : Failure),
    error = Runner.failureText t e ∧ e.Supported
  | .ended _ outcome => SupportedOutcome outcome
  | _ => True

namespace Runner

/-- All that is written between two states of a runner is `Entry.Supported`. -/
abbrev Supports : Runner → Runner → Prop := Adds Entry.Supported

section Supports

variable {run : Run} {r r' : Runner}

theorem Supports.finish (h : Supports r r') {outcome : Except Failure Unit}
    (ho : SupportedOutcome outcome) : Supports r (r'.finish run outcome) := by
  unfold Runner.finish
  split
  · refine Adds.note (Adds.emit (Adds.setPhase (h.trans (.of_eq rfl)) trivial) trivial) ?_
    cases outcome with
    | ok => exact trivial
    | error e => exact ho
  · exact Adds.note h trivial

theorem Supports.begin (h : Supports r r') (t : Task) : Supports r (r'.begin t) :=
  Adds.begin h t (fun _ => trivial) trivial

theorem Supports.complete (h : Supports r r') (a : Attempt) : Supports r (r'.complete run a) :=
  Adds.complete h a fun _ _ => trivial

theorem Supports.fail (h : Supports r r') (a : Attempt) {e : Failure} (he : e.Supported) :
    Supports r (r'.fail run a e) :=
  Adds.fail h a e ⟨a.task, e, rfl, he⟩

theorem Supports.perform (h : Supports r r') (a : Attempt) (s : Step) :
    Supports r (r'.perform run a s) :=
  Adds.perform h a (fun _ => trivial) (fun _ _ => trivial) fun _ _ => trivial

theorem Supports.endWait (h : Supports r r') (w : Wake) : Supports r (r'.endWait w) :=
  Adds.endWait h (fun _ => trivial) fun _ => trivial

theorem Supports.advance (h : Supports r r') (todo : List Task) :
    Supports r (r'.advance run todo) := by
  fun_induction Runner.advance run todo r' with
  | case1 todo r' => exact h.trans (.of_eq rfl)
  | case2 todo r' | case3 todo r' | case4 r' => exact h.finish trivial
  | case5 r' _ _ t later _ ih => exact ih ((h.begin t).complete _)
  | case6 r' _ _ t later s steps => exact (h.begin t).perform _ s

theorem Supports.afterFailure (h : Supports r r') (a : Attempt) {e : Failure} (he : e.Supported) :
    Supports r (r'.afterFailure run a e) := by
  have hf : Supports r (r'.fail run a e) := h.fail a he
  simp only [Runner.afterFailure]
  split
  · split
    · exact hf.advance _
    · refine Supports.advance (Adds.setPhase ?_ trivial) _
      exact hf.trans (.of_eq rfl)
  · split
    · refine Supports.advance ?_ _
      exact hf.trans (.of_eq rfl)
    · exact hf.finish he

theorem Supports.conclude (h : Supports r r') (a : Attempt) {ending : Ending}
    (he : ending.Supported) : Supports r (r'.conclude run a ending) := by
  unfold Runner.conclude
  split
  · exact h.finish trivial
  · cases ending with
    | done => exact (h.complete a).advance _
    | interrupted => exact h.advance _
    | failed e => exact h.afterFailure a he

theorem Supports.resume (h : Supports r r') (a : Attempt) : Supports r (r'.resume run a) := by
  unfold Runner.resume
  split
  · split
    · exact h.trans (.of_eq rfl)
    · exact h.conclude a trivial
  · split
    · exact h.perform _ _
    · exact h.conclude a trivial

/-- An answer of the device may make a task fail. -/
theorem Supports.hear (h : Supports r r') (a : Attempt) (text : String)
    (reply : Except Fault Reply) : Supports r (r'.hear run a text reply) := by
  unfold Runner.hear
  split
  · exact h.conclude a trivial
  · split
    · exact h.resume _
    · exact h.conclude a trivial

theorem Supports.leaveWait (h : Supports r r') (a : Attempt) (wait : Nat) (w : Wake) :
    Supports r (r'.leaveWait run a wait w) := by
  have hd : Supports r (r'.disarm wait) := h.trans (.of_eq rfl)
  unfold Runner.leaveWait
  dsimp only
  split
  · exact hd.conclude a trivial
  · cases w with
    | signalled => exact (hd.endWait _).resume a
    | elapsed => exact (hd.endWait _).conclude a trivial
    | answered _ | released => exact (hd.endWait _).conclude a trivial

theorem Supports.goOn (h : Supports r r') (b : Blocked) (w : Wake) :
    Supports r (r'.goOn run b w) := by
  unfold Runner.goOn
  split
  · exact h.advance _
  · exact h.hear _ _ _
  · exact h.trans (.of_eq rfl)
  · exact h.resume _
  · exact h.conclude _ trivial
  · exact h.conclude _ trivial
  · exact h.leaveWait _ _ _

theorem Loads.supports (h : Loads r r') : Supports r r' := by
  rcases h with rfl | ⟨-, tasks, rfl⟩ <;> exact .of_eq rfl

theorem supports_launch (r : Runner) : Supports r r.launch := by
  unfold launch
  split
  · next r' hp =>
    obtain ⟨-, rfl⟩ := play_eq_ok hp
    have ho : Supports r r.opened := .of_eq rfl
    exact Supports.advance (Adds.setPhase ho trivial) _
  · next e hp =>
    have hr : Supports r { r with plays := r.plays + 1 } := .of_eq rfl
    refine Adds.note hr ?_
    unfold play at hp
    split at hp
    · cases hp
      exact trivial
    · split at hp <;> cases hp
      exact trivial

theorem supports_mode (r : Runner) {i : Input} (hi : i = .pause ∨ i = .unpause ∨ i = .stop) :
    Supports r (r.step i) := by
  rcases r.step_mode hi with e | ⟨-, -, c, e⟩ <;> rw [e]
  · exact .refl _ r
  · have hc : Supports r { r with control := c } := .of_eq rfl
    exact Adds.setPhase hc trivial

/-- No input makes a runner tell of a command that it cannot carry out. -/
theorem supports_step (r : Runner) (i : Input) : Supports r (r.step i) := by
  cases i with
  | load cs => exact (r.step_loads.1 cs).supports
  | loadCompilation c => exact (r.step_loads.2.1 c).supports
  | loadScript source => exact (r.step_loads.2.2 source).supports
  | play => exact r.supports_launch
  | pause | unpause | stop => exact r.supports_mode (by simp)
  | reset => exact Adds.emit (.of_eq rfl) trivial
  | signal =>
    simp only [step, Runner.signal]
    split <;> exact .of_eq rfl
  | setOptions o => exact .of_eq rfl
  | pass ms => exact .of_eq rfl
  | wake play w =>
    rcases r.wake_eq play w with e | ⟨run, b, -, -, -, e⟩ <;> simp only [step, e]
    · exact .refl _ r
    · have hw : Supports r (r.without play) := .of_eq rfl
      exact hw.goOn b w

/-- **No run meets a command that it cannot carry out.** -/
theorem Reachable.supported (h : r.Reachable) : ∀ e ∈ r.journal, e.Supported := by
  induction h with
  | new o => exact fun _ he => by cases he
  | @step r i _ ih =>
    obtain ⟨l, hj, hl⟩ := r.supports_step i
    intro e he
    rw [hj] at he
    rcases List.mem_append.1 he with he | he
    · exact hl e he
    · exact ih e he

end Supports

end Runner

end MotionScript
