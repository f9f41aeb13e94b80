import MotionScript.Proofs.Run.Frame
import MotionScript.Proofs.Run.Invariant

/-!
# What a run does not depend on

A run does not depend on the numbers of the plays, on whether metrics are kept, or on what was
written before. A translation changes these. What an input does to a translated runner is the
translation of what it does to the runner.

* `Translation`: how the plays are numbered, whether metrics are kept, and what was written before.
* `Translation.runner`, `Translation.input`: a runner and an input in translation.
* `runner_goOn`, `runner_launch`: a run goes on, and begins, in translation.
* **`Translation.runner_step`**, **`Translation.runner_after`**: so do every input and schedule.
-/

namespace MotionScript

/-- A change of what a run does not depend on. -/
structure Translation where
  /-- The number of a play. -/
  play : Nat → Nat
  injective : Function.Injective play
  /-- The first number from which on plays are numbered one after the other. -/
  first : Nat
  play_succ : ∀ n, first ≤ n → play (n + 1) = play n + 1
  /-- Whether metrics are kept, where they are asked for. -/
  keep : Bool
  /-- What was written before. -/
  past : List Entry

namespace Translation

/-- Plays keep their numbers. -/
def unnumbered (keep : Bool) (past : List Entry) : Translation where
  play := id
  injective := Function.injective_id
  first := 0
  play_succ _ _ := rfl
  keep := keep
  past := past

def options (T : Translation) (o : Options) : Options :=
  { o with monitoring := o.monitoring && T.keep }

def metrics (T : Translation) (m : Metrics) : Metrics := if T.keep then m else .zero

def event (T : Translation) : Event → Event
  | .finished m => .finished (T.metrics m)
  | e => e

def entry (T : Translation) : Entry → Entry
  | .event e => .event (T.event e)
  | .sent time play text maxRetries => .sent time (T.play play) text maxRetries
  | .ended play outcome => .ended (T.play play) (outcome.map T.metrics)

def run (T : Translation) (run : Run) : Run :=
  { run with id := T.play run.id, options := T.options run.options }

/-- A runner in translation. -/
def runner (T : Translation) (r : Runner) : Runner :=
  { r with
    options := T.options r.options
    metrics := T.metrics r.metrics
    plays := T.play r.plays
    runs := r.runs.map fun x => (T.run x.1, x.2)
    journal := r.journal.map T.entry ++ T.past }

/-- An input in translation. -/
def input (T : Translation) : Input → Input
  | .setOptions o => .setOptions (T.options o)
  | .wake p w => .wake (T.play p) w
  | i => i

section Parts

variable (T : Translation) {run : Run} {r : Runner}

@[simp] theorem runner_status : (T.runner r).status = r.status := rfl
@[simp] theorem runner_control : (T.runner r).control = r.control := rfl
@[simp] theorem runner_epoch : (T.runner r).epoch = r.epoch := rfl
@[simp] theorem runner_tasks : (T.runner r).tasks = r.tasks := rfl
@[simp] theorem run_epoch : (T.run run).epoch = run.epoch := rfl

theorem metrics_zero : T.metrics .zero = .zero := by
  unfold metrics
  split <;> rfl

/-! ## Parts of a transition -/

theorem runner_note (e : Entry) : T.runner (r.note e) = (T.runner r).note (T.entry e) := rfl

theorem runner_emit (e : Event) : T.runner (r.emit e) = (T.runner r).emit (T.event e) := rfl

theorem runner_block (b : Blocked) :
    T.runner (r.block run b) = (T.runner r).block (T.run run) b := by
  simp [runner, Runner.block]

theorem runner_setPhase (p : Phase) : T.runner (r.setPhase p) = (T.runner r).setPhase p := by
  unfold Runner.setPhase
  rw [runner_status]
  split <;> rfl

/-- The time of a run is kept if metrics are. -/
theorem metrics_runTime (o : Options) (m : Metrics) (time : Nat) :
    T.metrics (if o.monitoring then { m with runTime := time } else m) =
      if (T.options o).monitoring then { T.metrics m with runTime := time } else T.metrics m := by
  unfold metrics options
  cases o.monitoring <;> cases T.keep <;> rfl

theorem runner_close (outcome : Except Failure Unit) :
    T.runner (r.close run outcome) = (T.runner r).close (T.run run) outcome := by
  have key (m : Metrics) (s : Status) (p : Phase) :
      T.runner ((({ r with metrics := m, status := s }.setPhase p).emit (.finished m)).note
        (.ended run.id (outcome.map fun _ => m))) =
      (({ T.runner r with metrics := T.metrics m, status := s }.setPhase p).emit
        (.finished (T.metrics m))).note
          (.ended (T.play run.id) (outcome.map fun _ => T.metrics m)) := by
    rw [runner_note, runner_emit, runner_setPhase]
    cases outcome <;> rfl
  unfold Runner.close
  dsimp only
  rw [key, metrics_runTime]
  rfl

theorem runner_finish (outcome : Except Failure Unit) :
    T.runner (r.finish run outcome) = (T.runner r).finish (T.run run) outcome := by
  unfold Runner.finish
  rw [runner_epoch, run_epoch]
  split
  · exact T.runner_close outcome
  · rfl

theorem runner_begin (t : Task) : T.runner (r.begin t) = (T.runner r).begin t := by
  unfold Runner.begin
  rw [runner_emit, runner_setPhase]
  rfl

theorem runner_record (began : Nat) (success : Bool) :
    T.runner (r.record run began success) = (T.runner r).record (T.run run) began success := by
  unfold Runner.record runner Translation.run metrics options
  cases run.options.monitoring <;> cases T.keep <;> rfl

theorem runner_countTask (t : Task) (retries : Nat) :
    T.runner (r.countTask run t retries) = (T.runner r).countTask (T.run run) t retries := by
  unfold Runner.countTask runner Translation.run metrics options
  cases run.options.monitoring <;> cases T.keep <;> rfl

theorem runner_complete (a : Attempt) :
    T.runner (r.complete run a) = (T.runner r).complete (T.run run) a := by
  unfold Runner.complete
  rw [← runner_record, ← runner_countTask]
  rfl

theorem runner_fail (a : Attempt) (e : Failure) :
    T.runner (r.fail run a e) = (T.runner r).fail (T.run run) a e := by
  unfold Runner.fail
  rw [← runner_record]
  rfl

theorem runner_perform (a : Attempt) (s : Step) :
    T.runner (r.perform run a s) = (T.runner r).perform (T.run run) a s := by
  cases s with
  | send text => exact T.runner_block _
  | delay ms => exact T.runner_block _
  | signal =>
    unfold Runner.perform
    dsimp only
    rw [runner_block, runner_emit, runner_setPhase]
    rfl

/-! ## The course of a run -/

theorem runner_advance (todo : List Task) :
    T.runner (r.advance run todo) = (T.runner r).advance (T.run run) todo := by
  fun_induction Runner.advance run todo r with
  | case1 todo r hc =>
    rw [Runner.advance_pause (r := T.runner r) hc]
    exact T.runner_block _
  | case2 todo r hc =>
    rw [Runner.advance_stop (r := T.runner r) hc]
    exact T.runner_finish _
  | case3 todo r hc he =>
    have he' : (T.run run).epoch ≠ (T.runner r).epoch := he
    rw [Runner.finish_abandoned he, Runner.advance_abandoned he' (by simp [hc])]
    rfl
  | case4 r hc he =>
    have he' : (T.run run).epoch = (T.runner r).epoch := not_not.1 he
    rw [Runner.advance_nil (r := T.runner r) hc he']
    exact T.runner_finish _
  | case5 r hc he t later ht ih =>
    have he' : (T.run run).epoch = (T.runner r).epoch := not_not.1 he
    rw [ih, Runner.advance_cons (r := T.runner r) hc he', ht, runner_complete, runner_begin]
    rfl
  | case6 r hc he t later s steps ht =>
    have he' : (T.run run).epoch = (T.runner r).epoch := not_not.1 he
    rw [runner_perform, Runner.advance_cons (r := T.runner r) hc he', ht, runner_begin]
    rfl

theorem runner_afterFailure (a : Attempt) (e : Failure) :
    T.runner (r.afterFailure run a e) = (T.runner r).afterFailure (T.run run) a e := by
  have ho : (T.run run).options.pauseOnError = run.options.pauseOnError ∧
      (T.run run).options.skipErrors = run.options.skipErrors := ⟨rfl, rfl⟩
  simp only [Runner.afterFailure, ← runner_fail, runner_control, ho]
  split
  · split
    · exact T.runner_advance _
    · rw [runner_advance, runner_setPhase]
      rfl
  · split
    · exact T.runner_advance _
    · exact T.runner_finish _

theorem runner_conclude (a : Attempt) (ending : Ending) :
    T.runner (r.conclude run a ending) = (T.runner r).conclude (T.run run) a ending := by
  unfold Runner.conclude
  rw [runner_epoch, run_epoch]
  split
  · exact T.runner_finish _
  · cases ending with
    | done => exact (T.runner_advance _).trans (by rw [runner_complete])
    | interrupted => exact T.runner_advance _
    | failed e => exact T.runner_afterFailure a e

theorem runner_resume (a : Attempt) :
    T.runner (r.resume run a) = (T.runner r).resume (T.run run) a := by
  have hg : (T.runner r).MayGoOn (T.run run) ↔ r.MayGoOn run := Iff.rfl
  have ho : (T.run run).options.spacing = run.options.spacing := rfl
  simp only [Runner.resume, hg, ho]
  split
  · split
    · exact T.runner_block _
    · exact T.runner_conclude _ _
  · split
    · exact T.runner_perform _ _
    · exact T.runner_conclude _ _

theorem runner_hear (a : Attempt) (text : String) (reply : Except Fault Reply) :
    T.runner (r.hear run a text reply) = (T.runner r).hear (T.run run) a text reply := by
  unfold Runner.hear
  split
  · exact T.runner_conclude _ _
  · split
    · exact T.runner_resume _
    · exact T.runner_conclude _ _

theorem runner_endWait (w : Wake) : T.runner (r.endWait w) = (T.runner r).endWait w := by
  have key (r : Runner) :
      T.runner (if r.status.phase = .syncWait then r.setPhase .running else r) =
        if (T.runner r).status.phase = .syncWait then (T.runner r).setPhase .running
        else T.runner r := by
    rw [runner_status]
    split
    · exact T.runner_setPhase _
    · rfl
  cases w <;> exact key _

theorem runner_disarm (wait : Nat) : T.runner (r.disarm wait) = (T.runner r).disarm wait := rfl

theorem runner_leaveWait (a : Attempt) (wait : Nat) (w : Wake) :
    T.runner (r.leaveWait run a wait w) = (T.runner r).leaveWait (T.run run) a wait w := by
  by_cases he : run.epoch = r.epoch
  · have he' : (T.run run).epoch = (T.runner r).epoch := he
    rw [Runner.leaveWait_eq he, Runner.leaveWait_eq he', ← runner_disarm, ← runner_endWait]
    cases w with
    | signalled => exact T.runner_resume _
    | elapsed => exact T.runner_conclude _ _
    | answered _ | released => exact T.runner_conclude _ _
  · refine (congrArg T.runner (if_pos he)).trans (.trans ?_ (if_pos he).symm)
    exact T.runner_conclude _ _

/-- A run goes on in translation. -/
theorem runner_goOn (b : Blocked) (w : Wake) :
    T.runner (r.goOn run b w) = (T.runner r).goOn (T.run run) b w := by
  unfold Runner.goOn
  split
  · exact T.runner_advance _
  · exact T.runner_hear _ _ _
  · exact T.runner_block _
  · exact T.runner_resume _
  · exact T.runner_conclude _ _
  · exact T.runner_conclude _ _
  · exact T.runner_leaveWait _ _ _

/-! ## Inputs -/

theorem beq_run (x : Run × Blocked) (p : Nat) : ((T.run x.1).id == T.play p) = (x.1.id == p) := by
  by_cases hx : x.1.id = p
  · simp [Translation.run, hx]
  · simp [Translation.run, hx, T.injective.ne hx]

theorem runner_without (p : Nat) : T.runner (r.without p) = (T.runner r).without (T.play p) := by
  have hp : ((fun x : Run × Blocked => x.1.id != T.play p) ∘ fun x => (T.run x.1, x.2)) =
      fun x : Run × Blocked => x.1.id != p := by
    funext x
    exact congrArg (!·) (T.beq_run x p)
  simp only [runner, Runner.without, List.filter_map, hp]

/-- A play is found where it was. -/
theorem runner_wake (p : Nat) (w : Wake) :
    T.runner (r.wake p w) = (T.runner r).wake (T.play p) w := by
  have hp : ((fun x : Run × Blocked => x.1.id == T.play p) ∘ fun x => (T.run x.1, x.2)) =
      fun x : Run × Blocked => x.1.id == p := by
    funext x
    exact T.beq_run x p
  have hf : (T.runner r).runs.find? (fun x => x.1.id == T.play p) =
      (r.runs.find? fun x => x.1.id == p).map fun x => (T.run x.1, x.2) := by
    rw [runner, List.find?_map, hp]
  unfold Runner.wake
  rw [hf]
  cases r.runs.find? fun x => x.1.id == p with
  | none => rfl
  | some x =>
    obtain ⟨run, b⟩ := x
    have ha : (T.runner r).allows (T.run run) b w = r.allows run b w := rfl
    simp only [Option.map_some, ha]
    split
    · rw [runner_goOn, runner_without]
    · rfl

theorem runner_load (cs : List Command) : (T.runner r).load cs = (r.load cs).map T.runner := by
  unfold Runner.load
  cases Task.ofCommands cs with
  | error e => rfl
  | ok tasks =>
    simp only [bind, Except.bind]
    rw [runner_status]
    cases r.status.executing with
    | true => rfl
    | false => exact congrArg Except.ok (by simp only [runner, metrics_zero])

theorem runner_loadCompilation (c : Compilation) :
    (T.runner r).loadCompilation c = (r.loadCompilation c).map (Prod.map T.runner id) := by
  unfold Runner.loadCompilation
  split
  · dsimp only
    split
    · rw [runner_load]
      cases r.load c.expand.commands <;> rfl
    · rfl
  · rfl

theorem runner_loadScript (source : String) :
    (T.runner r).loadScript source = (r.loadScript source).map (Prod.map T.runner id) := by
  unfold Runner.loadScript
  split
  · exact T.runner_loadCompilation _
  · rfl
  · rfl

theorem runner_opened (hf : T.first ≤ r.plays) : T.runner r.opened = (T.runner r).opened := by
  have hplays : T.play (r.plays + 1) = T.play r.plays + 1 := T.play_succ _ hf
  unfold Runner.opened runner
  simp only [hplays, metrics_zero]
  rfl

theorem runner_play (hf : T.first ≤ r.plays) : (T.runner r).play = r.play.map T.runner := by
  have hrun : (T.runner r).nextRun = T.run r.nextRun := rfl
  have hstart : (T.runner r).startIndex = r.startIndex := rfl
  have hadvance : ((T.runner r).opened.setPhase .running).advance (T.run r.nextRun)
      (r.tasks.drop r.startIndex) =
      T.runner ((r.opened.setPhase .running).advance r.nextRun (r.tasks.drop r.startIndex)) := by
    rw [runner_advance, runner_setPhase, T.runner_opened hf]
  unfold Runner.play
  rw [runner_status, runner_tasks, hrun, hstart, hadvance]
  cases r.status.executing with
  | true => rfl
  | false => cases r.tasks <;> rfl

/-- A play begins in translation. -/
theorem runner_launch (hf : T.first ≤ r.plays) : T.runner r.launch = (T.runner r).launch := by
  have hplays : T.play (r.plays + 1) = T.play r.plays + 1 := T.play_succ _ hf
  unfold Runner.launch
  rw [T.runner_play hf]
  cases r.play with
  | ok r' => rfl
  | error e =>
    simp only [Except.map, runner, Runner.note, hplays]
    rfl

theorem runner_tellWait (s : Bool) : T.runner (r.tellWait s) = (T.runner r).tellWait s := by
  unfold runner Runner.tellWait
  cases r.slot with
  | none => rfl
  | some w => simp [Runner.tell]

theorem runner_setMode (c : Control) (p : Phase) :
    T.runner (Runner.setPhase p { r with control := c }) =
      Runner.setPhase p { T.runner r with control := c } :=
  T.runner_setPhase p

theorem runner_getD (c : Prop) [Decidable c] (r' : Runner) :
    T.runner ((if c then some r' else none).getD r) =
      (if c then some (T.runner r') else none).getD (T.runner r) := by
  split <;> rfl

/-- **An input does in translation what it does.** -/
theorem runner_step (hf : T.first ≤ r.plays) (i : Input) :
    T.runner (r.step i) = (T.runner r).step (T.input i) := by
  cases i with
  | load cs =>
    simp only [input, Runner.step, runner_load]
    cases r.load cs <;> rfl
  | loadCompilation c =>
    simp only [input, Runner.step, runner_loadCompilation]
    cases r.loadCompilation c <;> rfl
  | loadScript source =>
    simp only [input, Runner.step, runner_loadScript]
    cases r.loadScript source <;> rfl
  | play => exact T.runner_launch hf
  | pause | unpause | stop =>
    exact (T.runner_getD _ _).trans (by rw [runner_setMode]; rfl)
  | reset =>
    simp only [input, Runner.step, Runner.reset, runner_emit, runner_tellWait]
    simp only [runner, metrics_zero]
    rfl
  | signal => exact (T.runner_getD _ _).trans (by rw [runner_tellWait]; rfl)
  | setOptions o => rfl
  | pass ms => rfl
  | wake p w => exact T.runner_wake p w

/-- **A schedule does in translation what it does.** The induction is on the schedule. -/
theorem runner_after (hf : T.first ≤ r.plays) (s : List Input) :
    T.runner (r.after s) = (T.runner r).after (s.map T.input) := by
  induction s generalizing r with
  | nil => rfl
  | cons i s ih =>
    rw [Runner.after_cons, List.map_cons, Runner.after_cons, ← T.runner_step hf]
    exact ih (Nat.le_trans hf (r.le_step i).2)

end Parts

end Translation

end MotionScript
