import MotionScript.Run.Schedule

/-!
# What the parts of a transition change

Each part of a transition is the runner with a few fields replaced. Entries of the journal and
metrics are left open where nothing here depends on them.

* `setPhase_eq`, `begin_eq`, `complete_eq`, `fail_eq`, `close_eq`, `endWait_eq`: the parts as
  updates of a runner.
* `advance_pause`, `advance_stop`, `advance_nil`, `advance_cons`, `conclude_eq`, `leaveWait_eq`: how
  a run of the present epoch goes on.
* `wake_eq`: whatever lets a play go on finds it blocked where it can go on, or is lost.
* `Loads`, `step_loads`: what is loaded is always a list of tasks, in a runner that is not
  executing.
* `step_mode`: what a pause, a resumption or a stop does.
* `play_eq_ok`, `step_play`: a play begins at the start index, with everything set back.
-/

namespace MotionScript

/-- The phase that tells of a mode. -/
def Control.phase : Control → Phase
  | run => .running
  | pause => .paused
  | stop => .stopping

/-- The number of waits that time out as a run goes on. -/
def Wake.late : Wake → Nat
  | elapsed => 1
  | answered _ | signalled | released => 0

namespace Runner

variable (r : Runner)

theorem setPhase_eq (p : Phase) :
    ∃ j, r.setPhase p = { r with status := { r.status with phase := p }, journal := j } := by
  unfold setPhase
  split
  · next h => exact ⟨r.journal, by rw [← h]⟩
  · exact ⟨_, rfl⟩

theorem begin_eq (t : Task) :
    ∃ j, r.begin t =
      { r with
        status := { r.status with callers := t.command.callers, phase := .running }
        journal := j } := by
  obtain ⟨j, hj⟩ :=
    setPhase_eq { r with status := { r.status with callers := t.command.callers } } .running
  exact ⟨_, by rw [begin, hj]; rfl⟩

theorem record_eq (run : Run) (began : Nat) (success : Bool) :
    ∃ m, r.record run began success = { r with metrics := m } := by
  unfold record
  split
  · exact ⟨_, rfl⟩
  · exact ⟨r.metrics, rfl⟩

theorem countTask_eq (run : Run) (t : Task) (retries : Nat) :
    ∃ m, r.countTask run t retries = { r with metrics := m } := by
  unfold countTask
  split
  · exact ⟨_, rfl⟩
  · exact ⟨r.metrics, rfl⟩

theorem complete_eq (run : Run) (a : Attempt) :
    ∃ m, r.complete run a =
      { r with
        metrics := m
        status := { r.status with
          cursor := r.status.cursor + 1
          lastCommandTime := some (r.clock : Int) }
        journal := .event (.completed r.status.cursor (r.clock - a.began)) :: r.journal } := by
  obtain ⟨m, hm⟩ := r.record_eq run a.began true
  obtain ⟨m', hm'⟩ := countTask_eq { r with metrics := m } run a.task a.retries
  exact ⟨m', by simp only [complete, hm, hm']; rfl⟩

theorem fail_eq (run : Run) (a : Attempt) (e : Failure) :
    ∃ m, r.fail run a e =
      { r with
        metrics := m
        status := { r.status with
          errors := r.status.errors ++ [failureText a.task e]
          lastCommandTime := some (r.clock : Int) }
        journal := .event (.failed r.status.cursor (failureText a.task e)) :: r.journal } := by
  obtain ⟨m, hm⟩ := r.record_eq run a.began false
  exact ⟨m, by simp only [fail, hm]; rfl⟩

theorem close_eq (run : Run) (outcome : Except Failure Unit) :
    ∃ m j, r.close run outcome =
      { r with
        metrics := m
        status := { r.status with
          executing := false
          syncWaitStart := none
          phase := endPhase outcome }
        journal := j } := by
  unfold close
  obtain ⟨j, hj⟩ := setPhase_eq { r with
    metrics := if run.options.monitoring then { r.metrics with runTime := r.clock - run.began }
      else r.metrics
    status := { r.status with executing := false, syncWaitStart := none } } (endPhase outcome)
  exact ⟨_, _, by simp only [hj]; rfl⟩

theorem endWait_eq (w : Wake) :
    ∃ j, r.endWait w =
      { r with
        status := { r.status with
          syncWaitStart := none
          syncTimeouts := r.status.syncTimeouts + w.late
          phase := if r.status.phase = .syncWait then .running else r.status.phase }
        journal := j } := by
  have key (r : Runner) : ∃ j, (if r.status.phase = .syncWait then r.setPhase .running else r) =
      { r with
        status := { r.status with
          phase := if r.status.phase = .syncWait then .running else r.status.phase }
        journal := j } := by
    split
    · exact r.setPhase_eq .running
    · exact ⟨r.journal, rfl⟩
  cases w <;> exact key _

/-! ## A play goes on -/

variable {r} in
theorem advance_pause (hc : r.control = .pause) (run : Run) (todo : List Task) :
    r.advance run todo = r.block run (.paused todo) := by
  cases todo <;> simp only [advance, hc]

variable {r} in
theorem advance_stop (hc : r.control = .stop) (run : Run) (todo : List Task) :
    r.advance run todo = r.finish run (.ok ()) := by
  cases todo <;> simp only [advance, hc]

variable {r} in
theorem advance_nil (hc : r.control = .run) {run : Run} (he : run.epoch = r.epoch) :
    r.advance run [] = r.finish run (.ok ()) := by
  simp only [advance, hc, he, ne_eq, not_true_eq_false, if_false]

variable {r} in
theorem advance_cons (hc : r.control = .run) {run : Run} (he : run.epoch = r.epoch) (t : Task)
    (later : List Task) : r.advance run (t :: later) =
      match t.steps with
      | [] => ((r.begin t).complete run ⟨t, later, [], 0, false, r.clock⟩).advance run later
      | s :: steps => (r.begin t).perform run ⟨t, later, steps, 0, false, r.clock⟩ s := by
  cases hs : t.steps <;> simp only [advance, hc, he, hs, ne_eq, not_true_eq_false, if_false]

variable {r} in
/-- A run of the present epoch may go on unless it is stopped. -/
theorem stop_of_not_mayGoOn {run : Run} (he : run.epoch = r.epoch) (hg : ¬ r.MayGoOn run) :
    r.control = .stop :=
  Decidable.byContradiction fun hc => hg ⟨hc, he⟩

variable {r} in
theorem conclude_eq {run : Run} (he : run.epoch = r.epoch) (a : Attempt) (ending : Ending) :
    r.conclude run a ending =
      match ending with
      | .done => (r.complete run a).advance run a.later
      | .interrupted => r.advance run a.todo
      | .failed e => r.afterFailure run a e :=
  if_neg fun hne => hne he

variable {r} in
theorem leaveWait_eq {run : Run} (he : run.epoch = r.epoch) (a : Attempt) (wait : Nat) (w : Wake) :
    r.leaveWait run a wait w =
      match w with
      | .signalled => ((r.disarm wait).endWait w).resume run a
      | .elapsed => ((r.disarm wait).endWait w).conclude run a
          (.failed (.syncTimeout (1000 * run.options.syncTimeout)))
      | .answered _ | .released => ((r.disarm wait).endWait w).conclude run a .interrupted :=
  if_neg fun hne => hne he

/-- What lets a play go on either finds it blocked where it can go on, or is lost. -/
theorem wake_eq (play : Nat) (w : Wake) :
    r.wake play w = r ∨ ∃ run b, (run, b) ∈ r.runs ∧ run.id = play ∧ r.allows run b w ∧
      r.wake play w = (r.without play).goOn run b w := by
  cases hf : r.runs.find? fun x => x.1.id == play with
  | none => exact .inl (by simp [wake, hf])
  | some x =>
    obtain ⟨run, b⟩ := x
    by_cases ha : r.allows run b w
    · exact .inr ⟨run, b, List.mem_of_find?_eq_some hf, by simpa using List.find?_some hf, ha,
        by simp [wake, hf, ha]⟩
    · exact .inl (by simp [wake, hf, ha])

/-! ## Operations -/

/-- A runner is as it was, or it has loaded something and was not executing. -/
def Loads (r r' : Runner) : Prop :=
  r' = r ∨ r.status.executing = false ∧
    ∃ tasks, r' = { r with tasks, status := .fresh tasks.length, metrics := .zero }

theorem load_loads {cs : List Command} {r r' : Runner} (h : r.load cs = .ok r') : Loads r r' := by
  cases ht : Task.ofCommands cs with
  | error e => simp [load, ht, bind, Except.bind] at h
  | ok tasks =>
    cases he : r.status.executing with
    | true => simp [load, ht, he, bind, Except.bind] at h
    | false =>
      simp only [load, ht, he, bind, Except.bind, Bool.false_eq_true, if_false,
        Except.ok.injEq] at h
      exact .inr ⟨he, tasks, h.symm⟩

/-- Where a compilation is loaded, the commands of its expansion are. -/
theorem load_of_loadCompilation {c : Compilation} {r r' : Runner} {warnings : List String}
    (h : r.loadCompilation c = .ok (r', warnings)) : r.load c.expand.commands = .ok r' := by
  unfold loadCompilation at h
  split at h
  · dsimp only at h
    split at h
    · cases hl : r.load c.expand.commands with
      | error e => simp [hl, Except.map] at h
      | ok r'' =>
        simp only [hl, Except.map, Except.ok.injEq, Prod.mk.injEq] at h
        rw [h.1]
    · cases h
  · cases h

theorem loadScript_loads {source : String} {r r' : Runner} {warnings : List String}
    (h : r.loadScript source = .ok (r', warnings)) : Loads r r' := by
  unfold loadScript at h
  split at h
  · exact load_loads (load_of_loadCompilation h)
  · cases h
  · cases h

theorem play_eq_ok {r r' : Runner} (h : r.play = .ok r') :
    r.status.executing = false ∧
      r' = (r.opened.setPhase .running).advance r.nextRun (r.tasks.drop r.startIndex) := by
  unfold play at h
  split at h
  · cases h
  · next he =>
    split at h
    · cases h
    · cases h
      exact ⟨by simpa using he, rfl⟩

theorem step_play {r r' : Runner} (h : r.play = .ok r') : r.step .play = r' := by
  rw [step, launch, h]

theorem Reachable.of_play {r r' : Runner} (h : r.Reachable) (hp : r.play = .ok r') :
    r'.Reachable :=
  step_play hp ▸ h.step .play

theorem step_loads (r : Runner) :
    (∀ cs, Loads r (r.step (.load cs))) ∧ (∀ c, Loads r (r.step (.loadCompilation c))) ∧
      ∀ source, Loads r (r.step (.loadScript source)) := by
  refine ⟨fun cs => ?_, fun c => ?_, fun source => ?_⟩
  · cases h : r.load cs with
    | error e => exact .inl (by simp [step, h, Except.toOption])
    | ok r' => simpa [step, h, Except.toOption] using load_loads h
  · cases h : r.loadCompilation c with
    | error e => exact .inl (by simp [step, h, Except.toOption, Except.map])
    | ok p =>
      simpa [step, h, Except.toOption, Except.map] using load_loads (load_of_loadCompilation h)
  · cases h : r.loadScript source with
    | error e => exact .inl (by simp [step, h, Except.toOption, Except.map])
    | ok p => simpa [step, h, Except.toOption, Except.map] using loadScript_loads h

/-- A pause, a resumption or a stop is refused or enters a mode, and the phase tells of it. -/
theorem step_mode (r : Runner) {i : Input} (hi : i = .pause ∨ i = .unpause ∨ i = .stop) :
    r.step i = r ∨ r.status.phase ≠ .idle ∧ r.status.phase ≠ .error ∧
      ∃ c : Control, r.step i = setPhase c.phase { r with control := c } := by
  have key {c : Control} {p : Prop} [Decidable p] (hp : p → r.status.phase ≠ .idle)
      (hp' : p → r.status.phase ≠ .error)
      (e : r.step i =
        (if p then some (setPhase c.phase { r with control := c }) else none).getD r) :
      r.step i = r ∨ r.status.phase ≠ .idle ∧ r.status.phase ≠ .error ∧
        ∃ c : Control, r.step i = setPhase c.phase { r with control := c } := by
    by_cases h : p
    · exact .inr ⟨hp h, hp' h, c, by rw [e, if_pos h]; rfl⟩
    · exact .inl (by rw [e, if_neg h]; rfl)
  rcases hi with rfl | rfl | rfl
  · exact key (c := .pause) (by rintro (h | h) <;> simp [h]) (by rintro (h | h) <;> simp [h]) rfl
  · exact key (c := .run) (by intro h; simp [h]) (by intro h; simp [h]) rfl
  · exact key (c := .stop) (by rintro (h | h | h) <;> simp [h])
      (by rintro (h | h | h) <;> simp [h]) rfl

end Runner

end MotionScript
