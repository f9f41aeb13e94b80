import MotionScript.Proofs.Run.Frame
import MotionScript.Proofs.Run.Invariant

/-!
# A reset leaves nothing behind

Once a runner is reset, the plays it began before the reset do nothing but end, each with a reset.
What is seen of the runner is what would be seen if they were not there.

* `since`: a runner without the plays before a number, and without their ends.
* `since_goOn`, `since_step`: a later run, and every input but the ones for those plays, does to the
  runner without them what it does to the runner.
* `Past`: the plays before a number are abandoned.
* **`isolated_after`**: after a reset the plays that it abandons are isolated.
-/

namespace MotionScript

/-- Whether an entry stays when the ends of the plays before a number are left out. -/
def Entry.since (k : Nat) : Entry → Bool
  | ended play _ => k ≤ play
  | event _ | sent _ _ _ _ => true

/-- Whether an input is for one of the plays from a number on, or for none. -/
def Input.since (k : Nat) : Input → Bool
  | .wake p _ => k ≤ p
  | _ => true

namespace Runner

/-- A runner without the plays before a number, and without their ends. -/
def since (k : Nat) (r : Runner) : Runner :=
  { r with
    runs := r.runs.filter fun x => k ≤ x.1.id
    journal := r.journal.filter (Entry.since k) }

section Since

variable {k : Nat} {run : Run} {r : Runner}

@[simp] theorem since_status : (r.since k).status = r.status := rfl
@[simp] theorem since_control : (r.since k).control = r.control := rfl
@[simp] theorem since_epoch : (r.since k).epoch = r.epoch := rfl
@[simp] theorem since_tasks : (r.since k).tasks = r.tasks := rfl

/-! ## Parts of a transition -/

theorem since_note {e : Entry} (he : e.since k) : (r.note e).since k = (r.since k).note e := by
  simp [since, note, he]

@[simp] theorem since_emit (e : Event) : (r.emit e).since k = (r.since k).emit e := rfl

@[simp] theorem since_block (hk : k ≤ run.id) (b : Blocked) :
    (r.block run b).since k = (r.since k).block run b := by
  simp [since, block, hk]

@[simp] theorem since_setPhase (p : Phase) : (r.setPhase p).since k = (r.since k).setPhase p := by
  unfold setPhase
  rw [since_status]
  split <;> rfl

theorem since_close (hk : k ≤ run.id) (outcome : Except Failure Unit) :
    (r.close run outcome).since k = (r.since k).close run outcome := by
  unfold close
  dsimp only
  rw [since_note (by simpa [Entry.since] using hk), since_emit, since_setPhase]
  rfl

theorem since_finish (hk : k ≤ run.id) (outcome : Except Failure Unit) :
    (r.finish run outcome).since k = (r.since k).finish run outcome := by
  unfold finish
  rw [since_epoch]
  split
  · exact since_close hk outcome
  · exact since_note (by simpa [Entry.since] using hk)

theorem since_begin (t : Task) : (r.begin t).since k = (r.since k).begin t := by
  unfold begin
  rw [since_emit, since_setPhase]
  rfl

theorem since_record (began : Nat) (success : Bool) :
    (r.record run began success).since k = (r.since k).record run began success := by
  unfold record
  split <;> rfl

theorem since_countTask (t : Task) (retries : Nat) :
    (r.countTask run t retries).since k = (r.since k).countTask run t retries := by
  unfold countTask
  split <;> rfl

theorem since_complete (a : Attempt) :
    (r.complete run a).since k = (r.since k).complete run a := by
  unfold complete
  rw [← since_record, ← since_countTask]
  rfl

theorem since_fail (a : Attempt) (e : Failure) :
    (r.fail run a e).since k = (r.since k).fail run a e := by
  unfold fail
  rw [← since_record]
  rfl

theorem since_perform (hk : k ≤ run.id) (a : Attempt) (s : Step) :
    (r.perform run a s).since k = (r.since k).perform run a s := by
  cases s with
  | send text => exact since_block hk _
  | delay ms => exact since_block hk _
  | signal =>
    unfold perform
    dsimp only
    rw [since_block hk, since_emit, since_setPhase]
    rfl

/-! ## The course of a run -/

theorem since_advance (hk : k ≤ run.id) (todo : List Task) :
    (r.advance run todo).since k = (r.since k).advance run todo := by
  fun_induction Runner.advance run todo r with
  | case1 todo r hc =>
    rw [advance_pause (r := r.since k) hc]
    exact since_block hk _
  | case2 todo r hc =>
    rw [advance_stop (r := r.since k) hc]
    exact since_finish hk _
  | case3 todo r hc he =>
    rw [advance_abandoned (r := r.since k) he (by simp [hc]), finish_abandoned he]
    exact since_note (by simpa [Entry.since] using hk)
  | case4 r hc he =>
    rw [advance_nil (r := r.since k) hc (not_not.1 he)]
    exact since_finish hk _
  | case5 r hc he t later ht ih =>
    rw [ih, advance_cons (r := r.since k) hc (not_not.1 he), ht, since_complete, since_begin]
    rfl
  | case6 r hc he t later s steps ht =>
    rw [since_perform hk, advance_cons (r := r.since k) hc (not_not.1 he), ht, since_begin]
    rfl

theorem since_afterFailure (hk : k ≤ run.id) (a : Attempt) (e : Failure) :
    (r.afterFailure run a e).since k = (r.since k).afterFailure run a e := by
  simp only [afterFailure, ← since_fail, since_control]
  split
  · split
    · exact since_advance hk _
    · rw [since_advance hk, since_setPhase]
      rfl
  · split
    · exact since_advance hk _
    · exact since_finish hk _

theorem since_conclude (hk : k ≤ run.id) (a : Attempt) (ending : Ending) :
    (r.conclude run a ending).since k = (r.since k).conclude run a ending := by
  unfold conclude
  rw [since_epoch]
  split
  · exact since_finish hk _
  · cases ending with
    | done => exact (since_advance hk _).trans (by rw [since_complete])
    | interrupted => exact since_advance hk _
    | failed e => exact since_afterFailure hk a e

theorem since_resume (hk : k ≤ run.id) (a : Attempt) :
    (r.resume run a).since k = (r.since k).resume run a := by
  have hg : (r.since k).MayGoOn run ↔ r.MayGoOn run := Iff.rfl
  simp only [resume, hg]
  split
  · split
    · exact since_block hk _
    · exact since_conclude hk _ _
  · split
    · exact since_perform hk _ _
    · exact since_conclude hk _ _

theorem since_hear (hk : k ≤ run.id) (a : Attempt) (text : String) (reply : Except Fault Reply) :
    (r.hear run a text reply).since k = (r.since k).hear run a text reply := by
  unfold hear
  split
  · exact since_conclude hk _ _
  · split
    · exact since_resume hk _
    · exact since_conclude hk _ _

theorem since_disarm (wait : Nat) : (r.disarm wait).since k = (r.since k).disarm wait := rfl

theorem since_endWait (w : Wake) : (r.endWait w).since k = (r.since k).endWait w := by
  have key (r : Runner) :
      (if r.status.phase = .syncWait then r.setPhase .running else r).since k =
        if (r.since k).status.phase = .syncWait then (r.since k).setPhase .running
        else r.since k := by
    rw [since_status]
    split
    · exact since_setPhase _
    · rfl
  cases w <;> exact key _

theorem since_leaveWait (hk : k ≤ run.id) (a : Attempt) (wait : Nat) (w : Wake) :
    (r.leaveWait run a wait w).since k = (r.since k).leaveWait run a wait w := by
  by_cases he : run.epoch = r.epoch
  · rw [leaveWait_eq he, leaveWait_eq (r := r.since k) he, ← since_disarm, ← since_endWait]
    cases w with
    | signalled => exact since_resume hk _
    | elapsed => exact since_conclude hk _ _
    | answered _ | released => exact since_conclude hk _ _
  · refine (congrArg (since k) (if_pos he)).trans (.trans ?_ (if_pos he).symm)
    exact since_conclude hk _ _

/-- A later run does to a runner without the plays before it what it does to the runner. -/
theorem since_goOn (hk : k ≤ run.id) (b : Blocked) (w : Wake) :
    (r.goOn run b w).since k = (r.since k).goOn run b w := by
  unfold goOn
  split
  · exact since_advance hk _
  · exact since_hear hk _ _ _
  · exact since_block hk _
  · exact since_resume hk _
  · exact since_conclude hk _ _
  · exact since_conclude hk _ _
  · exact since_leaveWait hk _ _ _

/-! ## Inputs -/

theorem since_without (p : Nat) : (r.without p).since k = (r.since k).without p := by
  simp only [since, without, List.filter_filter, Bool.and_comm]

/-- A later play is found where it was. -/
theorem since_wake {p : Nat} (hk : k ≤ p) (w : Wake) :
    (r.wake p w).since k = (r.since k).wake p w := by
  have hf : (r.since k).runs.find? (fun x => x.1.id == p) = r.runs.find? fun x => x.1.id == p := by
    rw [since, List.find?_filter]
    congr 1
    funext x
    by_cases hx : x.1.id = p <;> simp [hx, hk]
  unfold wake
  rw [hf]
  cases hx : r.runs.find? fun x => x.1.id == p with
  | none => rfl
  | some x =>
    obtain ⟨run, b⟩ := x
    obtain rfl : run.id = p := by simpa using List.find?_some hx
    have ha : (r.since k).allows run b w = r.allows run b w := rfl
    dsimp only
    rw [ha]
    split
    · rw [since_goOn hk, since_without]
    · rfl

theorem since_load (cs : List Command) : (r.since k).load cs = (r.load cs).map (since k) := by
  unfold load
  cases Task.ofCommands cs with
  | error e => rfl
  | ok tasks =>
    simp only [bind, Except.bind]
    rw [since_status]
    cases r.status.executing <;> rfl

theorem since_loadCompilation (c : Compilation) :
    (r.since k).loadCompilation c = (r.loadCompilation c).map (Prod.map (since k) id) := by
  unfold loadCompilation
  split
  · dsimp only
    split
    · rw [since_load]
      cases r.load c.expand.commands <;> rfl
    · rfl
  · rfl

theorem since_loadScript (source : String) :
    (r.since k).loadScript source = (r.loadScript source).map (Prod.map (since k) id) := by
  unfold loadScript
  split
  · exact since_loadCompilation _
  · rfl
  · rfl

theorem since_play (hk : k ≤ r.plays) : (r.since k).play = r.play.map (since k) := by
  have hrun : (r.since k).nextRun = r.nextRun := rfl
  have hopened : (r.since k).opened = r.opened.since k := rfl
  have hstart : (r.since k).startIndex = r.startIndex := rfl
  have hadvance : ((r.opened.since k).setPhase .running).advance r.nextRun
      (r.tasks.drop r.startIndex) =
      ((r.opened.setPhase .running).advance r.nextRun (r.tasks.drop r.startIndex)).since k := by
    rw [since_advance hk, since_setPhase]
  unfold play
  rw [since_status, since_tasks, hrun, hopened, hstart, hadvance]
  cases r.status.executing with
  | true => rfl
  | false => cases r.tasks <;> rfl

theorem since_launch (hk : k ≤ r.plays) : r.launch.since k = (r.since k).launch := by
  unfold launch
  rw [since_play hk]
  cases r.play with
  | ok r' => rfl
  | error e => exact since_note (by simpa [Entry.since] using hk)

theorem since_tellWait (s : Bool) : (r.tellWait s).since k = (r.since k).tellWait s := by
  unfold since tellWait
  cases hs : r.slot with
  | none => simp [tell]
  | some w =>
    simp only [tell, List.filter_map]
    rfl

theorem since_setMode (c : Control) (p : Phase) :
    (setPhase p { r with control := c }).since k = setPhase p { r.since k with control := c } :=
  since_setPhase p

theorem since_getD (c : Prop) [Decidable c] (r' : Runner) :
    ((if c then some r' else none).getD r).since k =
      (if c then some (r'.since k) else none).getD (r.since k) := by
  split <;> rfl

/-- An input that is not for one of the plays before a number does to a runner without them what it
does to the runner. -/
theorem since_step (hk : k ≤ r.plays) {i : Input} (hi : i.since k) :
    (r.step i).since k = (r.since k).step i := by
  cases i with
  | load cs =>
    simp only [step, since_load]
    cases r.load cs <;> rfl
  | loadCompilation c =>
    simp only [step, since_loadCompilation]
    cases r.loadCompilation c <;> rfl
  | loadScript source =>
    simp only [step, since_loadScript]
    cases r.loadScript source <;> rfl
  | play => exact since_launch hk
  | pause | unpause | stop =>
    exact (since_getD _ _).trans (by rw [since_setMode]; rfl)
  | reset =>
    refine congrArg (emit _) (since_tellWait (r := { r with
      epoch := r.epoch + 1
      status := .fresh r.tasks.length
      metrics := .zero
      control := .stop }) _)
  | signal => exact (since_getD _ _).trans (by rw [since_tellWait]; rfl)
  | setOptions o => rfl
  | pass ms => rfl
  | wake p w => exact since_wake (by simpa [Input.since] using hi) w

end Since

/-! ## After a reset -/

/-- The plays before a number are abandoned. -/
structure Past (k : Nat) (r : Runner) : Prop where
  inv : r.Inv
  le_plays : k ≤ r.plays
  old : ∀ x ∈ r.runs, x.1.id < k → x.1.epoch < r.epoch

/-- A play has begun and not ended. -/
def Unfinished (p : Nat) (r : Runner) : Prop := ∃ x ∈ r.runs, x.1.id = p

/-- What came of a play between two states: nothing was done about it and it goes on or had ended
before, or it ended with a reset. -/
def Fate (p : Nat) (r r' : Runner) : Prop :=
  (r'.entriesOf p = r.entriesOf p ∧ (r'.Unfinished p ↔ r.Unfinished p)) ∨
    (r'.entriesOf p = .ended p (.error .reset) :: r.entriesOf p ∧
      r.Unfinished p ∧ ¬ r'.Unfinished p)

/-- A reset isolates the plays that it abandons. -/
structure Isolated (r : Runner) : Prop where
  /-- Such a play does nothing but end, once, with a reset. -/
  fate : ∀ p < r.plays, ∀ s, Fate p r (r.reset.after s)
  /-- What lets it go on changes nothing else, whenever it comes. -/
  unseen : ∀ p < r.plays, ∀ s w,
    ((r.reset.after s).wake p w).since r.plays = (r.reset.after s).since r.plays
  /-- Two schedules that differ only in what comes to such plays have the same effect. -/
  agree : ∀ s s', s.filter (Input.since r.plays) = s'.filter (Input.since r.plays) →
    (r.reset.after s).since r.plays = (r.reset.after s').since r.plays

section Past

variable {k p : Nat} {r r' : Runner}

theorem Inv.past_reset (h : r.Inv) : Past r.plays r.reset where
  inv := .inl h.reset
  le_plays := Nat.le_refl _
  old x hx _ := h.reset.old x hx

/-- What lets an abandoned play go on ends it, or is lost. -/
theorem Past.wake_eq (h : Past k r) (hp : p < k) (w : Wake) :
    r.wake p w = r ∨ r.Unfinished p ∧
      r.wake p w = (r.without p).note (.ended p (.error .reset)) := by
  rcases Runner.wake_eq r p w with e | ⟨run, b, hm, rfl, ha, e⟩
  · exact .inl e
  · have he := Nat.ne_of_lt (h.old _ hm hp)
    exact .inr ⟨⟨_, hm, rfl⟩, e.trans (h.inv.goOn_abandoned hm he ha)⟩

theorem not_unfinished_without : ¬ (r.without p).Unfinished p := by
  rintro ⟨x, hx, e⟩
  simpa [e] using (List.mem_filter.1 hx).2

theorem since_note_without (hp : p < k) (outcome : Except Failure Metrics) :
    ((r.without p).note (.ended p outcome)).since k = r.since k := by
  have hruns : (r.without p).runs.filter (fun x => k ≤ x.1.id) =
      r.runs.filter fun x => k ≤ x.1.id := by
    rw [without, List.filter_filter]
    refine List.filter_congr fun x _ => ?_
    by_cases hx : x.1.id = p
    · simp [hx, hp]
    · simp [hx]
  have hj : Entry.since k (.ended p outcome) = false := by simpa [Entry.since] using hp
  simp only [since, note, hruns, List.filter_cons, hj]
  rfl

theorem Past.since_wake (h : Past k r) (hp : p < k) (w : Wake) :
    (r.wake p w).since k = r.since k := by
  rcases h.wake_eq hp w with e | ⟨-, e⟩ <;> rw [e]
  exact since_note_without hp _

/-- A run found after an input was there before, unless it is of a new play. -/
theorem Past.mem_of_step (h : Past k r) (i : Input) {x : Run × Blocked} (hx : x ∈ (r.step i).runs)
    (hk : x.1.id < k) : ∃ y ∈ r.runs, y.1 = x.1 := by
  by_cases hi : ∃ w, i = .wake x.1.id w
  · obtain ⟨w, rfl⟩ := hi
    rcases h.wake_eq hk w with e | ⟨-, e⟩ <;> rw [step, e] at hx
    · exact ⟨x, hx, rfl⟩
    · exact ⟨x, (List.mem_filter.1 hx).1, rfl⟩
  · have hm : x ∈ (r.step i).runsOf x.1.id := List.mem_filter.2 ⟨hx, by simp⟩
    have hs := step_spares (fun _ => Nat.ne_of_lt (Nat.lt_of_lt_of_le hk h.le_plays))
      fun w e => hi ⟨w, e⟩
    rcases hs.runs with e | ⟨s, e⟩ <;> rw [e] at hm
    · exact ⟨x, (List.mem_filter.1 hm).1, rfl⟩
    · obtain ⟨y, hy, e, -⟩ := mem_tell hm
      exact ⟨y, (List.mem_filter.1 hy).1, e⟩

/-- Every input keeps the abandoned plays abandoned. -/
theorem Past.step (h : Past k r) (i : Input) : Past k (r.step i) where
  inv := h.inv.step i
  le_plays := Nat.le_trans h.le_plays (r.le_step i).2
  old x hx hk := by
    obtain ⟨y, hy, e⟩ := h.mem_of_step i hx hk
    rw [← e] at hk ⊢
    exact Nat.lt_of_lt_of_le (h.old y hy hk) (r.le_step i).1

theorem Past.after (h : Past k r) (s : List Input) : Past k (r.after s) := by
  induction s generalizing r with
  | nil => exact h
  | cons i s ih => exact ih (h.step i)

/-- What is seen of a runner after a schedule is what would be seen if the abandoned plays were not
there. The induction is on the schedule: what is for them changes nothing that is seen. -/
theorem Past.since_after (h : Past k r) (s : List Input) :
    (r.after s).since k = (r.since k).after (s.filter (Input.since k)) := by
  induction s generalizing r with
  | nil => rfl
  | cons i s ih =>
    rw [after_cons, ih (h.step i), List.filter_cons]
    split
    · next hi => rw [after_cons, since_step h.le_plays hi]
    · next hi =>
      cases i with
      | wake p w =>
        have hp : p < k := by simpa [Input.since] using hi
        rw [Runner.step, h.since_wake hp]
      | _ => exact absurd rfl hi

theorem Spares.unfinished_iff (h : Spares p r r') : r'.Unfinished p ↔ r.Unfinished p := by
  have key (r : Runner) : r.Unfinished p ↔ r.runsOf p ≠ [] := by
    simp [Unfinished, runsOf]
  rw [key, key]
  rcases h.runs with e | ⟨s, e⟩ <;> rw [e]
  cases r.slot <;> simp [tell]

theorem Past.fate_step (h : Past k r') (hp : p < k) (hf : Fate p r r') (i : Input) :
    Fate p r (r'.step i) := by
  by_cases hi : ∃ w, i = .wake p w
  · obtain ⟨w, rfl⟩ := hi
    rcases h.wake_eq hp w with e | ⟨hu, e⟩ <;> rw [Runner.step, e]
    · exact hf
    · rcases hf with ⟨he, hiff⟩ | ⟨-, -, hn⟩
      · refine .inr ⟨?_, hiff.1 hu, not_unfinished_without⟩
        rw [← he]
        simp [entriesOf, note, Entry.play?, without]
      · exact absurd hu hn
  · have hs := step_spares (fun _ => Nat.ne_of_lt (Nat.lt_of_lt_of_le hp h.le_plays))
      fun w e => hi ⟨w, e⟩
    rw [Fate, hs.entries, hs.unfinished_iff]
    exact hf

theorem Past.fate_after (h : Past k r') (hp : p < k) (hf : Fate p r r') (s : List Input) :
    Fate p r (r'.after s) := by
  induction s generalizing r' with
  | nil => exact hf
  | cons i s ih => exact ih (h.step i) (h.fate_step hp hf i)

theorem Inv.isolated (h : r.Inv) : r.Isolated where
  fate p hp s := by
    have hs : Spares p r r.reset :=
      step_spares (i := .reset) (fun e => by cases e) fun w e => by cases e
    exact h.past_reset.fate_after hp (.inl ⟨hs.entries, hs.unfinished_iff⟩) s
  unseen p hp s w := (h.past_reset.after s).since_wake hp w
  agree s s' e := by rw [h.past_reset.since_after, h.past_reset.since_after, e]

end Past

/-- **After every schedule, a reset isolates the plays that it abandons.** -/
theorem isolated_after (o : Options) (s : List Input) : ((new o).after s).Isolated :=
  ((Reachable.new o).after s).inv.isolated

end Runner

end MotionScript
