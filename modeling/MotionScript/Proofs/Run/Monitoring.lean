import MotionScript.Proofs.Run.Counters
import MotionScript.Proofs.Run.Translation

/-!
# Metrics account for a play, and change nothing

With monitoring the counters of the metrics are those of the events that the play announces. Without
it they stay zero, and nothing else is different.

* `Accounting`: the counters after a play that began in some state.
* `unmonitored`: no metrics are kept, in options, in inputs and in what is written.
* `Unmeasured`: a state without metrics goes along with one.
* **`after_accounts`**: in every state, metrics account for the last play and change nothing else.
-/

namespace MotionScript

/-- The number of commands passed is that of the commands completed, and that of those that failed
if the options leave them out. -/
theorem passed_eq (o : Options) (l : List Moment) : passed o l = l.countP Moment.isCompleted +
    if o.skipErrors && !o.pauseOnError then l.countP Moment.isFailed else 0 := by
  induction l with
  | nil => simp [passed]
  | cons m l ih =>
    rw [passed] at ih ⊢
    rw [List.countP_cons, List.countP_cons, List.countP_cons, ih]
    cases m with
    | told e =>
      cases e <;> simp [Moment.passes, Moment.isCompleted, Moment.isFailed, Options.skips] <;>
        split <;> omega
    | woken | stopped | abandoned => simp [Moment.passes, Moment.isCompleted, Moment.isFailed]

/-- Options that ask for no metrics. -/
def Options.unmonitored (o : Options) : Options := { o with monitoring := false }

/-- An input that asks for no metrics. -/
def Input.unmonitored : Input → Input
  | setOptions o => setOptions o.unmonitored
  | i => i

/-- An entry with nothing in its metrics. -/
def Entry.unmeasured : Entry → Entry
  | event (.finished _) => event (.finished .zero)
  | ended play (.ok _) => ended play (.ok .zero)
  | e => e

/-- No metrics are kept. -/
def Translation.unmonitored : Translation := .unnumbered false []

namespace Runner

/-- The counters of a state `q` after a play that began in a state `r`, where `d` is its diary. -/
structure Accounting (r : Runner) (d : List Moment) (q : Runner) : Prop where
  commands_eq : r.options.monitoring = true →
    q.metrics.commands = d.countP Moment.isCompleted + d.countP Moment.isFailed
  failures_eq : r.options.monitoring = true → q.metrics.failures = d.countP Moment.isFailed
  /-- Every command that failed has left an error. -/
  errors_eq : q.status.errors = (d.filterMap Moment.error?).reverse ∧
    q.status.errors.length = d.countP Moment.isFailed
  signals_eq : r.options.monitoring = true →
    q.metrics.signals = d.countP (Moment.setsSignal r.tasks)
  timeouts_eq : q.status.syncTimeouts = timeouts d
  /-- A command that failed is passed if it is left out. -/
  cursor_eq : q.status.cursor = r.startIndex + (d.countP Moment.isCompleted +
    if r.options.skipErrors && !r.options.pauseOnError then d.countP Moment.isFailed else 0)
  unmeasured : r.options.monitoring = false → q.metrics = .zero

/-- Metrics account for the last play that began, as long as nothing is loaded or reset. -/
def Accounts (r : Runner) : Prop :=
  ∀ r' s, r.play = .ok r' → r'.Calm s →
    Accounting r (diary r.plays (.play :: s) r) (r'.after s)

/-- A state without metrics goes along with one that may have some. -/
structure Unmeasured (r q : Runner) : Prop where
  metrics_eq : q.metrics = .zero
  snapshot_eq : q.snapshot = r.snapshot
  journal_eq : q.journal = r.journal.map Entry.unmeasured
  sends_eq : ∀ p, q.sendsOf p = r.sendsOf p

section Monitoring

variable {r r' : Runner} {s : List Input}

theorem Counted.accounting {d : List Moment} (h : Counted r d r') : Accounting r d r' where
  commands_eq ho := (h.measures ho).commands_eq
  failures_eq ho := (h.measures ho).failures_eq
  errors_eq := ⟨h.errs.errors_eq, by
    rw [h.errs.errors_eq, List.length_reverse, length_errors]⟩
  signals_eq ho := (h.measures ho).signals_eq
  timeouts_eq := h.errs.timeouts_eq
  cursor_eq := by rw [h.cursor_eq, passed_eq]
  unmeasured := h.unmeasured

theorem Reachable.accounts (h : r.Reachable) : r.Accounts := fun _ _ hp hs =>
  ((h.inv.idle (play_eq_ok hp).1).counted hp hs).accounting

/-! ## Without metrics -/

theorem unmonitored_options (o : Options) : Translation.unmonitored.options o = o.unmonitored := by
  have h : (o.monitoring && false) = false := Bool.and_false _
  exact congrArg (fun m => { o with monitoring := m }) h

theorem unmonitored_input (i : Input) : Translation.unmonitored.input i = i.unmonitored := by
  cases i with
  | setOptions o => exact congrArg Input.setOptions (unmonitored_options o)
  | _ => rfl

theorem unmonitored_entry (e : Entry) : Translation.unmonitored.entry e = e.unmeasured := by
  cases e with
  | event e => cases e <;> rfl
  | sent => rfl
  | ended play outcome => cases outcome <;> rfl

theorem unmonitored_new (o : Options) :
    Translation.unmonitored.runner (new o) = new o.unmonitored := by
  unfold Translation.runner new
  rw [unmonitored_options]
  rfl

theorem unmonitored_after (o : Options) (s : List Input) :
    (new o.unmonitored).after (s.map Input.unmonitored) =
      Translation.unmonitored.runner ((new o).after s) := by
  have hi : Translation.unmonitored.input = Input.unmonitored := funext unmonitored_input
  rw [Translation.unmonitored.runner_after (Nat.zero_le _), unmonitored_new, hi]

theorem sendsOf_unmeasured (h : r'.journal = r.journal.map Entry.unmeasured) (p : Nat) :
    r'.sendsOf p = r.sendsOf p := by
  have hplay : (fun e : Entry => e.play? == some p) ∘ Entry.unmeasured =
      fun e => e.play? == some p := by
    funext e
    cases e with
    | event e => cases e <;> rfl
    | sent => rfl
    | ended play outcome => cases outcome <;> rfl
  have hsend : Entry.send? ∘ Entry.unmeasured = Entry.send? := by
    funext e
    cases e with
    | event e => cases e <;> rfl
    | sent => rfl
    | ended play outcome => cases outcome <;> rfl
  rw [sendsOf, entriesOf, h, List.filter_map, hplay, ← List.map_reverse, List.filterMap_map, hsend]
  rfl

theorem unmeasured_runner (r : Runner) : Unmeasured r (Translation.unmonitored.runner r) := by
  have he : Translation.unmonitored.entry = Entry.unmeasured := funext unmonitored_entry
  have hj : (Translation.unmonitored.runner r).journal = r.journal.map Entry.unmeasured := by
    rw [Translation.runner, he]
    exact List.append_nil _
  exact ⟨rfl, rfl, hj, sendsOf_unmeasured hj⟩

/-- **Metrics account for the last play, and change nothing else.** The second state is the one that
the same schedule leads to if no metrics are asked for. -/
theorem after_accounts (o : Options) (s : List Input) :
    ((new o).after s).Accounts ∧ Unmeasured ((new o).after s)
      ((new o.unmonitored).after (s.map Input.unmonitored)) := by
  rw [unmonitored_after]
  exact ⟨((Reachable.new o).after s).accounts, unmeasured_runner _⟩

end Monitoring

/-- A play waits for the signal in vain. -/
def timedOutWait : List Input := [.pass 30000, .wake 0 .elapsed]

theorem timedOutWait_accounting : (waitAndDetection.step .play).Calm timedOutWait ∧
    Accounting waitAndDetection (diary 0 (.play :: timedOutWait) waitAndDetection)
      ((waitAndDetection.step .play).after timedOutWait) ∧
    ((waitAndDetection.step .play).after timedOutWait).metrics.commands = 1 ∧
    ((waitAndDetection.step .play).after timedOutWait).status.syncTimeouts = 1 := by
  have hs : (waitAndDetection.step .play).Calm timedOutWait :=
    ⟨⟨by simp, False.elim, by simp⟩, ⟨by simp, False.elim, by simp⟩, trivial⟩
  exact ⟨hs, (after_accounts _ _).1 _ _ rfl hs, by decide, by decide⟩

end Runner

end MotionScript
