import MotionScript.Proofs.Run.Completion
import MotionScript.Proofs.Run.Translation

/-!
# Refused operations leave no trace

An operation that is refused changes nothing, announces nothing and sends nothing. A play that is
refused is told so, and it has taken a number: the plays after it have other numbers than they would
have. Everything goes on as it would have.

* `Declines`: the inputs that a runner refuses.
* `Input.renumber`, `Entry.renumber`, `Run.renumber`: plays are numbered otherwise.
* `numberAfter`: the number of a play if an input came before it.
* `Traceless`: an input leaves no trace in a state, nor in what comes after it.
* **`Reachable.traceless`**: no input that is refused leaves a trace.
-/

namespace MotionScript

/-- An input, where plays are numbered otherwise. -/
def Input.renumber (f : Nat → Nat) : Input → Input
  | .wake p w => .wake (f p) w
  | i => i

/-- An entry, where plays are numbered otherwise. -/
def Entry.renumber (f : Nat → Nat) : Entry → Entry
  | event e => event e
  | sent time play text maxRetries => sent time (f play) text maxRetries
  | ended play outcome => ended (f play) outcome

/-- A run, where plays are numbered otherwise. -/
def Run.renumber (f : Nat → Nat) (run : Run) : Run := { run with id := f run.id }

namespace Runner

/-- A runner refuses an input. -/
inductive Declines (r : Runner) : Input → Prop where
  | load {cs : List Command} {e : Failure} : r.load cs = .error e → Declines r (.load cs)
  | loadCompilation {c : Compilation} {e : Failure} :
    r.loadCompilation c = .error e → Declines r (.loadCompilation c)
  | loadScript {source : String} {e : Failure} :
    r.loadScript source = .error e → Declines r (.loadScript source)
  | play {e : Failure} : r.play = .error e → Declines r .play
  | pause : r.pause = none → Declines r .pause
  | unpause : r.unpause = none → Declines r .unpause
  | stop : r.stop = none → Declines r .stop
  | signal : r.signal = none → Declines r .signal

/-- The number of a play if an input came before it, where `n` is the number that it has without
that input. Plays that began before the input keep theirs. -/
def numberAfter (r : Runner) (i : Input) (n : Nat) : Nat :=
  if n < r.plays then n else n + ((r.step i).plays - r.plays)

/-- An input leaves no trace. -/
structure Traceless (r : Runner) (i : Input) : Prop where
  /-- Nothing changes, and nothing is announced or sent. A play is told that it is refused. -/
  step_eq : r.step i = r ∨ i = .play ∧ ∃ e, r.play = .error e ∧ r.step i =
    { r with plays := r.plays + 1, journal := .ended r.plays (.error e) :: r.journal }
  /-- Everything goes on as it would have, but for the numbers of plays. -/
  goesOn : ∀ s, ∃ l, (r.after s).journal = l ++ r.journal ∧
    (r.step i).after (s.map (.renumber (r.numberAfter i))) =
      { r.after s with
        plays := r.numberAfter i (r.after s).plays
        runs := (r.after s).runs.map fun x => (x.1.renumber (r.numberAfter i), x.2)
        journal := l.map (.renumber (r.numberAfter i)) ++ (r.step i).journal }

section Refusal

variable {r : Runner} {i : Input}

theorem Declines.step_eq (h : r.Declines i) :
    r.step i = r ∨ i = .play ∧ ∃ e, r.play = .error e ∧ r.step i =
      { r with plays := r.plays + 1, journal := .ended r.plays (.error e) :: r.journal } := by
  cases h with
  | load h | loadCompilation h | loadScript h =>
    refine .inl ?_
    rw [step, h]
    rfl
  | pause h | unpause h | stop h | signal h =>
    refine .inl ?_
    rw [step, h]
    rfl
  | @play e h =>
    refine .inr ⟨rfl, e, h, ?_⟩
    simp only [step, launch, h]
    rfl

theorem Declines.step_eq_update (h : r.Declines i) :
    r.step i = { r with plays := (r.step i).plays, journal := (r.step i).journal } := by
  rcases h.step_eq with e | ⟨-, _, -, e⟩ <;> rw [e]

/-! ## Plays are numbered otherwise -/

theorem numberAfter_injective (r : Runner) (i : Input) :
    Function.Injective (r.numberAfter i) := by
  intro m n h
  unfold numberAfter at h
  split at h <;> split at h <;> omega

theorem numberAfter_succ {n : Nat} (h : r.plays ≤ n) :
    r.numberAfter i (n + 1) = r.numberAfter i n + 1 := by
  unfold numberAfter
  rw [if_neg (by omega), if_neg (by omega)]
  omega

theorem numberAfter_plays (r : Runner) (i : Input) :
    r.numberAfter i r.plays = (r.step i).plays := by
  have := (r.le_step i).2
  unfold numberAfter
  rw [if_neg (Nat.lt_irrefl _)]
  omega

end Refusal

end Runner

/-! ## Metrics are kept -/

namespace Translation

variable {T : Translation} (hk : T.keep = true)

include hk

theorem options_of_keep (o : Options) : T.options o = o := by
  rw [options, hk, Bool.and_true]

theorem metrics_of_keep (m : Metrics) : T.metrics m = m := by
  rw [metrics, if_pos hk]

theorem input_of_keep : T.input = Input.renumber T.play := by
  funext i
  cases i with
  | setOptions o => exact congrArg Input.setOptions (options_of_keep hk o)
  | _ => rfl

theorem entry_of_keep : T.entry = Entry.renumber T.play := by
  funext e
  cases e with
  | event e =>
    cases e with
    | finished m => exact congrArg (fun m => Entry.event (.finished m)) (metrics_of_keep hk m)
    | _ => rfl
  | sent => rfl
  | ended play outcome =>
    cases outcome with
    | ok m => exact congrArg (fun m => Entry.ended (T.play play) (.ok m)) (metrics_of_keep hk m)
    | error e => rfl

theorem run_of_keep (run : Run) : T.run run = run.renumber T.play := by
  rw [Translation.run, options_of_keep hk]
  rfl

/-- Only the numbers of plays and what was written before are different. -/
theorem runner_of_keep (r : Runner) : T.runner r =
    { r with
      plays := T.play r.plays
      runs := r.runs.map fun x => (x.1.renumber T.play, x.2)
      journal := r.journal.map (.renumber T.play) ++ T.past } := by
  simp only [runner, options_of_keep hk, metrics_of_keep hk, entry_of_keep hk, run_of_keep hk]

end Translation

namespace Runner

section Refusal

variable {r : Runner} {i : Input}

/-- Plays are numbered as after an input, and what is written by then was written before. -/
def renumbering (r : Runner) (i : Input) : Translation where
  play := r.numberAfter i
  injective := r.numberAfter_injective i
  first := r.plays
  play_succ _ := numberAfter_succ
  keep := true
  past := (r.step i).journal

theorem runner_unnumbered (past : List Entry) (r : Runner) :
    (Translation.unnumbered true past).runner r = { r with journal := r.journal ++ past } := by
  have hentry : Entry.renumber id = id := funext fun e => by cases e <;> rfl
  have hruns : (r.runs.map fun x => (x.1.renumber id, x.2)) = r.runs := List.map_id _
  rw [Translation.runner_of_keep rfl]
  simp only [Translation.unnumbered, hentry, hruns, List.map_id]
  rfl

/-- What a runner writes does not depend on what was written before. -/
theorem after_forget (r : Runner) (s : List Input) :
    r.after s = { ({ r with journal := [] } : Runner).after s with
      journal := (({ r with journal := [] } : Runner).after s).journal ++ r.journal } := by
  have hinput : Input.renumber id = id := funext fun i => by cases i <;> rfl
  have hs : s.map (Translation.unnumbered true r.journal).input = s := by
    rw [Translation.input_of_keep rfl]
    exact (congrArg (s.map ·) hinput).trans (List.map_id _)
  have h := (Translation.unnumbered true r.journal).runner_after
    (r := { r with journal := [] }) (Nat.zero_le _) s
  rw [runner_unnumbered, runner_unnumbered, hs] at h
  exact h.symm

theorem Inv.map_renumber (h : r.Inv) (i : Input) :
    (r.runs.map fun x => (x.1.renumber (r.numberAfter i), x.2)) = r.runs := by
  refine (List.map_congr_left fun x hx => ?_).trans (List.map_id _)
  have hlt : x.1.id < r.plays := (h.roster.member x hx).id_lt
  have hid : r.numberAfter i x.1.id = x.1.id := if_pos hlt
  exact congrArg (fun id => (({ x.1 with id } : Run), x.2)) hid

theorem Reachable.renumbering_runner (h : r.Reachable) (hi : r.Declines i) :
    (r.renumbering i).runner { r with journal := [] } = r.step i := by
  rw [Translation.runner_of_keep rfl, hi.step_eq_update]
  simp only [renumbering, numberAfter_plays, h.inv.map_renumber, List.map_nil, List.nil_append]

/-- **No input that is refused leaves a trace.** -/
theorem Reachable.traceless (h : r.Reachable) (hi : r.Declines i) : r.Traceless i where
  step_eq := hi.step_eq
  goesOn s := by
    have hgo := (r.renumbering i).runner_after (r := { r with journal := [] }) (Nat.le_refl _) s
    rw [h.renumbering_runner hi, Translation.input_of_keep rfl, Translation.runner_of_keep rfl]
      at hgo
    -- what is written from here on is what a runner writes that has written nothing so far
    refine ⟨(({ r with journal := [] } : Runner).after s).journal, ?_, ?_⟩
    · rw [r.after_forget]
    · exact hgo.symm.trans (by rw [r.after_forget]; rfl)

end Refusal

/-- A play waits for the signal. -/
def waitInProgress : Runner := waitAndDetection.step .play

theorem secondPlay_traceless : waitInProgress.Reachable ∧
    waitInProgress.play = .error .alreadyExecuting ∧ waitInProgress.Traceless .play := by
  have hr : waitInProgress.Reachable := ((Reachable.new _).after _).step .play
  have hp : waitInProgress.play = .error .alreadyExecuting := rfl
  exact ⟨hr, hp, hr.traceless (.play hp)⟩

end Runner

end MotionScript
