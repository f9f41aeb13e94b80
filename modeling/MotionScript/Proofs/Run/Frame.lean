import MotionScript.Proofs.Run.Parts

/-!
# What a run leaves alone

A run that goes on blocks no other run and writes nothing about another play.

* `Entry.play?`: the play that an entry of the journal is about.
* `Silent`: a part of a transition writes nothing about any play.
* `Frame`: a run leaves the other plays alone between two states of a runner.
* **`Frame.goOn`**: it does when it goes on.
* `entriesOf`, `runsOf`: what is written about a play, and where it is blocked.
* `Spares`, `step_spares`: an input that neither begins a play nor lets it go on leaves both as they
  are, up to what it tells a wait.
-/

namespace MotionScript

/-- The play that an entry is about. An event is about none. -/
def Entry.play? : Entry → Option Nat
  | event _ => none
  | sent _ play _ _ | ended play _ => some play

namespace Runner

/-! ## Parts of a transition -/

/-- Nothing but events is written, and no run is added or asked for something else. -/
structure Silent (r r' : Runner) : Prop where
  epoch_eq : r'.epoch = r.epoch
  plays_eq : r'.plays = r.plays
  control_eq : r'.control = r.control
  runs_eq : r'.runs = r.runs
  journal : ∃ l, r'.journal = l ++ r.journal ∧ ∀ e ∈ l, e.play? = none

namespace Silent

variable {run : Run} {r r' : Runner}

theorem refl (r : Runner) : Silent r r :=
  ⟨rfl, rfl, rfl, rfl, [], rfl, fun e he => by cases he⟩

/-- The other fields do not matter. -/
theorem update (h : Silent r r') {o : Options} {s : Status} {ts : List Task} {m : Metrics}
    {slot : Option Nat} {waits clock : Nat} : Silent r
      ⟨o, s, ts, m, r'.control, r'.epoch, slot, waits, r'.plays, r'.runs, clock, r'.journal⟩ :=
  ⟨h.epoch_eq, h.plays_eq, h.control_eq, h.runs_eq, h.journal⟩

theorem emit (h : Silent r r') (e : Event) : Silent r (r'.emit e) := by
  obtain ⟨l, hl, hp⟩ := h.journal
  refine ⟨h.epoch_eq, h.plays_eq, h.control_eq, h.runs_eq, .event e :: l, ?_, fun x hx => ?_⟩
  · rw [Runner.emit, note, hl]
    rfl
  · rcases List.mem_cons.1 hx with rfl | hx
    · rfl
    · exact hp x hx

theorem setPhase (h : Silent r r') (p : Phase) : Silent r (r'.setPhase p) := by
  unfold Runner.setPhase
  split
  · exact h
  · exact .emit h.update _

theorem begin (h : Silent r r') (t : Task) : Silent r (r'.begin t) :=
  .emit (.setPhase h.update _) _

theorem complete (h : Silent r r') (a : Attempt) : Silent r (r'.complete run a) := by
  obtain ⟨m, e⟩ := r'.record_eq run a.began true
  obtain ⟨m', e'⟩ := countTask_eq { r' with metrics := m } run a.task a.retries
  simp only [Runner.complete, e, e']
  exact .emit h.update _

theorem fail (h : Silent r r') (a : Attempt) (e : Failure) : Silent r (r'.fail run a e) := by
  obtain ⟨m, he⟩ := r'.record_eq run a.began false
  simp only [Runner.fail, he]
  exact .emit h.update _

theorem endWait (h : Silent r r') (w : Wake) : Silent r (r'.endWait w) := by
  have key {r' : Runner} (h : Silent r r') :
      Silent r (if r'.status.phase = .syncWait then r'.setPhase .running else r') := by
    split
    · exact h.setPhase _
    · exact h
  have hs : Silent r { r' with status := { r'.status with syncWaitStart := none } } := h.update
  cases w with
  | signalled => exact key (hs.emit _)
  | elapsed => exact key hs.update
  | answered _ | released => exact key hs

end Silent

/-- The end of a run is noted after the events that tell of it. -/
theorem finish_eq (run : Run) (outcome : Except Failure Unit) (r : Runner) :
    ∃ r' outcome', Silent r r' ∧ r.finish run outcome = r'.note (.ended run.id outcome') := by
  unfold finish
  split
  · exact ⟨_, _, .emit (.setPhase (.update (.refl r)) _) _, rfl⟩
  · exact ⟨r, _, .refl r, rfl⟩

/-! ## The course of a run -/

/-- A run leaves the other plays alone. -/
structure Frame (run : Run) (r r' : Runner) : Prop where
  epoch_eq : r'.epoch = r.epoch
  plays_eq : r'.plays = r.plays
  runs : ∃ l, r'.runs = r.runs ++ l ∧ ∀ x ∈ l, x.1 = run
  journal : ∃ l, r'.journal = l ++ r.journal ∧ ∀ e ∈ l, ∀ p, e.play? = some p → p = run.id

namespace Frame

variable {run : Run} {r r' r'' : Runner}

theorem refl (run : Run) (r : Runner) : Frame run r r where
  epoch_eq := rfl
  plays_eq := rfl
  runs := ⟨[], by simp, fun x hx => by cases hx⟩
  journal := ⟨[], rfl, fun e he => by cases he⟩

theorem silent (h : Frame run r r') (hs : Silent r' r'') : Frame run r r'' where
  epoch_eq := hs.epoch_eq.trans h.epoch_eq
  plays_eq := hs.plays_eq.trans h.plays_eq
  runs := by rw [hs.runs_eq]; exact h.runs
  journal := by
    obtain ⟨l, hl, hp⟩ := h.journal
    obtain ⟨l', hl', hp'⟩ := hs.journal
    refine ⟨l' ++ l, by rw [hl', hl, List.append_assoc], fun x hx p e => ?_⟩
    rcases List.mem_append.1 hx with hx | hx
    · rw [hp' x hx] at e
      cases e
    · exact hp x hx p e

/-- The other fields do not matter. -/
theorem update (h : Frame run r r') {o : Options} {s : Status} {ts : List Task} {m : Metrics}
    {c : Control} {slot : Option Nat} {waits clock : Nat} :
    Frame run r ⟨o, s, ts, m, c, r'.epoch, slot, waits, r'.plays, r'.runs, clock, r'.journal⟩ where
  epoch_eq := h.epoch_eq
  plays_eq := h.plays_eq
  runs := h.runs
  journal := h.journal

theorem note (h : Frame run r r') {e : Entry} (he : ∀ p, e.play? = some p → p = run.id) :
    Frame run r (r'.note e) where
  epoch_eq := h.epoch_eq
  plays_eq := h.plays_eq
  runs := h.runs
  journal := by
    obtain ⟨l, hl, hp⟩ := h.journal
    refine ⟨e :: l, by rw [Runner.note, hl]; rfl, fun x hx => ?_⟩
    rcases List.mem_cons.1 hx with rfl | hx
    · exact he
    · exact hp x hx

theorem ended (h : Frame run r r') (outcome : Except Failure Metrics) :
    Frame run r (r'.note (.ended run.id outcome)) :=
  h.note fun _ he => by cases he; rfl

theorem block (h : Frame run r r') (b : Blocked) : Frame run r (r'.block run b) where
  epoch_eq := h.epoch_eq
  plays_eq := h.plays_eq
  runs := by
    obtain ⟨l, hl, hp⟩ := h.runs
    refine ⟨l ++ [(run, b)], by rw [Runner.block, hl, List.append_assoc], fun x hx => ?_⟩
    rcases List.mem_append.1 hx with hx | hx
    · exact hp x hx
    · rw [List.mem_singleton.1 hx]
  journal := h.journal

theorem finish (h : Frame run r r') (outcome : Except Failure Unit) :
    Frame run r (r'.finish run outcome) := by
  obtain ⟨r'', outcome', hs, e⟩ := finish_eq run outcome r'
  rw [e]
  exact (h.silent hs).ended _

theorem perform (h : Frame run r r') (a : Attempt) (s : Step) :
    Frame run r (r'.perform run a s) := by
  cases s with
  | send text => exact (h.note fun _ he => by cases he; rfl).block _
  | delay ms => exact h.block _
  | signal => exact .block (.silent h.update (.emit (.setPhase (.refl _) _) _)) _

theorem advance (h : Frame run r r') (todo : List Task) : Frame run r (r'.advance run todo) := by
  fun_induction Runner.advance run todo r' with
  | case1 => exact h.block _
  | case2 | case3 | case4 => exact h.finish _
  | case5 r' _ _ t later _ ih => exact ih (h.silent (.complete (.begin (.refl r') t) _))
  | case6 r' _ _ t later s steps => exact .perform (h.silent (.begin (.refl r') t)) _ s

theorem afterFailure (h : Frame run r r') (a : Attempt) (e : Failure) :
    Frame run r (r'.afterFailure run a e) := by
  have hf : Frame run r (r'.fail run a e) := h.silent (.fail (.refl _) _ _)
  simp only [Runner.afterFailure]
  split
  · split
    · exact hf.advance _
    · exact .advance (.silent hf.update (.setPhase (.refl _) _)) _
  · split
    · exact .advance hf.update _
    · exact hf.finish _

theorem conclude (h : Frame run r r') (a : Attempt) (ending : Ending) :
    Frame run r (r'.conclude run a ending) := by
  unfold Runner.conclude
  split
  · exact h.finish _
  · cases ending with
    | done => exact Frame.advance (h.silent (.complete (.refl _) _)) _
    | interrupted => exact h.advance _
    | failed e => exact h.afterFailure a e

theorem resume (h : Frame run r r') (a : Attempt) : Frame run r (r'.resume run a) := by
  unfold Runner.resume
  split
  · split
    · exact h.block _
    · exact h.conclude _ _
  · split
    · exact h.perform _ _
    · exact h.conclude _ _

theorem hear (h : Frame run r r') (a : Attempt) (text : String) (reply : Except Fault Reply) :
    Frame run r (r'.hear run a text reply) := by
  unfold Runner.hear
  split
  · exact h.conclude _ _
  · split
    · exact h.resume _
    · exact h.conclude _ _

theorem leaveWait (h : Frame run r r') (a : Attempt) (wait : Nat) (w : Wake) :
    Frame run r (r'.leaveWait run a wait w) := by
  have hd : Frame run r (r'.disarm wait) := h.update
  have he : Frame run r ((r'.disarm wait).endWait w) := hd.silent (.endWait (.refl _) _)
  unfold Runner.leaveWait
  dsimp only
  split
  · exact hd.conclude _ _
  · cases w with
    | signalled => exact he.resume _
    | elapsed => exact he.conclude _ _
    | answered _ | released => exact he.conclude _ _

/-- **A run that goes on leaves the other plays alone.** -/
theorem goOn (h : Frame run r r') (b : Blocked) (w : Wake) : Frame run r (r'.goOn run b w) := by
  unfold Runner.goOn
  split
  · exact h.advance _
  · exact h.hear _ _ _
  · exact h.block _
  · exact h.resume _
  · exact h.conclude _ _
  · exact h.conclude _ _
  · exact h.leaveWait _ _ _

end Frame

/-! ## The other plays -/

/-- The entries about a play. -/
def entriesOf (play : Nat) (r : Runner) : List Entry :=
  r.journal.filter fun e => e.play? == some play

/-- A play that has not ended, and where it is blocked. -/
def runsOf (play : Nat) (r : Runner) : List (Run × Blocked) :=
  r.runs.filter fun x => x.1.id == play

/-- What an input leaves as it is of a play, up to what it tells the wait that takes the next
signal. -/
structure Spares (play : Nat) (r r' : Runner) : Prop where
  entries : r'.entriesOf play = r.entriesOf play
  runs : r'.runsOf play = r.runsOf play ∨ ∃ s, r'.runsOf play = tell r.slot s (r.runsOf play)

section Others

variable {run : Run} {p : Nat} {r r' : Runner}

theorem Silent.entriesOf_eq (h : Silent r r') (p : Nat) : r'.entriesOf p = r.entriesOf p := by
  obtain ⟨l, e, hl⟩ := h.journal
  have hnil : l.filter (fun e => e.play? == some p) = [] :=
    List.filter_eq_nil_iff.2 fun x hx => by simp [hl x hx]
  rw [entriesOf, e, List.filter_append, hnil]
  rfl

theorem Frame.spares (h : Frame run r r') (hp : p ≠ run.id) : Spares p r r' where
  entries := by
    obtain ⟨l, e, hl⟩ := h.journal
    have hnil : l.filter (fun e => e.play? == some p) = [] :=
      List.filter_eq_nil_iff.2 fun x hx hxp => hp (hl x hx p (by simpa using hxp))
    rw [entriesOf, e, List.filter_append, hnil]
    rfl
  runs := by
    obtain ⟨l, e, hl⟩ := h.runs
    have hnil : l.filter (fun x => x.1.id == p) = [] :=
      List.filter_eq_nil_iff.2 fun x hx hxp => hp (by rw [← hl x hx, beq_iff_eq.1 hxp])
    rw [runsOf, e, List.filter_append, hnil, List.append_nil]
    exact .inl rfl

theorem spares_of_eq (he : r'.entriesOf p = r.entriesOf p) (hr : r'.runs = r.runs) :
    Spares p r r' := ⟨he, .inl (by rw [runsOf, hr, runsOf])⟩

theorem runsOf_without {q : Nat} (hq : q ≠ p) : (r.without q).runsOf p = r.runsOf p := by
  rw [runsOf, without, List.filter_filter, runsOf]
  refine List.filter_congr fun x _ => ?_
  by_cases hx : x.1.id = p <;> simp [hx, hq.symm]

theorem wake_spares {q : Nat} (hq : q ≠ p) (w : Wake) : Spares p r (r.wake q w) := by
  rcases r.wake_eq q w with e | ⟨run, b, -, rfl, -, e⟩ <;> rw [e]
  · exact spares_of_eq rfl rfl
  · have hs := ((Frame.refl run (r.without run.id)).goOn b w).spares hq.symm
    have hr := hs.runs
    rw [runsOf_without hq] at hr
    exact ⟨hs.entries, hr⟩

theorem setMode_spares (c : Control) :
    Spares p r (setPhase c.phase { r with control := c }) := by
  unfold setPhase
  split <;> exact spares_of_eq rfl rfl

theorem tellWait_spares (s : Bool) : Spares p r (r.tellWait s) := by
  refine ⟨rfl, .inr ⟨s, ?_⟩⟩
  unfold runsOf tellWait
  cases r.slot with
  | none => rfl
  | some w =>
    rw [tell, List.filter_map]
    rfl

/-- A play that begins leaves the other plays alone. -/
theorem frame_play (h : r.play = .ok r') : Frame r.nextRun r.opened r' := by
  obtain ⟨-, rfl⟩ := play_eq_ok h
  exact ((Frame.refl r.nextRun r.opened).silent (.setPhase (.refl _) .running)).advance _

theorem launch_spares (hne : p ≠ r.plays) : Spares p r r.launch := by
  unfold launch
  split
  · next r' e =>
    have h := (frame_play e).spares hne
    exact ⟨h.entries, h.runs⟩
  · refine spares_of_eq ?_ rfl
    simp [entriesOf, note, Entry.play?, hne.symm]

/-- An input that neither begins a play nor lets it go on spares it. -/
theorem step_spares {i : Input} (hp : i = .play → p ≠ r.plays) (hi : ∀ w, i ≠ .wake p w) :
    Spares p r (r.step i) := by
  have loads {r' : Runner} (h : Loads r r') : Spares p r r' := by
    rcases h with rfl | ⟨-, tasks, rfl⟩ <;> exact spares_of_eq rfl rfl
  have mode {i : Input} (hi : i = .pause ∨ i = .unpause ∨ i = .stop) : Spares p r (r.step i) := by
    rcases r.step_mode hi with e | ⟨-, -, c, e⟩ <;> rw [e]
    · exact spares_of_eq rfl rfl
    · exact setMode_spares c
  cases i with
  | load cs => exact loads (r.step_loads.1 cs)
  | loadCompilation c => exact loads (r.step_loads.2.1 c)
  | loadScript source => exact loads (r.step_loads.2.2 source)
  | play => exact launch_spares (hp rfl)
  | pause | unpause | stop => exact mode (by simp)
  | reset =>
    have h := tellWait_spares (p := p) (r := r) false
    exact ⟨h.entries, h.runs⟩
  | signal =>
    simp only [step, signal]
    split
    · exact tellWait_spares true
    · exact spares_of_eq rfl rfl
  | setOptions o => exact spares_of_eq rfl rfl
  | pass ms => exact spares_of_eq rfl rfl
  | wake q w =>
    refine wake_spares (fun hq => ?_) w
    exact hi w (by rw [hq])

theorem launch_eq (r : Runner) : r.launch.epoch = r.epoch ∧ r.launch.plays = r.plays + 1 := by
  unfold launch
  split
  · next r' e => exact ⟨(frame_play e).epoch_eq, (frame_play e).plays_eq⟩
  · exact ⟨rfl, rfl⟩

/-- The numbers of resets and of plays do not decrease. -/
theorem le_step (r : Runner) (i : Input) :
    r.epoch ≤ (r.step i).epoch ∧ r.plays ≤ (r.step i).plays := by
  have same : r.epoch ≤ r.epoch ∧ r.plays ≤ r.plays := ⟨Nat.le_refl _, Nat.le_refl _⟩
  have loads {r' : Runner} (h : Loads r r') : r.epoch ≤ r'.epoch ∧ r.plays ≤ r'.plays := by
    rcases h with rfl | ⟨-, tasks, rfl⟩ <;> exact same
  have mode {i : Input} (hi : i = .pause ∨ i = .unpause ∨ i = .stop) :
      r.epoch ≤ (r.step i).epoch ∧ r.plays ≤ (r.step i).plays := by
    rcases r.step_mode hi with e | ⟨-, -, c, e⟩ <;> rw [e]
    · exact same
    · obtain ⟨j, e⟩ := setPhase_eq { r with control := c } c.phase
      rw [e]
      exact same
  cases i with
  | load cs => exact loads (r.step_loads.1 cs)
  | loadCompilation c => exact loads (r.step_loads.2.1 c)
  | loadScript source => exact loads (r.step_loads.2.2 source)
  | play =>
    rw [step, r.launch_eq.1, r.launch_eq.2]
    exact ⟨Nat.le_refl _, Nat.le_succ _⟩
  | pause | unpause | stop => exact mode (by simp)
  | reset => exact ⟨Nat.le_succ _, Nat.le_refl _⟩
  | signal =>
    simp only [step, signal]
    split <;> exact same
  | setOptions o => exact same
  | pass ms => exact same
  | wake q w =>
    simp only [step]
    rcases r.wake_eq q w with e | ⟨run, b, -, rfl, -, e⟩ <;> rw [e]
    · exact same
    · have h := (Frame.refl run (r.without run.id)).goOn b w
      rw [h.epoch_eq, h.plays_eq]
      exact same

end Others

end Runner

end MotionScript
