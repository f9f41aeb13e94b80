import MotionScript.Proofs.Run.Completion
import MotionScript.Proofs.Run.Diary

/-!
# The announcements of a play are well bracketed

A command that is started is ended at most once before the next one is started, and its waits are
told of inside it. A play that is not abandoned by a reset tells once that it is finished, at its
end.

* `Stage`, `stage`: what a listener makes out about the command that a play is at.
* `Event.Belongs`, `WellBracketed`: an event is in its place after what came about before.
* `Closing`: how a play is closed by what is announced.
* `Bracketing`, `bracketing_keeps`: what is announced goes along with the course of a run.
* **`Reachable.brackets`**: the announcements of every play are well bracketed.
-/

namespace MotionScript

/-- What a listener makes out about the command that a play is at. -/
inductive Stage where
  /-- No command is begun and not ended. -/
  | between
  /-- A command is begun. -/
  | begun (index : Nat)
  /-- It waits for the signal. -/
  | awaiting (index : Nat)
  /-- The signal came. -/
  | released (index : Nat)
  /-- The play is finished. -/
  | closed
  deriving DecidableEq

/-- The command that is begun and not ended. -/
def Stage.index? : Stage → Option Nat
  | begun i | awaiting i | released i => some i
  | between | closed => none

/-- The signal comes. -/
def Stage.release : Stage → Stage
  | awaiting i => released i
  | s => s

/-- The stage that some moments lead to, last moment first. -/
def stage : List Moment → Stage
  | [] => .between
  | .told (.started i _) :: _ => .begun i
  | .told (.waiting i _) :: _ => .awaiting i
  | .told .signalled :: l => (stage l).release
  | .told (.completed _ _) :: _ | .told (.failed _ _) :: _ => .between
  | .told (.finished _) :: _ => .closed
  | .told (.phaseChanged _) :: l | .woken _ _ :: l | .stopped :: l | .abandoned :: l => stage l

/-- Whether a command is passed: it is completed, or it fails and is left out. -/
def Moment.passes (o : Options) : Moment → Bool
  | told (.completed _ _) => true
  | told (.failed _ _) => o.skips
  | _ => false

/-- The number of commands passed. -/
def passed (o : Options) (l : List Moment) : Nat := l.countP (Moment.passes o)

/-- An event is in its place after what came about before in a play that began with the command at
`start`. -/
def Event.Belongs (o : Options) (tasks : List Task) (start : Nat) (l : List Moment) : Event → Prop
  | started i raw => stage l = .between ∧ .stopped ∉ l ∧ i = start + passed o l ∧
      ∃ t, tasks[i]? = some t ∧ t.command.raw = raw
  | completed i _ | failed i _ => (stage l).index? = some i
  | waiting i timeout => stage l = .begun i ∧ timeout = o.syncTimeout ∧
      ∃ t, tasks[i]? = some t ∧ t.command.instruction = .wait
  | signalled => ∃ i, stage l = .awaiting i
  | finished _ => stage l = .between ∨ .stopped ∈ l
  | phaseChanged _ => True

/-- Every event is in its place, and none comes after the end of the play. -/
def WellBracketed (o : Options) (tasks : List Task) (start : Nat) : List Moment → Prop
  | [] => True
  | m :: l => (∀ e, m = .told e → stage l ≠ .closed ∧ .abandoned ∉ l ∧ e.Belongs o tasks start l) ∧
      WellBracketed o tasks start l

/-- What tells of the attempt of a command after its start. -/
inductive Mark where
  | waiting (index : Nat)
  | signalled
  | ended (index : Nat)

namespace Moment

/-- What a moment tells of an attempt after its start. A command that is completed or fails is
ended. -/
def mark? : Moment → Option Mark
  | told (.waiting i _) => some (.waiting i)
  | told .signalled => some .signalled
  | told (.completed i _) | told (.failed i _) => some (.ended i)
  | _ => none

/-- Whether a command is started. -/
def IsStart : Moment → Prop
  | told (.started _ _) => True
  | _ => False

end Moment

/-- What is told of an attempt of the command `i` after its start, last moment first: that it waits
for the signal, then that the signal came, and after that its end. -/
structure AttemptTold (tasks : List Task) (i : Nat) (l : List Moment) (ended waited : List Mark) :
    Prop where
  marks_eq : l.filterMap Moment.mark? = ended ++ waited
  ended_eq : ended = [] ∨ ended = [.ended i]
  waited_suffix : waited <:+ [.signalled, .waiting i]
  /-- Only a wait waits. -/
  wait : waited ≠ [] → ∃ t, tasks[i]? = some t ∧ t.command.instruction = .wait

/-- The announcements of a play, last moment first, are bracketed: what is told of a command comes
between its start and the next one. -/
structure Brackets (o : Options) (tasks : List Task) (start : Nat) (d : List Moment) : Prop where
  /-- The command that is started is the one at the cursor, and none is after a stop. -/
  started : ∀ later i raw before, d = later ++ .told (.started i raw) :: before →
    .stopped ∉ before ∧ i = start + passed o before ∧
      ∃ t, tasks[i]? = some t ∧ t.command.raw = raw
  /-- A command is ended at most once before the next one is started, and by its own end. If it is
  not ended, then no other one is started, and the play is finished only after a stop. -/
  attempt : ∀ later l i raw before, d = later ++ (l ++ .told (.started i raw) :: before) →
    (∀ m ∈ l, ¬ m.IsStart) → ∃ ended waited, AttemptTold tasks i l ended waited ∧
      (ended = [] → (∀ later' j raw', later ≠ later' ++ [.told (.started j raw')]) ∧
        ∀ m, .told (.finished m) ∈ l → .stopped ∈ l)
  /-- Nothing is told of a command before the first start. -/
  outside : ∀ later before, d = later ++ before → (∀ m ∈ before, ¬ m.IsStart) →
    before.filterMap Moment.mark? = []
  /-- Nothing is announced after the end, or after the play is abandoned. -/
  last : ∀ later m before, d = later ++ m :: before →
    (m = .abandoned ∨ ∃ metrics, m = .told (.finished metrics)) → ∀ e, .told e ∉ later

/-- What the stage that a listener makes out says of an attempt of the command `i`. -/
def Stage.Tells (i : Nat) (l : List Moment) (ended waited : List Mark) : Stage → Prop
  | .begun j => j = i ∧ ended = [] ∧ waited = []
  | .awaiting j => j = i ∧ ended = [] ∧ waited = [.waiting i]
  | .released j => j = i ∧ ended = [] ∧ waited = [.signalled, .waiting i]
  | .between => ended = [.ended i]
  | .closed => ended = [.ended i] ∨ ended = [] ∧ .stopped ∈ l

/-- What is told of an attempt of the command `i` goes along with the stage. -/
def Tracks (tasks : List Task) (i : Nat) (l : List Moment) (st : Stage) : Prop :=
  ∃ ended waited, AttemptTold tasks i l ended waited ∧ st.Tells i l ended waited

/-- The stage that a listener makes out where a run is. -/
def Place.Staged (l : List Moment) (r : Runner) : Place → Prop
  | .before _ =>
    stage l = .between ∨ r.control = .stop ∧ (stage l).index? = some r.status.cursor
  | .within a => (stage l).index? = some r.status.cursor ∧
      (.signal ∈ a.steps → stage l = .begun r.status.cursor ∧ .signal ∈ a.task.steps)
  | .done _ | .failing _ _ => (stage l).index? = some r.status.cursor
  | .blocked (.paused _) => stage l = .between
  | .blocked (.waiting _ _ _ _) => stage l = .awaiting r.status.cursor
  | .blocked (.calling _ _) | .blocked (.holding _ _) | .blocked (.spacing _ _) =>
    (stage l).index? = some r.status.cursor
  | .ended => ∃ l', l = .told (.finished r.metrics) :: l' ∧ stage l' ≠ .closed

section Announcements

variable {o : Options} {tasks : List Task} {start i j : Nat} {p : Place} {st : Stage}
  {m : Moment} {l l' : List Moment} {r : Runner}

/-! ## Phases are announced at any time -/

theorem Moment.IsPhase.passes_eq (h : m.IsPhase) : m.passes o = false := by
  cases m with
  | told e => cases e <;> first | rfl | cases h
  | woken | stopped | abandoned => cases h

theorem passed_phases (hl : ∀ m ∈ l', m.IsPhase) (l : List Moment) :
    passed o (l' ++ l) = passed o l := by
  have hnone : l'.countP (Moment.passes o) = 0 :=
    List.countP_eq_zero.2 fun m hm => by simp [(hl m hm).passes_eq]
  rw [passed, List.countP_append, hnone, Nat.zero_add, passed]

theorem stage_phases (hl : ∀ m ∈ l', m.IsPhase) (l : List Moment) :
    stage (l' ++ l) = stage l := by
  induction l' with
  | nil => rfl
  | cons m l' ih =>
    rw [← ih fun x hx => hl x (List.mem_cons_of_mem _ hx)]
    have hm := hl m List.mem_cons_self
    cases m with
    | told e => cases e <;> first | rfl | cases hm
    | woken | stopped | abandoned => cases hm

theorem mem_phases (hl : ∀ m ∈ l', m.IsPhase) (hm : ¬ m.IsPhase) (l : List Moment) :
    m ∈ l' ++ l ↔ m ∈ l := by
  rw [List.mem_append, or_iff_right fun h => hm (hl m h)]

theorem WellBracketed.phases (h : WellBracketed o tasks start l) (hs : stage l ≠ .closed)
    (hr : .abandoned ∉ l) (hl : ∀ m ∈ l', m.IsPhase) :
    WellBracketed o tasks start (l' ++ l) := by
  induction l' with
  | nil => exact h
  | cons m l' ih =>
    have hl' : ∀ m ∈ l', m.IsPhase := fun x hx => hl x (List.mem_cons_of_mem _ hx)
    refine ⟨?_, ih hl'⟩
    rintro e rfl
    refine ⟨?_, ?_, ?_⟩
    · exact (stage_phases hl' l).symm ▸ hs
    · exact fun ha => hr ((mem_phases hl' id l).1 ha)
    · have he := hl _ List.mem_cons_self
      cases e <;> trivial

theorem WellBracketed.finished_notMem (h : WellBracketed o tasks start l) (hs : stage l ≠ .closed)
    (m : Metrics) : .told (.finished m) ∉ l := by
  induction l with
  | nil => exact List.not_mem_nil
  | cons x l ih =>
    have hstage : stage l ≠ .closed := by
      cases x with
      | told e => exact (h.1 e rfl).1
      | woken | stopped | abandoned => exact hs
    rw [List.mem_cons, not_or]
    refine ⟨?_, ih h.2 hstage⟩
    rintro rfl
    exact hs rfl

/-! ## Events in their places are bracketed -/

/-- What was announced before some moment is well bracketed as well. -/
theorem WellBracketed.of_append (h : WellBracketed o tasks start (l' ++ l)) :
    WellBracketed o tasks start l := by
  induction l' with
  | nil => exact h
  | cons m l' ih => exact ih h.2

theorem tracks_nil (i : Nat) : Tracks tasks i [] (.begun i) :=
  ⟨[], [], ⟨rfl, .inl rfl, List.nil_suffix, fun h => absurd rfl h⟩, rfl, rfl, rfl⟩

theorem Tracks.plain (h : Tracks tasks i l st) (hm : m.mark? = none) :
    Tracks tasks i (m :: l) st := by
  obtain ⟨ended, waited, ha, hst⟩ := h
  refine ⟨ended, waited, { ha with marks_eq := ?_ }, ?_⟩
  · rw [List.filterMap_cons, hm]
    exact ha.marks_eq
  · cases st with
    | closed => exact hst.imp_right fun hst => ⟨hst.1, List.mem_cons_of_mem _ hst.2⟩
    | _ => exact hst

/-- It is the command that was started that is ended, and it is not ended twice. -/
theorem Tracks.ended (h : Tracks tasks i l st) (hm : m.mark? = some (.ended j))
    (hj : st.index? = some j) : Tracks tasks i (m :: l) .between := by
  obtain ⟨ended, waited, ha, hst⟩ := h
  obtain ⟨rfl, rfl⟩ : j = i ∧ ended = [] := by
    cases st with
    | begun k | awaiting k | released k =>
      cases hj
      exact ⟨hst.1, hst.2.1⟩
    | between | closed => cases hj
  refine ⟨[.ended j], waited, ⟨?_, .inr rfl, ha.waited_suffix, ha.wait⟩, rfl⟩
  rw [List.filterMap_cons, hm, ha.marks_eq]
  rfl

theorem Tracks.waiting (h : Tracks tasks i l (.begun j)) (n : Nat)
    (hwait : ∃ t, tasks[j]? = some t ∧ t.command.instruction = .wait) :
    Tracks tasks i (.told (.waiting j n) :: l) (.awaiting j) := by
  obtain ⟨-, -, ha, rfl, rfl, rfl⟩ := h
  refine ⟨[], [.waiting j], ⟨?_, .inl rfl, ⟨[.signalled], rfl⟩, fun _ => hwait⟩, rfl, rfl, rfl⟩
  exact congrArg (_ :: ·) ha.marks_eq

theorem Tracks.signalled (h : Tracks tasks i l (.awaiting j)) :
    Tracks tasks i (.told .signalled :: l) (.released j) := by
  obtain ⟨-, -, ha, rfl, rfl, rfl⟩ := h
  refine ⟨[], [.signalled, .waiting j],
    ⟨?_, .inl rfl, List.suffix_rfl, fun _ => ha.wait (by simp)⟩, rfl, rfl, rfl⟩
  exact congrArg (_ :: ·) ha.marks_eq

theorem Tracks.finished (h : Tracks tasks i l st) (hst : st = .between ∨ .stopped ∈ l)
    (metrics : Metrics) : Tracks tasks i (.told (.finished metrics) :: l) .closed := by
  obtain ⟨ended, waited, ha, ht⟩ := h
  refine ⟨ended, waited, ⟨ha.marks_eq, ha.ended_eq, ha.waited_suffix, ha.wait⟩, ?_⟩
  rcases hst with rfl | hstopped
  · exact .inl ht
  · exact ha.ended_eq.symm.imp id fun he => ⟨he, List.mem_cons_of_mem _ hstopped⟩

/-- What is told of an attempt goes along with the stage. The induction is on what comes about since
the start. -/
theorem WellBracketed.attempt {raw : String}
    (h : WellBracketed o tasks start (l' ++ .told (.started i raw) :: l))
    (hl : ∀ m ∈ l', ¬ m.IsStart) :
    Tracks tasks i l' (stage (l' ++ .told (.started i raw) :: l)) := by
  induction l' with
  | nil => exact tracks_nil i
  | cons m l' ih =>
    rw [List.cons_append] at h ⊢
    have htracks := ih h.2 fun x hx => hl x (List.mem_cons_of_mem _ hx)
    cases m with
    | woken b w | stopped | abandoned => exact htracks.plain rfl
    | told e =>
      obtain ⟨-, -, hf⟩ := h.1 e rfl
      cases e with
      | phaseChanged p => exact htracks.plain rfl
      | started => exact absurd trivial (hl _ List.mem_cons_self)
      | completed j n | failed j text => exact htracks.ended rfl hf
      | waiting j n =>
        obtain ⟨hbegun, -, hwait⟩ := hf
        rw [hbegun] at htracks
        exact htracks.waiting n hwait
      | signalled =>
        obtain ⟨j, hawaiting⟩ := hf
        rw [hawaiting] at htracks
        rw [stage, hawaiting]
        exact htracks.signalled
      | finished metrics =>
        -- a stop before the start would have kept the command from being started
        have hstart : .stopped ∉ l := (h.2.of_append.1 _ rfl).2.2.2.1
        exact htracks.finished (hf.imp_right fun hs => by simpa [hstart] using hs) metrics

theorem WellBracketed.outside (h : WellBracketed o tasks start l) (hl : ∀ m ∈ l, ¬ m.IsStart) :
    l.filterMap Moment.mark? = [] ∧ (stage l = .between ∨ stage l = .closed) := by
  induction l with
  | nil => exact ⟨rfl, .inl rfl⟩
  | cons m l ih =>
    obtain ⟨hmarks, hst⟩ := ih h.2 fun x hx => hl x (List.mem_cons_of_mem _ hx)
    have hidle : (stage l).index? = none := by rcases hst with hst | hst <;> rw [hst] <;> rfl
    cases m with
    | woken b w | stopped | abandoned => exact ⟨hmarks, hst⟩
    | told e =>
      obtain ⟨-, -, hf⟩ := h.1 e rfl
      cases e with
      | phaseChanged p => exact ⟨hmarks, hst⟩
      | finished metrics => exact ⟨hmarks, .inr rfl⟩
      | started => exact absurd trivial (hl _ List.mem_cons_self)
      | completed j n | failed j text => cases hidle.symm.trans hf
      | waiting j n => cases hidle.symm.trans (congrArg Stage.index? hf.1)
      | signalled =>
        obtain ⟨j, hawaiting⟩ := hf
        cases hidle.symm.trans (congrArg Stage.index? hawaiting)

theorem stage_untold (hl : ∀ e, .told e ∉ l') (l : List Moment) : stage (l' ++ l) = stage l := by
  induction l' with
  | nil => rfl
  | cons m l' ih =>
    rw [← ih fun e he => hl e (List.mem_cons_of_mem _ he)]
    cases m with
    | told e => exact absurd List.mem_cons_self (hl e)
    | woken | stopped | abandoned => rfl

/-- Nothing is announced after the end, or after the play is abandoned. -/
theorem WellBracketed.silent (h : WellBracketed o tasks start (l' ++ l))
    (hl : stage l = .closed ∨ .abandoned ∈ l) (e : Event) : .told e ∉ l' := by
  induction l' generalizing e with
  | nil => exact List.not_mem_nil
  | cons m l' ih =>
    rw [List.cons_append] at h
    rw [List.mem_cons, not_or]
    refine ⟨?_, ih h.2 e⟩
    rintro rfl
    obtain ⟨hopen, hkept, -⟩ := h.1 e rfl
    rcases hl with hl | hl
    · exact hopen ((stage_untold (ih h.2) l).trans hl)
    · exact hkept (List.mem_append_right _ hl)

/-- **Events that are in their places are bracketed.** -/
theorem Brackets.of_wellBracketed (h : WellBracketed o tasks start l) :
    Brackets o tasks start l where
  started := by
    rintro later i raw before rfl
    obtain ⟨-, hn, hi, ht⟩ := (h.of_append.1 _ rfl).2.2
    exact ⟨hn, hi, ht⟩
  attempt := by
    rintro later mid i raw before rfl hmid
    obtain ⟨ended, waited, ha, hst⟩ := h.of_append.attempt hmid
    refine ⟨ended, waited, ha, fun he => ⟨?_, fun m hm => ?_⟩⟩
    · rintro later' j raw' rfl
      rw [List.append_assoc] at h
      have hbetween : stage (mid ++ .told (.started i raw) :: before) = .between :=
        (h.of_append.1 _ rfl).2.2.1
      rw [hbetween] at hst
      cases he.symm.trans hst
    · have hclosed : stage (mid ++ .told (.started i raw) :: before) = .closed :=
        Decidable.byContradiction fun hn =>
          h.of_append.finished_notMem hn m (List.mem_append_left _ hm)
      rw [hclosed] at hst
      rcases hst with hst | hst
      · cases he.symm.trans hst
      · exact hst.2
  outside := by
    rintro later before rfl hb
    exact (h.of_append.outside hb).1
  last := by
    rintro later m before rfl hm e
    refine h.silent ?_ e
    rcases hm with rfl | ⟨metrics, rfl⟩
    · exact .inr List.mem_cons_self
    · exact .inl rfl

/-! ## The stage goes along with the place -/

theorem Stage.ne_closed (h : st.index? = some i) : st ≠ .closed := by
  rintro rfl
  cases h

theorem Place.Staged.ne_closed (h : p.Staged l r) (hp : p ≠ .ended) : stage l ≠ .closed := by
  cases p with
  | before todo =>
    rcases h with h | ⟨-, h⟩
    · rw [h]
      rintro ⟨⟩
    · exact Stage.ne_closed h
  | within a => exact Stage.ne_closed h.1
  | done a | failing a e => exact Stage.ne_closed h
  | blocked b =>
    cases b with
    | paused todo =>
      have h : stage l = .between := h
      rw [h]
      rintro ⟨⟩
    | waiting a wait d told =>
      have h : stage l = .awaiting r.status.cursor := h
      rw [h]
      rintro ⟨⟩
    | calling a text | holding a d | spacing a d => exact Stage.ne_closed h
  | ended => exact absurd rfl hp

end Announcements

namespace Runner

/-- How a play that begins in a state `r` is closed after a schedule. As long as it is in progress
it does not tell that it is finished. At its end it does, with the metrics that the runner then has,
and nothing comes about afterwards. If it is abandoned by a reset it does not. -/
inductive Closing (r : Runner) : List Input → Prop where
  | going {s : List Input} {b : Blocked} (hb : (r.nextRun, b) ∈ (r.after (.play :: s)).current)
    (hcursor : (r.after (.play :: s)).status.cursor =
      r.startIndex + passed r.options (diary r.plays (.play :: s) r))
    (hn : ∀ m, .told (.finished m) ∉ diary r.plays (.play :: s) r) : Closing r s
  | finished {s : List Input} {l : List Moment}
    (hx : (r.after (.play :: s)).status.executing = false)
    (hcursor : (r.after (.play :: s)).status.cursor =
      r.startIndex + passed r.options (diary r.plays (.play :: s) r))
    (hl : diary r.plays (.play :: s) r = .told (.finished (r.after (.play :: s)).metrics) :: l)
    (hn : ∀ m, .told (.finished m) ∉ l) (hr : .abandoned ∉ l) (s' : List Input)
    (hd : diary r.plays (.play :: (s ++ s')) r = diary r.plays (.play :: s) r) : Closing r (s ++ s')
  | abandoned {s : List Input} {b : Blocked} (hb : (r.nextRun, b) ∈ (r.after (.play :: s)).current)
    (s' : List Input) {l : List Moment}
    (hl : diary r.plays (.play :: (s ++ .reset :: s')) r = .abandoned :: l)
    (hn : ∀ m, .told (.finished m) ∉ l) : Closing r (s ++ .reset :: s')

/-- What is announced so far goes along with the state of a runner. -/
structure Noted (run : Run) (tasks : List Task) (start : Nat) (l : List Moment) (r : Runner) :
    Prop where
  wellBracketed : WellBracketed run.options tasks start l
  epoch_eq : run.epoch = r.epoch
  tasks_eq : r.tasks = tasks
  cursor_eq : r.status.cursor = start + passed run.options l
  stop_iff : .stopped ∈ l ↔ r.control = .stop
  kept : .abandoned ∉ l

/-- What is announced goes along with the course of a run. -/
structure Bracketing (run : Run) (tasks : List Task) (start : Nat) (p : Place) (l : List Moment)
    (r : Runner) : Prop extends Noted run tasks start l r where
  todo_eq : p = .ended ∨ p.todo = r.tasks.drop r.status.cursor
  staged : p.Staged l r

section Bracket

variable {run : Run} {tasks : List Task} {start : Nat} {p p' : Place} {b b' : Blocked}
  {w : Wake} {e : Event} {l l' : List Moment} {s : List Input} {r r' : Runner}

/-! ## What is announced goes along with the state -/

theorem Noted.congr (h : Noted run tasks start l r) (he : r'.epoch = r.epoch)
    (ht : r'.tasks = r.tasks) (hc : r'.status.cursor = r.status.cursor)
    (hs : r'.control = .stop ↔ r.control = .stop) : Noted run tasks start l r' :=
  ⟨h.wellBracketed, h.epoch_eq.trans he.symm, ht.trans h.tasks_eq, hc.trans h.cursor_eq,
    h.stop_iff.trans hs.symm, h.kept⟩

theorem Noted.phases (h : Noted run tasks start l r) (hs : stage l ≠ .closed)
    (hl : ∀ m ∈ l', m.IsPhase) : Noted run tasks start (l' ++ l) r :=
  ⟨h.wellBracketed.phases hs h.kept hl, h.epoch_eq, h.tasks_eq,
    by rw [passed_phases hl]; exact h.cursor_eq, by rw [mem_phases hl id]; exact h.stop_iff,
    by rw [mem_phases hl id]; exact h.kept⟩

/-- An event is announced, and the cursor passes the command if the event tells so. -/
theorem Noted.told (h : Noted run tasks start l r) (hs : stage l ≠ .closed)
    (hf : e.Belongs run.options tasks start l)
    (hc : r'.status.cursor =
      r.status.cursor + if (Moment.told e).passes run.options then 1 else 0)
    (he : r'.epoch = r.epoch) (ht : r'.tasks = r.tasks)
    (hstop : r'.control = .stop ↔ r.control = .stop) :
    Noted run tasks start (.told e :: l) r' where
  wellBracketed := ⟨by rintro _ ⟨⟩; exact ⟨hs, h.kept, hf⟩, h.wellBracketed⟩
  epoch_eq := h.epoch_eq.trans he.symm
  tasks_eq := ht.trans h.tasks_eq
  cursor_eq := by
    rw [hc, h.cursor_eq, passed, passed, List.countP_cons, Nat.add_assoc]
  stop_iff := by
    rw [List.mem_cons, or_iff_right (by simp), hstop]
    exact h.stop_iff
  kept := by
    rw [List.mem_cons, not_or]
    exact ⟨by simp, h.kept⟩

theorem Noted.woken (h : Noted run tasks start l r) (b : Blocked) (w : Wake) :
    Noted run tasks start (.woken b w :: l) r where
  wellBracketed := ⟨(by rintro _ ⟨⟩), h.wellBracketed⟩
  epoch_eq := h.epoch_eq
  tasks_eq := h.tasks_eq
  cursor_eq := by
    rw [h.cursor_eq, passed, passed, List.countP_cons_of_neg (by simp [Moment.passes])]
  stop_iff := by
    rw [List.mem_cons, or_iff_right (by simp)]
    exact h.stop_iff
  kept := by
    rw [List.mem_cons, not_or]
    exact ⟨by simp, h.kept⟩

theorem Noted.stopped (h : Noted run tasks start l r) (he : r'.epoch = r.epoch)
    (ht : r'.tasks = r.tasks) (hc : r'.status.cursor = r.status.cursor)
    (hs : r'.control = .stop) : Noted run tasks start (.stopped :: l) r' where
  wellBracketed := ⟨(by rintro _ ⟨⟩), h.wellBracketed⟩
  epoch_eq := h.epoch_eq.trans he.symm
  tasks_eq := ht.trans h.tasks_eq
  cursor_eq := by
    rw [hc, h.cursor_eq, passed, passed, List.countP_cons_of_neg (by simp [Moment.passes])]
  stop_iff := iff_of_true List.mem_cons_self hs
  kept := by
    rw [List.mem_cons, not_or]
    exact ⟨by simp, h.kept⟩

/-! ## The course of a run -/

theorem Noted.begin (h : Noted run tasks start l r) (hst : stage l = .between)
    (hc : r.control = .run) {t : Task} (ht : tasks[r.status.cursor]? = some t) :
    Noted run tasks start (tells r (r.begin t) ++ l) (r.begin t) ∧
      stage (tells r (r.begin t) ++ l) = .begun (r.begin t).status.cursor := by
  obtain ⟨l', hl', et⟩ := r.tells_begin t
  obtain ⟨j, e⟩ := r.begin_eq t
  have hopen : stage l ≠ .closed := by
    rw [hst]
    rintro ⟨⟩
  have hn : .stopped ∉ l' ++ l := by
    rw [mem_phases hl' id, h.stop_iff, hc]
    rintro ⟨⟩
  have hf : (Event.started r.status.cursor t.command.raw).Belongs run.options tasks start
      (l' ++ l) :=
    ⟨by rw [stage_phases hl', hst], hn, by rw [passed_phases hl', h.cursor_eq], t, ht, rfl⟩
  rw [et, e]
  exact ⟨(h.phases hopen hl').told (by rwa [stage_phases hl']) hf rfl rfl rfl Iff.rfl, rfl⟩

theorem Noted.await (h : Noted run tasks start l r) {a : Attempt}
    (hst : stage l = .begun r.status.cursor) (htodo : a.todo = r.tasks.drop r.status.cursor)
    (hs : .signal ∈ a.task.steps) :
    Noted run tasks start (tells r (r.perform run a .signal) ++ l) (r.perform run a .signal) ∧
      stage (tells r (r.perform run a .signal) ++ l) =
        .awaiting (r.perform run a .signal).status.cursor := by
  obtain ⟨l', hl', et⟩ := r.tells_perform_signal run a
  obtain ⟨slot, waits, began, phase, b, j, e⟩ := r.perform_eq run a .signal
  have hopen : stage l ≠ .closed := by
    rw [hst]
    rintro ⟨⟩
  have ht : tasks[r.status.cursor]? = some a.task := by
    rw [← h.tasks_eq]
    exact getElem?_cursor htodo
  have hf : (Event.waiting r.status.cursor run.options.syncTimeout).Belongs run.options tasks start
      (l' ++ l) :=
    ⟨by rw [stage_phases hl', hst], rfl, a.task, ht,
      instruction_eq_of_signal_mem a.task.planned hs⟩
  rw [et, e]
  exact ⟨(h.phases hopen hl').told (by rwa [stage_phases hl']) hf rfl rfl rfl Iff.rfl, rfl⟩

theorem Noted.finish (h : Noted run tasks start l r)
    (hst : stage l = .between ∨ r.control = .stop ∧ stage l ≠ .closed)
    (outcome : Except Failure Unit) :
    Bracketing run tasks start .ended (tells r (r.finish run outcome) ++ l)
      (r.finish run outcome) := by
  have hopen : stage l ≠ .closed := by
    rcases hst with hst | ⟨-, hst⟩
    · rw [hst]
      rintro ⟨⟩
    · exact hst
  obtain ⟨l', hl', e⟩ := tells_finish h.epoch_eq outcome
  obtain ⟨m, j, e'⟩ := r.close_eq run outcome
  have hr : r.finish run outcome = r.close run outcome := if_pos h.epoch_eq
  have hphases := h.phases hopen hl'
  have hf : (Event.finished (r.finish run outcome).metrics).Belongs run.options tasks start
      (l' ++ l) := by
    refine hst.imp (fun hst => ?_) fun hst => ?_
    · rw [stage_phases hl', hst]
    · exact (mem_phases hl' id l).2 (h.stop_iff.2 hst.1)
  have hopen' : stage (l' ++ l) ≠ .closed := by rwa [stage_phases hl']
  rw [e]
  refine ⟨hphases.told hopen' hf ?_ ?_ ?_ ?_, .inl rfl, l' ++ l, rfl, hopen'⟩ <;>
    rw [hr, e']
  rfl

theorem Noted.fail (h : Noted run tasks start l r)
    (hst : (stage l).index? = some r.status.cursor) (hk : run.options.skips = false) (a : Attempt)
    (e : Failure) : Noted run tasks start
      (.told (.failed r.status.cursor (failureText a.task e)) :: l) (r.fail run a e) := by
  obtain ⟨m, e'⟩ := r.fail_eq run a e
  refine h.told (Stage.ne_closed hst) hst ?_ ?_ ?_ ?_ <;> rw [e']
  simp [Moment.passes, hk]

theorem Noted.failPaused (h : Noted run tasks start l r) (hc : r.control ≠ .stop)
    (hst : (stage l).index? = some r.status.cursor) (hk : run.options.skips = false) (a : Attempt)
    (e : Failure) :
    Noted run tasks start
        (tells r (setPhase .paused { r.fail run a e with control := .pause }) ++ l)
        (setPhase .paused { r.fail run a e with control := .pause }) ∧
      stage (tells r (setPhase .paused { r.fail run a e with control := .pause }) ++ l) =
        .between := by
  let q : Runner := { r.fail run a e with control := .pause }
  have hcontrol : (r.fail run a e).control = r.control := by
    obtain ⟨m, e'⟩ := r.fail_eq run a e
    rw [e']
  have hq : Noted run tasks start
      (.told (.failed r.status.cursor (failureText a.task e)) :: l) q :=
    (h.fail hst hk a e).congr rfl rfl rfl (by simp [q, hcontrol, hc])
  obtain ⟨l', hl', et⟩ := r.tells_pause_fail run a e
  obtain ⟨j, e'⟩ := q.setPhase_eq .paused
  have hn : Noted run tasks start _ (q.setPhase .paused) :=
    (hq.phases (by rintro ⟨⟩) hl').congr (by rw [e']) (by rw [e']) (by rw [e']) (by rw [e'])
  rw [et, List.append_assoc]
  exact ⟨hn, stage_phases hl' _⟩

theorem Noted.quiet (h : Noted run tasks start l r) (hj : r'.journal = r.journal)
    (he : r'.epoch = r.epoch) (ht : r'.tasks = r.tasks)
    (hc : r'.status.cursor = r.status.cursor) (hstop : r'.control = .stop ↔ r.control = .stop)
    (htodo : p = .ended ∨ p.todo = r'.tasks.drop r'.status.cursor) (hst : p.Staged l r') :
    Bracketing run tasks start p (tells r r' ++ l) r' := by
  rw [tells_of_eq hj]
  exact ⟨h.congr he ht hc hstop, htodo, hst⟩

theorem Noted.complete (h : Noted run tasks start l r)
    (hst : (stage l).index? = some r.status.cursor) (a : Attempt) :
    Noted run tasks start (.told (.completed r.status.cursor (r.clock - a.began)) :: l)
      (r.complete run a) := by
  obtain ⟨m, e⟩ := r.complete_eq run a
  refine h.told (Stage.ne_closed hst) hst ?_ ?_ ?_ ?_ <;> rw [e]
  rfl

theorem Noted.failSkipped (h : Noted run tasks start l r)
    (hst : (stage l).index? = some r.status.cursor) (hk : run.options.skips = true) (a : Attempt)
    (e : Failure) : Noted run tasks start
      (.told (.failed r.status.cursor (failureText a.task e)) :: l) (r.fail run a e).skip := by
  obtain ⟨m, e'⟩ := r.fail_eq run a e
  refine h.told (Stage.ne_closed hst) hst ?_ ?_ ?_ ?_ <;> simp [skip, e', Moment.passes, hk]

theorem Bracketing.begin (h : Bracketing run tasks start p l r) (hst : stage l = .between)
    (hc : r.control = .run) {t : Task} {later : List Task}
    (htodo : t :: later = r.tasks.drop r.status.cursor)
    (htodo' : (Place.within ⟨t, later, t.steps, 0, false, r.clock⟩).todo =
      (r.begin t).tasks.drop (r.begin t).status.cursor) :
    Bracketing run tasks start (.within ⟨t, later, t.steps, 0, false, r.clock⟩)
      (tells r (r.begin t) ++ l) (r.begin t) := by
  have ht : tasks[r.status.cursor]? = some t := by
    rw [← h.tasks_eq]
    exact getElem?_cursor htodo
  obtain ⟨hn, hbegun⟩ := h.toNoted.begin hst hc ht
  exact ⟨hn, .inr htodo', congrArg Stage.index? hbegun, fun hs => ⟨hbegun, hs⟩⟩

theorem Bracketing.perform {a : Attempt} {s : Step} {steps : List Step}
    (h : Bracketing run tasks start (.within a) l r) (hs : a.steps = s :: steps)
    (htodo : (Place.blocked (r.blockedIn run { a with steps } s)).todo =
      (r.perform run { a with steps } s).tasks.drop
        (r.perform run { a with steps } s).status.cursor) :
    Bracketing run tasks start (.blocked (r.blockedIn run { a with steps } s))
      (tells r (r.perform run { a with steps } s) ++ l) (r.perform run { a with steps } s) := by
  obtain ⟨hst, hbegun⟩ := h.staged
  cases s with
  | send text | delay ms =>
    rw [tells_perform r run _ (by simp)]
    exact ⟨h.congr rfl rfl rfl Iff.rfl, .inr htodo, hst⟩
  | signal =>
    obtain ⟨hbegun, hmem⟩ := hbegun (by simp [hs])
    obtain ⟨hn, hawaiting⟩ :=
      h.toNoted.await (a := { a with steps }) hbegun (h.todo_eq.resolve_left (by simp)) hmem
    exact ⟨hn, .inr htodo, hawaiting⟩

theorem Stride.bracketing (hs : Stride run (p, r) (p', r'))
    (h : Bracketing run tasks start p l r) :
    Bracketing run tasks start p' (tells r r' ++ l) r' := by
  have hold : p.todo = r.tasks.drop r.status.cursor :=
    h.todo_eq.resolve_left (by rintro rfl; cases hs)
  have htodo := hs.todo_eq hold
  have hopen : stage l ≠ .closed := h.staged.ne_closed (by rintro rfl; cases hs)
  have hstopped (hc : r.control ≠ .stop) (hst : (Place.before p.todo).Staged l r) :
      stage l = .between := hst.resolve_right fun hst => hc hst.1
  cases hs with
  | pause hc todo =>
    exact h.quiet rfl rfl rfl rfl Iff.rfl htodo (hstopped (by simp [hc]) h.staged)
  | stop hc todo => exact h.finish (.inr ⟨hc, hopen⟩) _
  | finish hc => exact h.finish (.inl (hstopped (by simp [hc]) h.staged)) _
  | begin hc t later =>
    exact h.begin (hstopped (by simp [hc]) h.staged) hc hold (htodo.resolve_left (by simp))
  | perform hc hs => exact h.perform hs (htodo.resolve_left (by simp))
  | interrupt hc hs => exact h.quiet rfl rfl rfl rfl Iff.rfl htodo (.inr ⟨hc, h.staged.1⟩)
  | space | leave => exact h.quiet rfl rfl rfl rfl Iff.rfl htodo h.staged.1
  | complete _ a =>
    rw [tells_complete]
    exact ⟨h.toNoted.complete h.staged a, htodo, .inl rfl⟩
  | failPaused hc ho a e =>
    have hk : run.options.skips = false := by simp [Options.skips, ho]
    obtain ⟨hn, hst⟩ := h.toNoted.failPaused hc h.staged hk a e
    exact ⟨hn, htodo, .inl hst⟩
  | failStopped hc ho a e =>
    have hk : run.options.skips = false := by simp [Options.skips, ho]
    rw [tells_fail]
    exact ⟨h.toNoted.fail h.staged hk a e, htodo, .inl rfl⟩
  | failSkipped _ ho hk a e =>
    have hk' : run.options.skips = true := by simp [Options.skips, ho, hk]
    have htold : tells r (r.fail run a e).skip =
        [.told (.failed r.status.cursor (failureText a.task e))] := r.tells_fail run a e
    rw [htold]
    exact ⟨h.toNoted.failSkipped h.staged hk' a e, htodo, .inl rfl⟩
  | failEnded _ ho hk a e =>
    have hk' : run.options.skips = false := by simp [Options.skips, hk]
    rw [tells_fail_finish, List.append_assoc]
    exact (h.toNoted.fail h.staged hk' a e).finish (.inl rfl) _

theorem Noted.endWait (h : Noted run tasks start l r) (hst : stage l = .awaiting r.status.cursor)
    (wait : Nat) (w : Wake) :
    Noted run tasks start (tells r ((r.disarm wait).endWait w) ++ l)
        ((r.disarm wait).endWait w) ∧
      (stage (tells r ((r.disarm wait).endWait w) ++ l)).index? =
        some ((r.disarm wait).endWait w).status.cursor ∧
      ((r.disarm wait).endWait w).control = r.control := by
  obtain ⟨l', hl', et⟩ := r.tells_endWait wait w
  have hindex : (stage l).index? = some r.status.cursor := by rw [hst]; rfl
  obtain ⟨slot, j, e⟩ := r.endWait_disarm_eq wait w
  -- what is told first, without the phases
  have key (told : List Moment) (hn : Noted run tasks start (told ++ l) r)
      (hs : (stage (told ++ l)).index? = some r.status.cursor)
      (ht : tells r ((r.disarm wait).endWait w) = l' ++ told) :
      Noted run tasks start (tells r ((r.disarm wait).endWait w) ++ l)
          ((r.disarm wait).endWait w) ∧
        (stage (tells r ((r.disarm wait).endWait w) ++ l)).index? =
          some ((r.disarm wait).endWait w).status.cursor ∧
        ((r.disarm wait).endWait w).control = r.control := by
    rw [ht, List.append_assoc, stage_phases hl', hs, e]
    exact ⟨(hn.phases (Stage.ne_closed hs) hl').congr rfl rfl rfl Iff.rfl, rfl, rfl⟩
  cases w with
  | signalled =>
    have hn : Noted run tasks start (.told .signalled :: l) r :=
      h.told (Stage.ne_closed hindex) ⟨_, hst⟩ rfl rfl rfl Iff.rfl
    exact key [.told .signalled] hn (congrArg (·.release.index?) hst) et
  | elapsed | released | answered _ => exact key [] h hindex et

theorem Departs.bracketing (hd : Departs run (r.without run.id) b w (p, r'))
    (hp : r.InProgress run b) (h : Bracketing run tasks start (.blocked b) l r) :
    Bracketing run tasks start p (tells r r' ++ .woken b w :: l) r' := by
  have htodo : p = .ended ∨ p.todo = r'.tasks.drop r'.status.cursor :=
    .inr (hd.todo_eq (h.todo_eq.resolve_left (by simp)))
  have hn : Noted run tasks start (.woken b w :: l) (r.without run.id) :=
    (h.toNoted.woken b w).congr rfl rfl rfl Iff.rfl
  have hst : (Place.blocked b).Staged l r := h.staged
  have hquiet : tells r (r.without run.id) = [] := tells_of_eq rfl
  cases hd with
  | released todo =>
    rw [hquiet]
    exact ⟨hn, htodo, .inl hst⟩
  | unanswered | rejected | spaced =>
    rw [hquiet]
    exact ⟨hn, htodo, hst⟩
  | accepted a | held a =>
    rw [hquiet]
    exact ⟨hn, htodo, hst, fun hs => absurd hs (hp.steps a rfl)⟩
  | cut a d hc =>
    rw [hquiet]
    exact ⟨hn, htodo, .inr ⟨hc, hst⟩⟩
  | signalled a wait d told =>
    obtain ⟨hn', hs, -⟩ := hn.endWait hst wait .signalled
    exact ⟨hn', htodo, hs, fun hs => absurd hs (hp.steps a rfl)⟩
  | timedOut a wait d told =>
    obtain ⟨hn', hs, -⟩ := hn.endWait hst wait .elapsed
    exact ⟨hn', htodo, hs⟩
  | cancelled a wait d told hc =>
    obtain ⟨hn', hs, hcontrol⟩ := hn.endWait hst wait .released
    exact ⟨hn', htodo, .inr ⟨hcontrol.trans hc, hs⟩⟩

theorem Attends.bracketing (ha : Attends l' r r')
    (hb : b' = b ∨ ∃ a wait d, b = .waiting a wait d none ∧ b' = .waiting a wait d (some true))
    (h : Bracketing run tasks start (.blocked b) l r) :
    Bracketing run tasks start (.blocked b') (l' ++ l) r' := by
  have hc : r'.status.cursor = r.status.cursor := by rw [ha.status_eq]
  have hopen : stage l ≠ .closed := h.staged.ne_closed (by simp)
  have htodo : b'.todo = b.todo := by
    rcases hb with rfl | ⟨a, wait, d, rfl, rfl⟩ <;> rfl
  have hst (hl : stage (l' ++ l) = stage l) : (Place.blocked b').Staged (l' ++ l) r' := by
    have hst : (Place.blocked b).Staged l r := h.staged
    rcases hb with rfl | ⟨a, wait, d, rfl, rfl⟩
    · cases b' <;> rw [Place.Staged, hl] <;> first | exact hst | (rw [hc]; exact hst)
    · rw [Place.Staged, hl, hc]
      exact hst
  have htodo' : Place.blocked b' = .ended ∨
      (Place.blocked b').todo = r'.tasks.drop r'.status.cursor := by
    refine .inr ?_
    rw [hc, ha.tasks_eq]
    exact htodo.trans (h.todo_eq.resolve_left (by simp))
  rcases ha.moments with ⟨hl, hstop⟩ | ⟨l'', hl, rfl, hstop⟩
  · exact ⟨(h.toNoted.phases hopen hl).congr ha.epoch_eq ha.tasks_eq hc hstop, htodo',
      hst (stage_phases hl l)⟩
  · have hn : Noted run tasks start (.stopped :: l) r' :=
      h.toNoted.stopped ha.epoch_eq ha.tasks_eq hc hstop
    have hstage : stage (l'' ++ .stopped :: l) = stage l := stage_phases hl (.stopped :: l)
    rw [List.append_assoc] at hst ⊢
    exact ⟨hn.phases hopen hl, htodo', hst hstage⟩

/-- **What is announced goes along with the course of a run.** -/
theorem bracketing_keeps (run : Run) (tasks : List Task) (start : Nat) :
    Keeps run (Bracketing run tasks start) where
  stride h hs := hs.bracketing h
  departs hp h hd := hd.bracketing hp h
  attends h hb ha := ha.bracketing hb h

theorem bracketing_opened (r : Runner) :
    Bracketing r.nextRun r.tasks r.startIndex (.before (r.tasks.drop r.startIndex))
      (tells r (r.opened.setPhase .running)) (r.opened.setPhase .running) := by
  have hn : Noted r.nextRun r.tasks r.startIndex [] r.opened :=
    { wellBracketed := trivial
      epoch_eq := rfl
      tasks_eq := rfl
      cursor_eq := rfl
      stop_iff := by simp [opened]
      kept := List.not_mem_nil }
  have hphases := hn.phases (by rintro ⟨⟩) (r.opened.isPhase_setPhase .running)
  have htells : tells r (r.opened.setPhase .running) ++ [] =
      tells r (r.opened.setPhase .running) := List.append_nil _
  have hst : stage (tells r (r.opened.setPhase .running)) = .between :=
    (congrArg stage htells).symm.trans (stage_phases (r.opened.isPhase_setPhase .running) [])
  obtain ⟨j, e⟩ := r.opened.setPhase_eq .running
  refine ⟨htells ▸ hphases.congr ?_ ?_ ?_ ?_, .inr ?_, .inl hst⟩ <;> rw [e]
  rfl

/-! ## How a play is closed -/

theorem Bracketing.closing_going (h : Bracketing r.nextRun r.tasks r.startIndex (.blocked b)
      (diary r.plays (.play :: s) r) (r.after (.play :: s)))
    (hp : (r.after (.play :: s)).InProgress r.nextRun b) : r.Closing s :=
  .going hp.mem_current h.cursor_eq
    (h.wellBracketed.finished_notMem (h.staged.ne_closed (by simp)))

theorem Bracketing.closing_ended (h : Bracketing r.nextRun r.tasks r.startIndex .ended
      (diary r.plays (.play :: s) r) (r.after (.play :: s)))
    (hidle : (r.after (.play :: s)).Idle) (s' : List Input)
    (hd : diary r.plays (.play :: (s ++ s')) r = diary r.plays (.play :: s) r) :
    r.Closing (s ++ s') := by
  obtain ⟨l, hl, hopen⟩ := h.staged
  have hw := h.wellBracketed
  rw [hl] at hw
  have hkept : .abandoned ∉ l := fun hm => h.kept (hl ▸ List.mem_cons_of_mem _ hm)
  exact .finished hidle.executing h.cursor_eq hl (hw.2.finished_notMem hopen) hkept s' hd

/-- The reset itself announces a phase, and is the last that comes about. -/
theorem Bracketing.closing_abandoned (h : Bracketing r.nextRun r.tasks r.startIndex (.blocked b)
      (diary r.plays (.play :: s) r) (r.after (.play :: s)))
    (hp : (r.after (.play :: s)).InProgress r.nextRun b) (s' : List Input) {told : List Moment}
    (ht : ∀ m ∈ told, m.IsPhase) (hd : diary r.plays (.play :: (s ++ .reset :: s')) r =
      .abandoned :: (told ++ diary r.plays (.play :: s) r)) :
    WellBracketed r.options r.tasks r.startIndex
        (diary r.plays (.play :: (s ++ .reset :: s')) r) ∧
      r.Closing (s ++ .reset :: s') := by
  have hopen := h.staged.ne_closed (by simp)
  have hw := (h.toNoted.phases hopen ht).wellBracketed
  have hopen' : stage (told ++ diary r.plays (.play :: s) r) ≠ .closed := by
    rwa [stage_phases ht]
  refine ⟨?_, .abandoned hp.mem_current s' hd (hw.finished_notMem hopen')⟩
  rw [hd]
  exact ⟨(by rintro _ ⟨⟩), hw⟩

theorem Idle.wellBracketed (h : r.Idle) (hp : r.play = .ok r') (s : List Input) :
    WellBracketed r.options r.tasks r.startIndex (diary r.plays (.play :: s) r) ∧
      r.Closing s := by
  have hd := h.diary_play hp
  have hafter (s : List Input) : r.after (.play :: s) = r'.after s := by
    rw [after_cons, step_play hp]
  cases h.play_becomes hp (bracketing_keeps _ _ _) r.bracketing_opened s with
  | going hprog hI =>
    rw [← hafter] at hprog hI
    rw [← hd] at hI
    exact ⟨hI.wellBracketed, hI.closing_going hprog⟩
  | ended hidle hI s' hs =>
    rw [← hafter] at hidle hI
    rw [← hd] at hI
    have hsame := h.diary_play_congr hp hs
    exact ⟨hsame ▸ hI.wellBracketed, hI.closing_ended hidle s' hsame⟩
  | @abandoned s b hprog hI s' told ht hs =>
    rw [← hafter] at hprog hI
    rw [← hd] at hI
    have hl : diary r.plays (.play :: (s ++ .reset :: s')) r =
        .abandoned :: (told ++ diary r.plays (.play :: s) r) := by
      rw [hd, hd, ← List.append_assoc]
      exact congrArg (· ++ tells r r') hs
    exact hI.closing_abandoned hprog s' ht hl

/-- **The announcements of every play are well bracketed.** A play that is refused announces
nothing. -/
theorem Reachable.brackets (h : r.Reachable) (s : List Input) :
    match r.play with
    | .ok _ => Brackets r.options r.tasks r.startIndex (diary r.plays (.play :: s) r) ∧
        r.Closing s
    | .error _ => diary r.plays (.play :: s) r = [] := by
  cases hp : r.play with
  | ok r' =>
    obtain ⟨hw, hc⟩ := (h.inv.idle (play_eq_ok hp).1).wellBracketed hp s
    exact ⟨.of_wellBracketed hw, hc⟩
  | error e => exact h.inv.diary_refused hp s

end Bracket

/-- The wait is signalled, and a stop comes while the device is called. -/
def stoppedDetection : List Input :=
  [.signal, .wake 0 .signalled, .stop, .wake 0 (.answered (.ok (.accepted "")))]

theorem stoppedDetection_brackets : waitAndDetection.Reachable ∧
    Brackets Options.standard waitAndDetection.tasks 0
      (diary 0 (.play :: stoppedDetection) waitAndDetection) ∧
    waitAndDetection.Closing stoppedDetection ∧
    (diary 0 (.play :: stoppedDetection) waitAndDetection).filterMap Moment.mark? =
      [.ended 1, .ended 0, .signalled, .waiting 0] := by
  have hr : waitAndDetection.Reachable := (Reachable.new _).after _
  have hp : waitAndDetection.play = .ok (waitAndDetection.step .play) := rfl
  have h := hr.brackets stoppedDetection
  rw [hp] at h
  exact ⟨hr, h.1, h.2, rfl⟩

end Runner

end MotionScript
