import MotionScript.Proofs.Run.Stride

/-!
# Chronicles of a list of tasks

A chronicle is what runs write about a list of tasks, one run after the other, last entry first. The
tasks are attempted in order. An attempt sends the texts of the plan from the first one on, and what
completes a task, or leaves it out, is written once.

* `Chronicle`: what may be written next, given the index of the task whose turn it is and the texts
  sent in the present attempt.
* `ExactlyOnce`: every task is passed once, after an attempt that sent all its texts or a failure
  that is left out.
* **`Chronicle.exactlyOnce`**: in a chronicle every task is passed exactly once.
-/

namespace MotionScript

/-- The texts that some steps send. -/
def textsOf (steps : List Step) : List String :=
  steps.filterMap fun
    | .send text => some text
    | .delay _ | .signal => none

/-- The texts that a task sends, in the order of its plan. -/
def Task.texts (t : Task) : List String := textsOf t.steps

theorem textsOf_hold (ms : Nat) : textsOf (hold ms) = [] := by
  unfold hold
  split <;> rfl

namespace Entry

/-- The text that is sent, if any is. -/
def text? : Entry → Option String
  | sent _ _ text _ => some text
  | event _ | ended _ _ => none

/-- Whether a task is begun. -/
def IsStart : Entry → Prop
  | event (.started _ _) => True
  | _ => False

/-- Whether an entry tells nothing about how far a task is. -/
def IsRemark : Entry → Prop
  | event (.phaseChanged _) | event (.waiting _ _) | event .signalled | event (.finished _)
  | ended _ _ => True
  | event (.started _ _) | event (.completed _ _) | event (.failed _ _) | sent _ _ _ _ => False

end Entry

/-- The index of the task that is passed, if one is: it is completed, or it fails and the run leaves
it out. -/
def advance? : Options × Entry → Option Nat
  | (_, .event (.completed i _)) => some i
  | (o, .event (.failed i _)) => if o.skips then some i else none
  | _ => none

/-- The texts sent, first one first. -/
def sentIn (h : List (Options × Entry)) : List String := (h.filterMap fun x => x.2.text?).reverse

/-- What runs may write about some tasks, each entry with the options of its run: it is the turn of
the task with a given index, and if it is being attempted, some texts are sent. -/
inductive Chronicle (tasks : List Task) :
    List (Options × Entry) → Nat → Option (List String) → Prop where
  | nil : Chronicle tasks [] 0 none
  | remark {h n attempt} (hc : Chronicle tasks h n attempt) (o : Options) {e : Entry}
    (he : e.IsRemark) : Chronicle tasks ((o, e) :: h) n attempt
  | started {h n attempt} (hc : Chronicle tasks h n attempt) (o : Options) {t : Task}
    (ht : tasks[n]? = some t) :
    Chronicle tasks ((o, .event (.started n t.command.raw)) :: h) n (some [])
  | sent {h n texts} (hc : Chronicle tasks h n (some texts)) (o : Options) {t : Task}
    (ht : tasks[n]? = some t) {text : String} (hp : texts ++ [text] <+: t.texts)
    (time play maxRetries : Nat) :
    Chronicle tasks ((o, .sent time play text maxRetries) :: h) n (some (texts ++ [text]))
  | completed {h n} {t : Task} (hc : Chronicle tasks h n (some t.texts)) (o : Options)
    (ht : tasks[n]? = some t) (elapsed : Nat) :
    Chronicle tasks ((o, .event (.completed n elapsed)) :: h) (n + 1) none
  | failed {h n texts} (hc : Chronicle tasks h n (some texts)) {o : Options}
    (ho : o.skips = false) (error : String) :
    Chronicle tasks ((o, .event (.failed n error)) :: h) n none
  | skipped {h n texts} (hc : Chronicle tasks h n (some texts)) {o : Options}
    (ho : o.skips = true) (error : String) :
    Chronicle tasks ((o, .event (.failed n error)) :: h) (n + 1) none

/-- Every task before a given index is passed once, in order, and none after it. -/
structure ExactlyOnce (tasks : List Task) (cursor : Nat) (h : List (Options × Entry)) : Prop where
  /-- The tasks passed are counted from 0 on, and none is missing, repeated or out of order. -/
  advances : (h.filterMap advance?).reverse = List.range cursor
  /-- The task attempted is the next one to be passed. From its start to the next start its texts
  are sent from the first one on. -/
  attempt : ∀ later mid o i raw before,
    h = later ++ (mid ++ (o, .event (.started i raw)) :: before) → (∀ x ∈ mid, ¬ x.2.IsStart) →
    i = (before.filterMap advance?).length ∧
      ∃ t, tasks[i]? = some t ∧ raw = t.command.raw ∧ sentIn mid <+: t.texts
  /-- When a task is completed, the last attempt was one of it, and has sent all its texts. -/
  completed : ∀ later o i elapsed before,
    h = later ++ (o, .event (.completed i elapsed)) :: before →
    ∃ t, tasks[i]? = some t ∧ ∃ mid o' before',
      before = mid ++ (o', .event (.started i t.command.raw)) :: before' ∧
        (∀ x ∈ mid, ¬ x.2.IsStart) ∧ sentIn mid = t.texts
  /-- When a task fails, it is the next one to be passed, whether it is left out or not. -/
  failed : ∀ later o i error before, h = later ++ (o, .event (.failed i error)) :: before →
    i = (before.filterMap advance?).length

section Chronicle

variable {tasks : List Task} {h : List (Options × Entry)} {n : Nat} {attempt : Option (List String)}

theorem advance?_remark {e : Entry} (he : e.IsRemark) (o : Options) : advance? (o, e) = none := by
  cases e with
  | event e => cases e <;> first | rfl | cases he
  | sent => cases he
  | ended => rfl

theorem Entry.IsRemark.text? {e : Entry} (he : e.IsRemark) : e.text? = none := by
  cases e with
  | sent => cases he
  | event | ended => rfl

theorem Entry.IsRemark.not_isStart {e : Entry} (he : e.IsRemark) : ¬ e.IsStart := by
  cases e with
  | event e => cases e <;> first | exact id | cases he
  | sent | ended => exact id

theorem sentIn_cons (x : Options × Entry) (h : List (Options × Entry)) :
    sentIn (x :: h) = sentIn h ++ x.2.text?.toList := by
  unfold sentIn
  cases e : x.2.text? with
  | none => simp [e]
  | some text => simp [e]

theorem Chronicle.remarks (hc : Chronicle tasks h n attempt) (o : Options) {l : List Entry}
    (hl : ∀ e ∈ l, e.IsRemark) : Chronicle tasks (l.map (o, ·) ++ h) n attempt := by
  induction l with
  | nil => exact hc
  | cons e l ih =>
    exact (ih fun x hx => hl x (List.mem_cons_of_mem _ hx)).remark o (hl e List.mem_cons_self)

theorem Chronicle.advances (hc : Chronicle tasks h n attempt) :
    (h.filterMap advance?).reverse = List.range n := by
  induction hc with
  | nil => rfl
  | remark _ o he ih => rw [List.filterMap_cons, advance?_remark he]; exact ih
  | started _ o _ ih | sent _ o _ _ _ _ _ ih => exact ih
  | completed _ o _ _ ih =>
    rw [List.filterMap_cons, advance?, List.reverse_cons, ih, List.range_succ]
  | failed _ ho _ ih => rw [List.filterMap_cons, advance?, if_neg (by simp [ho])]; exact ih
  | skipped _ ho _ ih =>
    rw [List.filterMap_cons, advance?, if_pos ho, List.reverse_cons, ih, List.range_succ]

theorem Chronicle.length_advances (hc : Chronicle tasks h n attempt) :
    (h.filterMap advance?).length = n := by
  rw [← List.length_reverse, hc.advances, List.length_range]

theorem Chronicle.of_append {later : List (Options × Entry)}
    (hc : Chronicle tasks (later ++ h) n attempt) : ∃ n attempt, Chronicle tasks h n attempt := by
  induction later generalizing n attempt with
  | nil => exact ⟨n, attempt, hc⟩
  | cons x later ih =>
    cases hc with
    | remark hc | started hc | sent hc | completed hc | failed hc | skipped hc => exact ih hc

theorem Chronicle.sentIn_of_attempt {texts : List String}
    (hc : Chronicle tasks h n (some texts)) :
    ∃ t, tasks[n]? = some t ∧ ∃ mid o before,
      h = mid ++ (o, .event (.started n t.command.raw)) :: before ∧
        (∀ x ∈ mid, ¬ x.2.IsStart) ∧ sentIn mid = texts := by
  generalize ha : some texts = attempt at hc
  induction hc generalizing texts with
  | nil | completed | failed | skipped => cases ha
  | @remark h n attempt _ o e he ih =>
    obtain ⟨t, ht, mid, o', before, rfl, hmid, hs⟩ := ih ha
    refine ⟨t, ht, (o, e) :: mid, o', before, rfl, fun x hx => ?_, ?_⟩
    · rcases List.mem_cons.1 hx with rfl | hx
      · exact he.not_isStart
      · exact hmid x hx
    · rw [sentIn_cons, hs, he.text?]
      exact List.append_nil _
  | @started h n attempt _ o t ht ih =>
    cases ha
    exact ⟨t, ht, [], o, h, rfl, fun x hx => (by cases hx), rfl⟩
  | @sent h n texts' _ o t ht text hp time play maxRetries ih =>
    cases ha
    obtain ⟨t', ht', mid, o', before, rfl, hmid, hs⟩ := ih rfl
    refine ⟨t', ht', (o, .sent time play text maxRetries) :: mid, o', before, rfl,
      fun x hx => ?_, ?_⟩
    · rcases List.mem_cons.1 hx with rfl | hx
      · exact id
      · exact hmid x hx
    · rw [sentIn_cons, hs]
      rfl

/-- From a start to the next one the texts of the task are sent from the first one on. The induction
is on what is written since the start: as long as the attempt lasts these are its texts, and after
it nothing is sent. -/
theorem Chronicle.sentIn_prefix {mid before : List (Options × Entry)} {o : Options} {i : Nat}
    {raw : String} (hc : Chronicle tasks (mid ++ (o, .event (.started i raw)) :: before) n attempt)
    (hmid : ∀ x ∈ mid, ¬ x.2.IsStart) :
    ∃ t, tasks[i]? = some t ∧ raw = t.command.raw ∧ sentIn mid <+: t.texts ∧
      ∀ texts, attempt = some texts → n = i ∧ texts = sentIn mid := by
  induction mid generalizing n attempt with
  | nil =>
    cases hc with
    | remark _ _ he => cases he
    | @started _ _ _ _ _ t ht =>
      exact ⟨t, ht, rfl, List.nil_prefix, fun texts e => ⟨rfl, (Option.some.inj e).symm⟩⟩
  | cons x mid ih =>
    have hmid' : ∀ y ∈ mid, ¬ y.2.IsStart := fun y hy => hmid y (List.mem_cons_of_mem _ hy)
    have hsame : x.2.text? = none → sentIn (x :: mid) = sentIn mid := by
      intro e
      rw [sentIn_cons, e]
      exact List.append_nil _
    cases hc with
    | remark hc _ he =>
      obtain ⟨t, ht, hraw, hp, hatt⟩ := ih hc hmid'
      rw [hsame he.text?]
      exact ⟨t, ht, hraw, hp, hatt⟩
    | started => exact absurd trivial (hmid _ List.mem_cons_self)
    | @sent _ _ texts hc o' t ht text hp time play maxRetries =>
      have hs : sentIn ((o', .sent time play text maxRetries) :: mid) = sentIn mid ++ [text] :=
        sentIn_cons _ _
      obtain ⟨t', ht', hraw, -, hatt⟩ := ih hc hmid'
      obtain ⟨rfl, rfl⟩ := hatt texts rfl
      obtain rfl : t = t' := Option.some.inj (ht.symm.trans ht')
      rw [hs]
      exact ⟨t, ht, hraw, hp, fun texts e => ⟨rfl, (Option.some.inj e).symm⟩⟩
    | completed hc | failed hc | skipped hc =>
      obtain ⟨t, ht, hraw, hp, -⟩ := ih hc hmid'
      rw [hsame rfl]
      exact ⟨t, ht, hraw, hp, fun texts e => by cases e⟩

/-- **In a chronicle every task is passed exactly once.** -/
theorem Chronicle.exactlyOnce (hc : Chronicle tasks h n attempt) : ExactlyOnce tasks n h where
  advances := hc.advances
  attempt := by
    rintro later mid o i raw before rfl hmid
    obtain ⟨_, _, hc⟩ := hc.of_append
    obtain ⟨t, ht, hraw, hp, -⟩ := hc.sentIn_prefix hmid
    obtain ⟨_, _, hstart⟩ := hc.of_append
    refine ⟨?_, t, ht, hraw, hp⟩
    cases hstart with
    | remark _ _ he => cases he
    | started hc => exact hc.length_advances.symm
  completed := by
    rintro later o i elapsed before rfl
    obtain ⟨_, _, hc⟩ := hc.of_append
    cases hc with
    | remark _ _ he => cases he
    | @completed _ _ t hc _ ht =>
      obtain ⟨t', ht', mid, o', before', e, hmid, hs⟩ := hc.sentIn_of_attempt
      obtain rfl : t = t' := Option.some.inj (ht.symm.trans ht')
      exact ⟨t, ht, mid, o', before', e, hmid, hs⟩
  failed := by
    rintro later o i error before rfl
    obtain ⟨_, _, hc⟩ := hc.of_append
    cases hc with
    | remark _ _ he => cases he
    | failed hc | skipped hc => exact hc.length_advances.symm

end Chronicle

end MotionScript
