import MotionScript.Proofs.Run.Failing
import MotionScript.Proofs.Script.Placement

/-!
# Failures name the line of their command

* `Entry.NamesLine`, `Entry.Blames`: an entry that reports a failure names the line of its command,
  and the command is the one in progress.
* `Inv.tasks_step`: only a load changes the tasks.
* `Inv.blames_step`, `Inv.blames_after`: nothing else is reported as a failure, with one input and
  over a schedule.
* `Blamed`, `Reachable.blamed`: the errors of a status are about the commands that are loaded.
* `Located`, **`compile_located`**: commands stand on the lines that they, the diagnostics and the
  failures name.
-/

namespace MotionScript

/-- If an entry reports a failure, it names the line of the command at its index. -/
def Entry.NamesLine (cs : List Command) (x : Entry) : Prop :=
  ∀ k text, x = .event (.failed k text) →
    ∃ c, cs[k]? = some c ∧ ∃ e : Failure, text = s!"Line {c.line}: {e.message}"

/-- If an entry reports a failure with an input, it is the command in progress that fails, which is
the one at the index of the entry, and the entry names its line. -/
def Entry.Blames (cs : List Command) (r : Runner) (i : Input) (x : Entry) : Prop :=
  ∀ k text, x = .event (.failed k text) → ∃ run b w a e, i = .wake run.id w ∧
    (run, b) ∈ r.current ∧ b.attempt? = some a ∧ b.failure? run.options w = some e ∧
    cs[k]? = some a.task.command ∧ text = s!"Line {a.task.command.line}: {e.message}"

theorem Entry.blames_of_not_isFailure {cs : List Command} {r : Runner} {i : Input} {x : Entry}
    (hx : ¬ x.IsFailure) : x.Blames cs r i := by
  rintro k text rfl
  exact absurd trivial hx

namespace Runner

/-- The errors of a status are about the tasks that are loaded. -/
def Blamed (r : Runner) : Prop :=
  ∀ text ∈ r.status.errors, ∃ t ∈ r.tasks, ∃ e, text = failureText t e

section Failures

variable {run : Run} {b : Blocked} {w : Wake} {i : Input} {r r' : Runner}

/-! ## The tasks stay -/

theorem InProgress.tasks_goOn (h : r.InProgress run b) (ha : r.allows run b w) :
    ((r.without run.id).goOn run b w).tasks = r.tasks := by
  have hdepart (p : Place) (r' : Runner) (hd : Departs run (r.without run.id) b w (p, r')) :
      r'.tasks = r.tasks := by
    obtain ⟨slot, start, timeouts, phase, j, e⟩ := hd.eq
    rw [e]
    rfl
  have hstride (p : Place) (r₁ : Runner) (p' : Place) (r₂ : Runner) (hI : r₁.tasks = r.tasks)
      (hs : Stride run (p, r₁) (p', r₂)) : r₂.tasks = r.tasks := hs.tasks_eq.trans hI
  rcases h.goOn_induct (I := fun _ r₁ => r₁.tasks = r.tasks) ha hdepart hstride with
    ⟨_, -, hI⟩ | ⟨-, hI⟩
  · exact hI
  · exact hI

theorem Idle.play_unfailed (h : r.Idle) (hp : r.play = .ok r') :
    r'.tasks = r.tasks ∧ r'.status.errors = [] ∧ Adds (fun e => ¬ e.IsFailure) r r' := by
  have hopened : (r.opened.setPhase .running).tasks = r.tasks ∧
      Unfailed r.opened (.before (r.tasks.drop r.startIndex)) (r.opened.setPhase .running) := by
    have hadds : Adds (fun e => ¬ e.IsFailure) r.opened (r.opened.setPhase .running) :=
      Adds.setPhase (.of_eq rfl) id
    obtain ⟨j, e⟩ := r.opened.setPhase_eq .running
    exact ⟨by rw [e]; rfl, id, by rw [e], hadds⟩
  rcases h.play_induct (I := fun p q => q.tasks = r.tasks ∧ Unfailed r.opened p q) hp hopened
    fun _ _ _ _ hI hs => ⟨hs.tasks_eq.trans hI.1, hI.2.stride hs⟩ with
    ⟨_, -, htasks, hu⟩ | ⟨-, htasks, hu⟩
  · exact ⟨htasks, hu.errors_eq, (Adds.of_eq rfl).trans hu.adds⟩
  · exact ⟨htasks, hu.errors_eq, (Adds.of_eq rfl).trans hu.adds⟩

theorem Inv.tasks_step (h : r.Inv) (hi : ¬ i.IsLoad) : (r.step i).tasks = r.tasks := by
  have ht := h.turn i
  generalize r.step i = r' at ht ⊢
  cases ht with
  | load hload => exact absurd hload hi
  | reset => rfl
  | idle _ _ ha | aside _ _ _ _ ha => exact ha.tasks_eq
  | play hidle hp => exact (hidle.play_unfailed hp).1
  | goOn hp ha => exact hp.tasks_goOn ha

/-! ## What is reported -/

/-- **An input reports no failure but that of the command in progress**, with the line of it. -/
theorem Inv.blames_step (h : r.Inv) (i : Input) :
    Adds (Entry.Blames (r.tasks.map Task.command) r i) r (r.step i) := by
  have hsilent {r₁ r₂ : Runner} (hadds : Adds (fun x => ¬ x.IsFailure) r₁ r₂) :
      Adds (Entry.Blames (r.tasks.map Task.command) r i) r₁ r₂ :=
    hadds.mono fun _ => Entry.blames_of_not_isFailure
  have ht := h.turn i
  generalize r.step i = r' at ht ⊢
  cases ht with
  | load _ _ _ tasks e => exact .of_eq (e ▸ rfl)
  | reset => exact hsilent ((Adds.of_eq rfl).emit id)
  | idle _ _ ha | aside _ _ _ _ ha => exact hsilent (ha.adds (fun _ => id) fun _ _ => id)
  | play hidle hp => exact hsilent (hidle.play_unfailed hp).2.2
  | @goOn run b w hp ha =>
    rw [← Inv.wake_eq h hp.mem ha]
    cases he : b.failure? run.options w with
    | none => exact hsilent (hp.unfailed ha he).2
    | some e =>
      obtain ⟨a, q, hatt, hreports, hu, -, -⟩ := hp.fails ha he
      obtain ⟨before, hj, hbefore⟩ := hreports.journal
      have hreport : Adds (Entry.Blames (r.tasks.map Task.command) r (.wake run.id w)) r q := by
        refine ⟨_ :: before, hj, List.forall_mem_cons.2 ⟨?_, fun x hx => ?_⟩⟩
        · rintro k text hk
          cases hk
          refine ⟨run, b, w, a, e, rfl, hp.mem_current, hatt, he, ?_, rfl⟩
          rw [List.getElem?_map, hreports.task]
          rfl
        · exact Entry.blames_of_not_isFailure (hbefore x hx).not_isFailure
      exact hreport.trans (hsilent (hu.adds.mono fun _ hx hf => hx hf.isReport))

/-- Until something is loaded, each failure that is reported names the line of its command. -/
theorem Inv.blames_after (h : r.Inv) {s : List Input} (hs : ∀ i ∈ s, ¬ i.IsLoad) :
    Adds (Entry.NamesLine (r.tasks.map Task.command)) r (r.after s) := by
  induction s generalizing r with
  | nil => exact .refl _ r
  | cons i s ih =>
    obtain ⟨hi, hs⟩ := List.forall_mem_cons.1 hs
    have hstep : Adds (Entry.NamesLine (r.tasks.map Task.command)) r (r.step i) := by
      refine (h.blames_step i).mono fun x hx k text hxe => ?_
      obtain ⟨run, b, w, a, e, -, -, -, -, hk, htext⟩ := hx k text hxe
      exact ⟨a.task.command, hk, e, htext⟩
    have hrest := ih (h.step i) hs
    rw [h.tasks_step hi] at hrest
    exact hstep.trans hrest

theorem Blamed.of_eq (h : Blamed r) (ht : r'.tasks = r.tasks)
    (he : r'.status.errors = r.status.errors) : Blamed r' := by
  intro text htext
  rw [he] at htext
  rw [ht]
  exact h text htext

theorem blamed_of_nil (h : r.status.errors = []) : Blamed r := by
  intro text htext
  rw [h] at htext
  cases htext

theorem Inv.blamed_step (h : r.Inv) (hb : Blamed r) (i : Input) : Blamed (r.step i) := by
  have ht := h.turn i
  generalize r.step i = r' at ht ⊢
  cases ht with
  | load _ _ _ tasks e => exact blamed_of_nil (e ▸ rfl)
  | reset => exact blamed_of_nil rfl
  | idle _ _ ha | aside _ _ _ _ ha => exact hb.of_eq ha.tasks_eq ha.errors_eq
  | play hidle hp => exact blamed_of_nil (hidle.play_unfailed hp).2.1
  | @goOn run b w hp ha =>
    have htasks := hp.tasks_goOn ha
    rw [← Inv.wake_eq h hp.mem ha] at htasks ⊢
    cases he : b.failure? run.options w with
    | none => exact hb.of_eq htasks (hp.unfailed ha he).1
    | some e =>
      obtain ⟨a, q, -, hreports, hu, -, -⟩ := hp.fails ha he
      intro text htext
      rw [hu.errors_eq, hreports.errors_eq] at htext
      rw [htasks]
      rcases List.mem_append.1 htext with htext | htext
      · exact hb text htext
      · exact ⟨a.task, List.mem_of_getElem? hreports.task, e, List.mem_singleton.1 htext⟩

theorem Reachable.blamed (h : r.Reachable) : Blamed r := by
  induction h with
  | new o => exact blamed_of_nil rfl
  | step i h ih => exact h.inv.blamed_step ih i

end Failures

end Runner

/-! ## Compilations that are run -/

/-- What commands, diagnostics and failures say about lines is so. -/
structure Located (source : String) (c : Compilation) : Prop extends Placed source.toList c where
  /-- What is run are the commands of the expansion. -/
  loaded : ∀ (r r' : Runner) warnings, r.loadCompilation c = .ok (r', warnings) →
    r'.tasks.map Task.command = c.expand.commands
  /-- Where they are loaded, an input reports no failure but that of the command in progress, and
  names the line that it stands on. -/
  blames : ∀ r : Runner, r.Reachable → r.tasks.map Task.command = c.expand.commands → ∀ i,
    Runner.Adds (Entry.Blames c.expand.commands r i) r (r.step i)
  /-- So it is over a schedule, until something else is loaded. -/
  failures : ∀ r : Runner, r.Reachable → r.tasks.map Task.command = c.expand.commands → ∀ s,
    (∀ i ∈ s, ¬ i.IsLoad) → Runner.Adds (Entry.NamesLine c.expand.commands) r (r.after s)
  errors : ∀ r : Runner, r.Reachable → r.tasks.map Task.command = c.expand.commands →
    ∀ text ∈ r.status.errors, ∃ x ∈ c.expand.commands, ∃ e : Failure,
      text = s!"Line {x.line}: {e.message}"

/-- **Every line that is named is the line of what it is named for**: commands stand on their lines,
also those that are reached through calls, and a failure names the line of its command. -/
theorem compile_located {callDepth : Nat} {source : String} {c : Compilation}
    (h : compile callDepth source = .ok c) : Located source c where
  toPlaced := Compilation.placed h
  loaded _ _ _ hload := Runner.load_eq_ok (Runner.load_of_loadCompilation hload)
  blames r hr htasks i := htasks ▸ hr.inv.blames_step i
  failures r hr htasks s hs := htasks ▸ hr.inv.blames_after hs
  errors r hr htasks text htext := by
    obtain ⟨t, ht, e, htext⟩ := hr.blamed text htext
    exact ⟨t.command, htasks ▸ List.mem_map_of_mem ht, e, htext⟩

/-- A routine on two lines, with a speed in several pieces, a comment and a call. -/
def lift : String := "FUNC(LIFT)\x7b\n X(1); SPEED ; X;500 //up\n\x7d CALL(LIFT)"

def liftCompiled : Compilation where
  program := {
    commands := [⟨.call "LIFT", "CALL(LIFT)", 3, 1100, []⟩]
    routines := [⟨"LIFT", [⟨.movement [⟨.x, [1], [], []⟩], "X(1)", 2, 1000, []⟩,
      ⟨.speed (some .x) 500, "SPEED;X;500", 2, 100, []⟩], 1, 1100⟩] }
  diagnostics := []
  callDepth := 3

theorem lift_located : compile 3 lift = .ok liftCompiled ∧ Located lift liftCompiled := by
  have hc : compileTokens 3 (tokenize lift.toList).1 (tokenize lift.toList).2 = liftCompiled := by
    rw [compileTokens_eq, Program.resolve_eq]
    decide +kernel
  have hcompile : compile 3 lift = .ok liftCompiled := by
    refine compile_eq_ok.2 ⟨by decide, hc.symm, ?_⟩
    decide +kernel
  exact ⟨hcompile, compile_located hcompile⟩

/-- A text is dropped between the fields of a speed, with the parenthesis behind it. -/
def droppedText : String := "SPEED;foo)500;"

def droppedTextCompiled : Compilation where
  program := { commands := [⟨.speed none 500, "SPEED;500", 1, 100, []⟩], routines := [] }
  diagnostics := [.onLine 1 .unexpectedClose]
  callDepth := 3

theorem not_follow_dropped {before rest after : List Char}
    (h : before ++ ((speedKeyword ++ rest) ++ after) = speedKeyword ++ ";foo)500;".toList) :
    ¬ Follow Loose ["500".toList] rest := by
  have hkeyword : before = [] := by
    cases before with
    | nil => rfl
    | cons c before =>
      have hmem : 'S' ∈ "PEED;foo)500;".toList := by
        rw [show "PEED;foo)500;".toList = _ from (List.cons.inj h).2.symm]
        exact List.mem_append_right _ (List.mem_append_left _ List.mem_cons_self)
      exact absurd hmem (by decide)
  rw [hkeyword, List.nil_append, List.append_assoc] at h
  rintro (_ | @⟨gap, _, _, _, hgap, hrest⟩)
  have hafter := List.append_cancel_left h
  -- the gap is empty, or a semicolon, or it goes on with the text
  match gap with
  | [] => exact absurd (List.cons.inj hafter).1 (by decide)
  | [c] => exact absurd (List.cons.inj (List.cons.inj hafter).2).1 (by decide)
  | c :: d :: gap =>
    have hd : d = 'f' := (List.cons.inj (List.cons.inj hafter).2).1
    exact absurd (hgap d (by simp)) (by rw [hd]; decide)

theorem droppedText_not_loose : compile 3 droppedText = .ok droppedTextCompiled ∧
    ∃ x ∈ droppedTextCompiled.program.commands,
      ¬ StandsOn droppedText.toList x.line Loose x.parts := by
  have hc : compileTokens 3 (tokenize droppedText.toList).1 (tokenize droppedText.toList).2 =
      droppedTextCompiled := by
    rw [compileTokens_eq, Program.resolve_eq]
    decide +kernel
  have hcompile : compile 3 droppedText = .ok droppedTextCompiled := by
    refine compile_eq_ok.2 ⟨by decide, hc.symm, ?_⟩
    decide +kernel
  have hlines : (lines droppedText.toList).zipIdx 1 =
      [(speedKeyword ++ ";foo)500;".toList, 1)] := by decide
  have hparts : splitOn ';' "SPEED;500".toList = [speedKeyword, "500".toList] := by decide
  refine ⟨hcompile, _, List.mem_singleton_self _, ?_⟩
  rintro ⟨before, text, after, hline, -, hspaced⟩
  rw [hlines, List.mem_singleton] at hline
  rw [Command.parts, hparts] at hspaced
  obtain ⟨rest, rfl, hrest⟩ := hspaced
  exact not_follow_dropped (congrArg Prod.fst hline) hrest

end MotionScript
