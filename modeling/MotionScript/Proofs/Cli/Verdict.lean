import MotionScript.Cli.Program
import MotionScript.Proofs.Run.Bounded

/-!
# What the program makes of a script

A check compiles a script. An expansion, and a runner that is to load it, also inline its calls, and
may find one error more.

* `Valid`, `Runnable`: the sources without errors, and those whose expansion has none either.
  `Compilation.isOk_expand`: between them is the budget of the expansion, and nothing else.
* `not_runnable_of_pow`: a routine that calls itself several times is followed as often as a power
  of that number, so few calls are beyond the budget.
* `exit_checkScript`, `mem_stdout_checkScript`, `exit_expandScript`, `loadScript_isOk_iff`: which of
  the two a check, an expansion and a runner ask for.
* `GetsToPlay`, `start_eq_ok`, `start_eq_error`: a run plays what can be loaded.
* **`verdicts`**: what the program makes of a source, for every invocation and configuration, and
  for every command line that carries them (`Carries`).
-/

namespace MotionScript

/-- A source without errors. -/
def Valid (source : String) : Prop :=
  ∃ c, compile defaultCallDepth source = .ok c ∧ c.isOk

/-- A source without errors whose expansion has none either. -/
def Runnable (source : String) : Prop :=
  ∃ c, compile defaultCallDepth source = .ok c ∧ c.expand.isOk

/-! ## Expansions without errors -/

theorem Compilation.isOk_expand {c : Compilation} :
    c.expand.isOk ↔ c.isOk ∧ (c.program.visits c.callDepth).length ≤ expansionBudget := by
  have hbudget : (c.program.expand expansionBudget c.callDepth).diagnostics.any
      Diagnostic.isError = false ↔
        (c.program.visits c.callDepth).length ≤ expansionBudget := by
    have herrors := c.program.expand_errors expansionBudget c.callDepth
    rw [← List.getElem?_eq_none_iff, List.any_eq_false, ← List.filter_eq_nil_iff, herrors]
    cases (c.program.visits c.callDepth)[expansionBudget]? <;> simp
  simp only [Expansion.isOk, Compilation.isOk, Compilation.expand, List.any_append,
    List.any_reverse, Bool.not_eq_true', Bool.or_eq_false_iff, hbudget]

section Sources

variable {source : String} {c : Compilation}

theorem valid_iff (hc : compile defaultCallDepth source = .ok c) : Valid source ↔ c.isOk := by
  simp [Valid, hc]

theorem runnable_iff (hc : compile defaultCallDepth source = .ok c) :
    Runnable source ↔ c.expand.isOk := by
  simp [Runnable, hc]

theorem not_valid {e : SourceError} (hc : compile defaultCallDepth source = .error e) :
    ¬ Valid source := by
  simp [Valid, hc]

theorem not_runnable {e : SourceError} (hc : compile defaultCallDepth source = .error e) :
    ¬ Runnable source := by
  simp [Runnable, hc]

end Sources

/-! ## Expansions beyond the budget -/

section Repeated

variable {name : String} {r : Routine}

theorem countP_mul_le_length_flatMap {α β : Type} {p : α → Bool} {f : α → List β} {n : Nat}
    {l : List α} (h : ∀ a ∈ l, p a → n ≤ (f a).length) : l.countP p * n ≤ (l.flatMap f).length := by
  induction l with
  | nil => simp
  | cons a l ih =>
    have hl := ih fun b hb => h b (List.mem_cons_of_mem a hb)
    rw [List.flatMap_cons, List.length_append]
    by_cases ha : p a
    · have hfirst := h a List.mem_cons_self ha
      rw [List.countP_cons_of_pos ha, Nat.succ_mul]
      omega
    · rw [List.countP_cons_of_neg ha]
      omega

/-- A routine that calls itself several times is followed as often as a power of that number. -/
theorem Command.pow_le_length_visits {table : List Routine} (limit : Nat)
    (hf : Routine.find? table name = some r) (chain : List String) {c : Command}
    (hc : c.instruction = .call name) :
    r.commands.countP (·.instruction = .call name) ^ (limit - chain.length) ≤
      (c.visits table limit chain).length := by
  induction hleft : limit - chain.length generalizing chain c with
  | zero =>
    rw [Command.visits_eq, List.length_cons]
    exact Nat.succ_pos _
  | succ left ih =>
    have hlength : (chain ++ [name]).length = chain.length + 1 := by
      rw [List.length_append, List.length_singleton]
    have hbody : Pending.body table limit (chain, c) = r.commands.map (chain ++ [name], ·) := by
      have hl : ¬ limit ≤ chain.length := by omega
      simp [Pending.body, hc, Instruction.callee?, hl, hf]
    rw [Command.visits_eq, hbody, List.length_cons, List.flatMap_map, pow_succ, Nat.mul_comm]
    refine (countP_mul_le_length_flatMap fun x _ hx => ?_).trans (Nat.le_succ _)
    exact ih (chain ++ [name]) (of_decide_eq_true hx) (by omega)

/-- A call of a routine that calls itself often enough keeps a script from being run. -/
theorem not_runnable_of_pow {source : String} {c : Compilation}
    (hc : compile defaultCallDepth source = .ok c) {x : Command} (hx : x ∈ c.program.commands)
    (hcall : x.instruction = .call name) (hf : Routine.find? c.program.routines name = some r)
    (hpow : expansionBudget < r.commands.countP (·.instruction = .call name) ^ c.callDepth) :
    ¬ Runnable source := by
  have hsublist := List.sublist_flatten_of_mem
    (List.mem_map_of_mem (f := Command.visits c.program.routines c.callDepth []) hx)
  have hlength := Command.pow_le_length_visits c.callDepth hf [] hcall
  rw [runnable_iff hc, Compilation.isOk_expand]
  rintro ⟨-, hle⟩
  have hvisits : (x.visits c.program.routines c.callDepth []).length ≤
      (c.program.visits c.callDepth).length := hsublist.length_le
  rw [List.length_nil, Nat.sub_zero] at hlength
  omega

end Repeated

/-! ## Loading -/

namespace Runner

variable {r : Runner} {source : String}

/-- The expansion of a source that can be run is loaded into a runner that is not executing. -/
theorem loadScript_eq_ok {c : Compilation} (he : r.status.executing = false)
    (hc : compile defaultCallDepth source = .ok c) (hok : c.expand.isOk) :
    ∃ r', r'.tasks.map Task.command = c.expand.commands ∧ r'.status.executing = false ∧
      r.loadScript source = .ok (r', c.expand.warnings) := by
  have hvalid := (Compilation.isOk_expand.1 hok).1
  obtain ⟨tasks, htasks, hmap⟩ := exists_ofCommands fun x hx =>
    Compilation.within_of_mem_expand hc hvalid hx
  refine ⟨{ r with tasks, status := .fresh tasks.length, metrics := .zero }, hmap, rfl, ?_⟩
  simp only [loadScript, hc, loadCompilation, hvalid, hok, if_true, load, htasks, he]
  rfl

theorem loadScript_eq_error (r : Runner) (h : ¬ Runnable source) :
    (∃ errors, r.loadScript source = .error (.compile errors)) ∨
      ∃ operation, r.loadScript source = .error (.overflow operation) := by
  unfold loadScript
  split
  · next c hc =>
    have hexpand : ¬ c.expand.isOk := (runnable_iff hc).not.1 h
    left
    unfold loadCompilation
    split
    · exact ⟨_, if_neg hexpand⟩
    · exact ⟨_, rfl⟩
  · exact .inl ⟨_, rfl⟩
  · exact .inr ⟨_, rfl⟩

theorem loadScript_isOk_iff (he : r.status.executing = false) :
    (∃ loaded, r.loadScript source = .ok loaded) ↔ Runnable source := by
  constructor
  · rintro ⟨loaded, hl⟩
    by_contra h
    rcases r.loadScript_eq_error h with ⟨errors, he⟩ | ⟨operation, he⟩
    · cases hl.symm.trans he
    · cases hl.symm.trans he
  · rintro ⟨c, hc, hok⟩
    obtain ⟨r', -, -, hl⟩ := loadScript_eq_ok he hc hok
    exact ⟨_, hl⟩

/-- What a runner that is not executing plays is what it has loaded, if that is anything. -/
theorem play_cases (he : r.status.executing = false) :
    r.tasks = [] ∧ r.play = .error .notLoaded ∨ r.tasks ≠ [] ∧ ∃ r', r.play = .ok r' := by
  unfold play
  rw [he]
  cases r.tasks with
  | nil => exact .inl ⟨rfl, rfl⟩
  | cons t ts => exact .inr ⟨List.cons_ne_nil t ts, _, rfl⟩

end Runner

namespace Cli

/-! ## Checking and expanding -/

/-- The line that tells that a script is valid. -/
def validLine : Line := .plain (Colour.green.paint "Script is valid")

namespace Output

theorem exit_refused (e : SourceError) : (refused e).exit ≠ 0 := by
  cases e <;> simp [refused, failed, aborted]

theorem stdout_refused (e : SourceError) : (refused e).stdout = [] := by
  cases e <;> rfl

end Output

section Inspection

theorem exit_checkScript (file source : String) :
    (checkScript file source).exit = 0 ↔ Valid source := by
  unfold checkScript
  cases hc : compile defaultCallDepth source with
  | error e => exact iff_of_false (Output.exit_refused e) (not_valid hc)
  | ok c =>
    rw [valid_iff hc]
    by_cases hok : c.isOk
    · simp [hok, Output.succeeded]
    · simp [hok, Output.failed]

theorem exit_expandScript (json : Bool) (source : String) :
    (expandScript json source).exit = 0 ↔ Runnable source := by
  unfold expandScript
  cases hc : compile defaultCallDepth source with
  | error e => exact iff_of_false (Output.exit_refused e) (not_runnable hc)
  | ok c =>
    rw [runnable_iff hc]
    by_cases hok : c.expand.isOk
    · simp [hok, Output.succeeded]
    · simp [hok, Output.failed]

theorem plain_ne_validLine {text : String} (h : text.toList.take 5 ≠ ['\x1b', '[', '3', '2', 'm']) :
    .plain text ≠ validLine := by
  intro he
  obtain rfl := Line.plain.inj he
  exact h rfl

theorem validLine_notMem_routineLines (r : Routine) : validLine ∉ routineLines r := by
  unfold routineLines
  intro h
  rcases List.mem_cons.1 h with h | h
  · refine plain_ne_validLine ?_ h.symm
    simp [Colour.paint, Colour.styled, Colour.code]
  · split at h
    · cases h
    · refine plain_ne_validLine ?_ (List.mem_singleton.1 h).symm
      simp

theorem mem_stdout_checkScript (file source : String) :
    validLine ∈ (checkScript file source).stdout ↔ Valid source := by
  unfold checkScript
  cases hc : compile defaultCallDepth source with
  | error e => simp [Output.stdout_refused, not_valid hc]
  | ok c =>
    rw [valid_iff hc]
    by_cases hok : c.isOk
    · simp [hok, Output.succeeded, validLine]
    · have hsummary : validLine ≠ .plain (Colour.blue.paintBold file ++ " " ++ c.summary) := by
        refine (plain_ne_validLine ?_).symm
        simp [Colour.paintBold, Colour.styled, Colour.code]
      simp [hok, Output.failed, hsummary, validLine_notMem_routineLines]

end Inspection

/-! ## Running -/

/-- The start of a run gets to play its script: the run is under way, or the program ends since
there is nothing to play. -/
def GetsToPlay : Except Output Session → Prop
  | .ok _ => True
  | .error o => ∃ found, o.stderr = found ++ Output.failureLines Failure.notLoaded.message none

theorem not_getsToPlay {o : Output} {found : List String} {text : String}
    (ho : o.stderr = found ++ [text]) (hne : text ≠ "Error: no script loaded") :
    ¬ GetsToPlay (.error o) := by
  rintro ⟨found', hf⟩
  have hlast : [text] = Output.failureLines Failure.notLoaded.message none :=
    List.append_inj_right' (ho.symm.trans hf) rfl
  exact hne (List.singleton_inj.1 hlast)

theorem errorCount_ne (errors : List String) :
    "Error: " ++ errorCount errors ≠ "Error: no script loaded" := by
  intro h
  have hletter : ("Error: " ++ ("Script has " ++ toString errors.length ++
      " error(s)")).toList[7]? = some 'n' := congrArg (·.toList[7]?) h
  simp at hletter

section Start

variable {source : String} {config : Config} {controller : Controller}

theorem start_eq_ok {c : Compilation} (hk : Controller.ofConfig config.device = .ok controller)
    (hc : compile defaultCallDepth source = .ok c) (hok : c.expand.isOk) :
    c.expand.commands = [] ∧ Session.start config (.ok source) =
        .error (.failedRun [] (diagnosticLines [] c.expand.warnings) .notLoaded) ∨
      c.expand.commands ≠ [] ∧ ∃ s, Session.start config (.ok source) = .ok s := by
  obtain ⟨r, hmap, he, hload⟩ :=
    Runner.loadScript_eq_ok (r := (Bench.new config.options controller).runner) rfl hc hok
  simp only [Session.start, hk, hload, ← hmap]
  rcases r.play_cases he with ⟨ht, hp⟩ | ⟨ht, r', hp⟩
  · exact .inl ⟨by rw [ht]; rfl, by rw [hp]⟩
  · exact .inr ⟨mt List.map_eq_nil_iff.1 ht, by rw [hp]; exact ⟨_, rfl⟩⟩

theorem start_eq_error (hk : Controller.ofConfig config.device = .ok controller)
    (h : ¬ Runnable source) : ∃ o, Session.start config (.ok source) = .error o ∧
      ¬ GetsToPlay (.error o) ∧ o.exit ≠ 0 := by
  unfold Session.start
  rw [hk]
  rcases (Bench.new config.options controller).runner.loadScript_eq_error h with
    ⟨errors, he⟩ | ⟨operation, he⟩
  · simp only [he]
    exact ⟨_, rfl, not_getsToPlay rfl (errorCount_ne errors), Nat.one_ne_zero⟩
  · simp only [he]
    have hstderr : (Output.failedRun [] [] (.overflow operation)).stderr =
        [] ++ [operation.message] := rfl
    refine ⟨_, rfl, not_getsToPlay hstderr ?_, by simp [Output.failedRun, Output.aborted]⟩
    cases operation <;> decide

end Start

/-! ## Invocations -/

theorem validLine_notMem_greeting (i : Invocation) : validLine ∉ i.greeting := by
  unfold Invocation.greeting
  split
  · intro h
    exact plain_ne_validLine (by decide) (List.mem_singleton.1 h).symm
  · exact List.not_mem_nil

/-- A command line that is understood, with a configuration and a script that can be read. -/
structure Carries (args : List String) (files : Files) (i : Invocation) (config : Config)
    (source : String) : Prop where
  understood : Invocation.ofArguments args = .ok i
  configured : i.configuration files = .ok config
  read : files i.action.file = .ok source

/-- What the program makes of a source. -/
structure Verdicts (source : String) : Prop where
  /-- A valid source can be run unless its expansion goes beyond the budget. -/
  runnable_iff : Runnable source ↔ ∃ c, compile defaultCallDepth source = .ok c ∧ c.isOk ∧
    (c.program.visits c.callDepth).length ≤ expansionBudget
  check : ∀ (i : Invocation) (config : Config) {file}, i.action = .check file → ∀ dialog,
    ((i.carryOut config (.ok source) dialog).exit = 0 ↔ Valid source) ∧
      (validLine ∈ (i.carryOut config (.ok source) dialog).stdout ↔ Valid source)
  expand : ∀ (i : Invocation) (config : Config) {file json}, i.action = .expand file json →
    ∀ dialog, ((i.carryOut config (.ok source) dialog).exit = 0 ↔ Runnable source)
  load : ∀ r : Runner, r.status.executing = false →
    ((∃ loaded, r.loadScript source = .ok loaded) ↔ Runnable source)
  run : ∀ (i : Invocation) (config : Config) {file flags controller},
    i.action = .run file flags → Controller.ofConfig (flags.apply config).device = .ok controller →
      (GetsToPlay (i.start config (.ok source)) ↔ Runnable source) ∧
        ((∃ s, i.start config (.ok source) = .ok s) ↔
          ∃ c, compile defaultCallDepth source = .ok c ∧ c.expand.isOk ∧ c.expand.commands ≠ []) ∧
        (¬ Runnable source → ∀ dialog, (i.carryOut config (.ok source) dialog).exit ≠ 0)
  /-- A command line is carried out as the invocation that it is understood as. -/
  perform_eq : ∀ {args files i config}, Carries args files i config source →
    i.prepare files = i.start config (.ok source) ∧
      ∀ dialog, perform args files dialog = i.carryOut config (.ok source) dialog

namespace Invocation

variable {i : Invocation}

theorem carryOut_check {file : String} (h : i.action = .check file) (config : Config)
    (source : String) (dialog : List Session.Cue) :
    i.carryOut config (.ok source) dialog = (checkScript file source).after i.greeting := by
  simp only [carryOut, start, h, inspect]

theorem carryOut_expand {file : String} {json : Bool} (h : i.action = .expand file json)
    (config : Config) (source : String) (dialog : List Session.Cue) :
    i.carryOut config (.ok source) dialog = (expandScript json source).after i.greeting := by
  simp only [carryOut, start, h, inspect]

theorem start_run {file : String} {flags : RunFlags} (h : i.action = .run file flags)
    (config : Config) (source : String) : i.start config (.ok source) =
      match Session.start (flags.apply config) (.ok source) with
      | .ok s => .ok { s with printed := s.printed ++ i.greeting }
      | .error o => .error (o.after i.greeting) := by
  cases hs : Session.start (flags.apply config) (.ok source) <;> simp only [start, h, hs]

theorem check_verdict {file : String} (h : i.action = .check file) (config : Config)
    (source : String) (dialog : List Session.Cue) :
    ((i.carryOut config (.ok source) dialog).exit = 0 ↔ Valid source) ∧
      (validLine ∈ (i.carryOut config (.ok source) dialog).stdout ↔ Valid source) := by
  rw [carryOut_check h]
  refine ⟨exit_checkScript file source, ?_⟩
  rw [← mem_stdout_checkScript file source, Output.after, List.mem_append]
  exact or_iff_right (validLine_notMem_greeting i)

theorem run_verdict {file : String} {flags : RunFlags} (h : i.action = .run file flags)
    {config : Config} {controller : Controller}
    (hk : Controller.ofConfig (flags.apply config).device = .ok controller) (source : String) :
    (GetsToPlay (i.start config (.ok source)) ↔ Runnable source) ∧
      ((∃ s, i.start config (.ok source) = .ok s) ↔
        ∃ c, compile defaultCallDepth source = .ok c ∧ c.expand.isOk ∧ c.expand.commands ≠ []) ∧
      (¬ Runnable source → ∀ dialog, (i.carryOut config (.ok source) dialog).exit ≠ 0) := by
  have hstart := start_run h config source
  by_cases hr : Runnable source
  · obtain ⟨c, hc, hok⟩ := hr
    rcases start_eq_ok hk hc hok with ⟨hnil, hs⟩ | ⟨hne, s, hs⟩
    · rw [hs] at hstart
      refine ⟨iff_of_true ?_ ⟨c, hc, hok⟩, ?_, fun hn => absurd ⟨c, hc, hok⟩ hn⟩
      · rw [hstart]
        exact ⟨_, rfl⟩
      · simp [hstart, hc, hnil]
    · rw [hs] at hstart
      refine ⟨iff_of_true ?_ ⟨c, hc, hok⟩, ?_, fun hn => absurd ⟨c, hc, hok⟩ hn⟩
      · rw [hstart]
        trivial
      · simp [hstart, hc, hok, hne]
  · obtain ⟨o, hs, hplay, hexit⟩ := start_eq_error hk hr
    rw [hs] at hstart
    refine ⟨iff_of_false ?_ hr, iff_of_false ?_ ?_, fun _ dialog => ?_⟩
    · rw [hstart]
      exact hplay
    · simp [hstart]
    · rintro ⟨c, hc, hok, -⟩
      exact hr ⟨c, hc, hok⟩
    · simp only [carryOut, hstart]
      exact hexit

end Invocation

namespace Carries

variable {args : List String} {files : Files} {i : Invocation} {config : Config} {source : String}

theorem script_eq (h : Carries args files i config source) : i.script files = .ok source := by
  rw [Invocation.script, h.read]

theorem prepare_eq (h : Carries args files i config source) :
    i.prepare files = i.start config (.ok source) := by
  rw [Invocation.prepare, h.configured, h.script_eq]
  rfl

theorem perform_eq (h : Carries args files i config source) (dialog : List Session.Cue) :
    perform args files dialog = i.carryOut config (.ok source) dialog := by
  simp only [perform, h.understood, h.configured, h.script_eq]

end Carries

/-- **A check, an expansion, a load and a run agree on every source whose expansion keeps to its
budget.** -/
theorem verdicts (source : String) : Verdicts source where
  runnable_iff := by simp only [Runnable, Compilation.isOk_expand]
  check _ config _ h dialog := Invocation.check_verdict h config source dialog
  expand _ config _ _ h dialog := by
    rw [Invocation.carryOut_expand h]
    exact exit_expandScript _ source
  load _ he := Runner.loadScript_isOk_iff he
  run _ _ _ _ _ h hk := Invocation.run_verdict h hk source
  perform_eq h := ⟨h.prepare_eq, h.perform_eq⟩

/-! The script in a file is checked, expanded, and run with the simulated device. -/

/-- The check of a script. -/
def checking : Invocation := ⟨none, false, 0, .check "s.msl"⟩

/-- The expansion of a script. -/
def expanding : Invocation := ⟨none, false, 0, .expand "s.msl" false⟩

/-- The run of a script with the simulated device. -/
def simulatedRun : Invocation :=
  ⟨none, false, 0, .run "s.msl" ⟨true, none, none, false, false⟩⟩

theorem carries_check (source : String) :
    Carries ["check", "s.msl"] (fun _ => .ok source) checking .standard source :=
  ⟨by decide +kernel, rfl, rfl⟩

theorem carries_expand (source : String) :
    Carries ["expand", "s.msl"] (fun _ => .ok source) expanding .standard source :=
  ⟨by decide +kernel, rfl, rfl⟩

theorem carries_run (source : String) : Carries ["run", "--simulation", "s.msl"]
    (fun _ => .ok source) simulatedRun .standard source :=
  ⟨by decide +kernel, rfl, rfl⟩

/-- One command passes all of them. -/
theorem detect_verdicts :
    (perform ["check", "s.msl"] (fun _ => .ok "DETECT") []).exit = 0 ∧
    validLine ∈ (perform ["check", "s.msl"] (fun _ => .ok "DETECT") []).stdout ∧
    (perform ["expand", "s.msl"] (fun _ => .ok "DETECT") []).exit = 0 ∧
    (∃ loaded, (Runner.new .standard).loadScript "DETECT" = .ok loaded) ∧
    ∃ s, simulatedRun.prepare (fun _ => .ok "DETECT") = .ok s := by
  have hcompile : compile defaultCallDepth "DETECT" =
      .ok ⟨⟨[⟨.detect, "DETECT", 1, 500, []⟩], []⟩, [], defaultCallDepth⟩ := by
    decide +kernel
  have hvalid : Valid "DETECT" := ⟨_, hcompile, rfl⟩
  have hrunnable : Runnable "DETECT" := ⟨_, hcompile, rfl⟩
  have hverdicts := verdicts "DETECT"
  obtain ⟨hexit, hline⟩ := hverdicts.check checking .standard rfl []
  obtain ⟨-, hstarts, -⟩ := hverdicts.run simulatedRun .standard rfl rfl
  rw [(hverdicts.perform_eq (carries_check _)).2, (hverdicts.perform_eq (carries_expand _)).2,
    (hverdicts.perform_eq (carries_run _)).1]
  exact ⟨hexit.2 hvalid, hline.2 hvalid, (hverdicts.expand expanding .standard rfl []).2 hrunnable,
    (hverdicts.load _ rfl).2 hrunnable, hstarts.2 ⟨_, hcompile, rfl, by decide⟩⟩

/-- A routine that calls itself four times, and a call of it. -/
def overrun : String := "FUNC(A)\x7bCALL(A);CALL(A);CALL(A);CALL(A)\x7d\nCALL(A)"

def overrunCompiled : Compilation where
  program := {
    commands := [⟨.call "A", "CALL(A)", 2, 0, []⟩]
    routines := [⟨"A", List.replicate 4 ⟨.call "A", "CALL(A)", 1, 0, []⟩, 1, 0⟩] }
  diagnostics := []
  callDepth := defaultCallDepth

/-- The estimate by recursion on the depth has a million leaves, so it is not evaluated. -/
theorem bodyDuration_overrun (depth : Nat) (name : String) :
    bodyDuration overrunCompiled.program.routines depth name = 0 := by
  induction depth generalizing name with
  | zero => rfl
  | succ depth ih =>
    rw [bodyDuration]
    cases hf : Routine.find? overrunCompiled.program.routines name with
    | none => rfl
    | some r =>
      obtain rfl := List.mem_singleton.1 (Routine.mem_of_find? hf)
      simp [Command.durationWith, Instruction.callee?, ih, List.replicate]

theorem compile_overrun : compile defaultCallDepth overrun = .ok overrunCompiled := by
  have hprogram : (Program.scanned (tokenize overrun.toList).1).1 = overrunCompiled.program := by
    decide +kernel
  have hc : compileTokens defaultCallDepth (tokenize overrun.toList).1
      (tokenize overrun.toList).2 = overrunCompiled := by
    rw [compileTokens_eq, Program.resolve_eq, hprogram, funext (bodyDuration_overrun _)]
    decide +kernel
  refine compile_eq_ok.2 ⟨by decide, hc.symm, ?_⟩
  decide +kernel

/-- A check finds it valid. It cannot be expanded, loaded or run. -/
theorem overrun_disagrees :
    (perform ["check", "s.msl"] (fun _ => .ok overrun) []).exit = 0 ∧
    validLine ∈ (perform ["check", "s.msl"] (fun _ => .ok overrun) []).stdout ∧
    (perform ["expand", "s.msl"] (fun _ => .ok overrun) []).exit ≠ 0 ∧
    (¬ ∃ loaded, (Runner.new .standard).loadScript overrun = .ok loaded) ∧
    (perform ["run", "--simulation", "s.msl"] (fun _ => .ok overrun) []).exit ≠ 0 := by
  have hvalid : Valid overrun := (valid_iff compile_overrun).2 rfl
  have hnot : ¬ Runnable overrun :=
    not_runnable_of_pow compile_overrun (List.mem_singleton_self _) rfl rfl (by decide)
  rw [(carries_check overrun).perform_eq, (carries_expand overrun).perform_eq,
    (carries_run overrun).perform_eq]
  obtain ⟨hexit, hline⟩ := Invocation.check_verdict (i := checking) rfl .standard overrun []
  refine ⟨hexit.2 hvalid, hline.2 hvalid, ?_, mt (Runner.loadScript_isOk_iff rfl).1 hnot,
    (Invocation.run_verdict (i := simulatedRun) rfl rfl overrun).2.2 hnot []⟩
  rw [Invocation.carryOut_expand (i := expanding) rfl]
  exact mt (exit_expandScript false overrun).1 hnot

end Cli

end MotionScript
