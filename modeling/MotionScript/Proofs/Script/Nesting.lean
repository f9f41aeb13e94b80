import Mathlib.Data.List.Chain
import Mathlib.Data.List.Nodup
import Mathlib.Logic.Relation
import MotionScript.Proofs.Script.Accounting

/-!
# Calls that are nested too deeply

* `Calls`, `Program.Nested`: which names the routine of a name calls, and calls in one another,
  the first of them outside routines.
* `Program.Stands`: a command in a chain of routines, however long; `Program.mem_visits_iff`:
  inlining meets those whose chains are not too long.
* `Program.exists_tooDeep_iff`: it meets a call that is too deep exactly if there are more calls in
  one another than it may follow.
* `Program.Nested.length_le`, `Endless.exists_chain`: without recursion there are no more calls in
  one another than routines; from a recursive routine there are any number.
* `Compilation.isNesting_of_mem`: only an expansion reports calls that are too deep.
* **`compile_capsNesting`**: an expansion reports such calls exactly where there are any.
-/

namespace MotionScript

open Relation

/-- The routine of `f` calls `g`. -/
def Calls (table : List Routine) (f g : String) : Prop :=
  ∃ r, Routine.find? table f = some r ∧ g ∈ r.calls

/-- Calls in one another, by the names they call: the first one stands outside routines, each later
one in the body that the one before calls. So all but the last one name a routine. -/
structure Program.Nested (p : Program) (names : List String) : Prop where
  outermost : ∀ name ∈ names.head?, ∃ c ∈ p.commands, c.instruction = .call name
  isChain : names.IsChain (Calls p.routines)

/-- A command in a chain of routines that calls lead through. -/
inductive Program.Stands (p : Program) : Pending → Prop where
  | outside {c : Command} : c ∈ p.commands → Stands p ([], c)
  | inside {v : Pending} {name : String} {r : Routine} {c : Command} : Stands p v →
    v.2.instruction = .call name → Routine.find? p.routines name = some r → c ∈ r.commands →
    Stands p (v.1 ++ [name], c)

/-- Calls from the routine of a name lead to one that they lead to again. -/
def Endless (table : List Routine) (name : String) : Prop :=
  ∃ f, ReflTransGen (Calls table) name f ∧ TransGen (Calls table) f f

/-- A call that is nested too deeply. -/
def Problem.isNesting : Problem → Bool
  | depthExceeded _ _ _ => true
  | _ => false

namespace Expansion

/-- The expansion was given up for lack of budget. -/
def OutOfBudget (e : Expansion) : Prop := ∃ d ∈ e.diagnostics, d.problem = .budgetExceeded

/-- The expansion has a warning about a call that is nested too deeply. -/
def WarnsOfNesting (e : Expansion) : Prop := ∃ d ∈ e.diagnostics, d.problem.isNesting

end Expansion

/-- An expansion reports calls that are nested too deeply exactly where there are any. -/
structure CapsNesting (limit : Nat) (c : Compilation) : Prop where
  warns_iff : ¬ c.expand.OutOfBudget → (c.expand.WarnsOfNesting ↔
    ∃ names, names.length = limit + 1 ∧ c.program.Nested names)
  /-- Without recursion, a limit of as many calls as there are routines is never met, and with
  enough budget a greater one makes no difference. -/
  acyclic : (∀ f, ¬ TransGen (Calls c.program.routines) f f) → c.program.routines.length ≤ limit →
    (∀ x ∈ c.program.allCommands, ∀ name, x.instruction = .call name →
      ∃ r, Routine.find? c.program.routines name = some r) →
    ¬ c.expand.WarnsOfNesting ∧ (¬ c.expand.OutOfBudget →
      ∀ limit' ≥ limit, c.expand.commands = c.program.inline limit')
  /-- Recursion is never cut silently. -/
  recursive : (∃ x ∈ c.program.commands, ∃ name, x.instruction = .call name ∧
    Endless c.program.routines name) → c.expand.WarnsOfNesting ∨ c.expand.OutOfBudget

/-! ## What inlining meets -/

section Visits

variable {table : List Routine} {limit : Nat} {p : Program}

theorem Pending.mem_body_iff {v w : Pending} : w ∈ v.body table limit ↔ ∃ name r c,
    v.2.instruction = .call name ∧ v.1.length < limit ∧ Routine.find? table name = some r ∧
      c ∈ r.commands ∧ w = (v.1 ++ [name], c) := by
  unfold body
  cases hc : v.2.instruction.callee? with
  | none =>
    have hno (name : String) : v.2.instruction ≠ .call name := fun h => by
      simp [Instruction.callee?_eq_some.2 h] at hc
    simp [hno]
  | some name =>
    rw [Instruction.callee?_eq_some] at hc
    by_cases hl : limit ≤ v.1.length
    · simp [hl]
    · cases hf : Routine.find? table name with
      | none => simp [hc, hl, hf]
      | some r => simp [hc, hl, hf, eq_comm]; omega

theorem Command.mem_visits_of_mem_body {chain : List String} {c : Command} {v w : Pending}
    (hv : v ∈ c.visits table limit chain) (hw : w ∈ v.body table limit) :
    w ∈ c.visits table limit chain := by
  rw [Command.visits_eq] at hv ⊢
  refine List.mem_cons_of_mem _ (List.mem_flatMap.2 ?_)
  rcases List.mem_cons.1 hv with rfl | hv
  · refine ⟨w, hw, ?_⟩
    rw [Command.visits_eq]
    exact List.mem_cons_self
  · obtain ⟨u, hu, hv⟩ := List.mem_flatMap.1 hv
    obtain ⟨hlt, hle, -⟩ := Pending.mem_body hu
    exact ⟨u, hu, Command.mem_visits_of_mem_body hv hw⟩
termination_by limit - chain.length
decreasing_by
  change chain.length < u.1.length at hlt
  omega

theorem Program.Stands.of_mem_visits {chain : List String} {c : Command} {v : Pending}
    (hc : p.Stands (chain, c)) (hv : v ∈ c.visits p.routines limit chain) : p.Stands v := by
  rw [Command.visits_eq] at hv
  rcases List.mem_cons.1 hv with rfl | hv
  · exact hc
  · obtain ⟨w, hw, hv⟩ := List.mem_flatMap.1 hv
    obtain ⟨hlt, hle, -⟩ := Pending.mem_body hw
    obtain ⟨name, r, c', hcall, -, hf, hc', rfl⟩ := Pending.mem_body_iff.1 hw
    exact Program.Stands.of_mem_visits (.inside hc hcall hf hc') hv
termination_by limit - chain.length
decreasing_by
  simp only [List.length_append, List.length_singleton] at hle ⊢
  omega

theorem Program.mem_visits_iff {v : Pending} :
    v ∈ p.visits limit ↔ p.Stands v ∧ v.1.length ≤ limit := by
  constructor
  · intro hv
    obtain ⟨c, hc, hm⟩ := List.mem_flatMap.1 hv
    exact ⟨.of_mem_visits (.outside hc) hm, (Program.mem_visits hv).1⟩
  · rintro ⟨hv, hl⟩
    induction hv with
    | @outside c hc =>
      refine List.mem_flatMap.2 ⟨c, hc, ?_⟩
      rw [Command.visits_eq]
      exact List.mem_cons_self
    | @inside v name r c _ hcall hf hc ih =>
      rw [List.length_append, List.length_singleton] at hl
      obtain ⟨c₀, hc₀, hv⟩ := List.mem_flatMap.1 (ih (by omega))
      refine List.mem_flatMap.2 ⟨c₀, hc₀, Command.mem_visits_of_mem_body hv ?_⟩
      exact Pending.mem_body_iff.2 ⟨name, r, c, hcall, by omega, hf, hc, rfl⟩

end Visits

/-! ## Calls in one another -/

section Nested

variable {p : Program}

theorem Routine.mem_calls {r : Routine} {name : String} :
    name ∈ r.calls ↔ ∃ c ∈ r.commands, c.instruction = .call name := by
  simp [calls, Instruction.callee?_eq_some]

theorem Program.Stands.nested {v : Pending} (h : p.Stands v) {name : String}
    (hcall : v.2.instruction = .call name) : p.Nested (v.1 ++ [name]) := by
  induction h generalizing name with
  | @outside c hc =>
    refine ⟨fun g hg => ⟨c, hc, ?_⟩, List.isChain_singleton _⟩
    cases hg
    exact hcall
  | @inside v f r c _ hcall' hf hc ih =>
    obtain ⟨houtermost, hchain⟩ := ih hcall'
    have hcalls : Calls p.routines f name := ⟨r, hf, Routine.mem_calls.2 ⟨c, hc, hcall⟩⟩
    refine ⟨fun g hg => houtermost g ?_, ?_⟩
    · rw [List.head?_append] at hg
      simpa using hg
    · rw [List.append_assoc, List.singleton_append, List.isChain_append_cons_cons]
      exact ⟨hchain, hcalls, List.isChain_singleton _⟩

theorem Program.nested_append_iff {chain : List String} {name : String} :
    p.Nested (chain ++ [name]) ↔ ∃ c, p.Stands (chain, c) ∧ c.instruction = .call name := by
  constructor
  · intro h
    induction chain using List.reverseRecOn generalizing name with
    | nil =>
      obtain ⟨c, hc, hcall⟩ := h.outermost name rfl
      exact ⟨c, .outside hc, hcall⟩
    | append_singleton chain f ih =>
      have hsplit := h.isChain
      rw [List.append_assoc, List.singleton_append, List.isChain_append_cons_cons] at hsplit
      obtain ⟨hbefore, ⟨r, hf, hmem⟩, -⟩ := hsplit
      have houter : p.Nested (chain ++ [f]) := by
        refine ⟨fun g hg => h.outermost g ?_, hbefore⟩
        rw [List.head?_append, hg]
        rfl
      obtain ⟨c, hc, hcall⟩ := ih houter
      obtain ⟨c', hc', hcall'⟩ := Routine.mem_calls.1 hmem
      exact ⟨c', .inside hc hcall hf hc', hcall'⟩
  · rintro ⟨c, hc, hcall⟩
    exact hc.nested hcall

/-- Inlining meets a call that is too deep exactly if there are more calls in one another than it
may follow. -/
theorem Program.exists_tooDeep_iff {limit : Nat} :
    (∃ v ∈ p.visits limit, ∃ name, v.2.instruction = .call name ∧ limit ≤ v.1.length) ↔
      ∃ names, names.length = limit + 1 ∧ p.Nested names := by
  constructor
  · rintro ⟨⟨chain, c⟩, hv, name, hcall, hl⟩
    obtain ⟨hstands, hle⟩ := Program.mem_visits_iff.1 hv
    refine ⟨chain ++ [name], ?_, Program.nested_append_iff.2 ⟨c, hstands, hcall⟩⟩
    rw [List.length_append, List.length_singleton]
    exact congrArg (· + 1) (Nat.le_antisymm hle hl)
  · rintro ⟨names, hlength, hnested⟩
    obtain ⟨chain, name, rfl⟩ := List.eq_nil_or_concat' names |>.resolve_left
      (List.ne_nil_of_length_eq_add_one hlength)
    obtain ⟨c, hc, hcall⟩ := Program.nested_append_iff.1 hnested
    rw [List.length_append, List.length_singleton, Nat.add_right_cancel_iff] at hlength
    exact ⟨(chain, c), Program.mem_visits_iff.2 ⟨hc, hlength.le⟩, name, hcall, hlength.ge⟩

theorem Program.Nested.nodup {names : List String} (h : p.Nested names)
    (hacyclic : ∀ f, ¬ TransGen (Calls p.routines) f f) : names.Nodup := by
  have hchain : names.IsChain (TransGen (Calls p.routines)) := h.isChain.imp fun _ _ => .single
  refine (List.isChain_iff_pairwise.1 hchain).imp fun {f g} hfg heq => ?_
  exact hacyclic f (heq ▸ hfg)

/-- Without recursion there are no more calls in one another than routines, if all name one. -/
theorem Program.Nested.length_le {names : List String} (h : p.Nested names)
    (hacyclic : ∀ f, ¬ TransGen (Calls p.routines) f f)
    (hdefined : ∀ c ∈ p.allCommands, ∀ name, c.instruction = .call name →
      ∃ r, Routine.find? p.routines name = some r) : names.length ≤ p.routines.length := by
  have hnamed : names ⊆ p.routines.map (·.name) := by
    intro name hname
    obtain ⟨before, after, rfl⟩ := List.append_of_mem hname
    have hinit : p.Nested (before ++ [name]) := by
      refine ⟨fun g hg => h.outermost g ?_, h.isChain.prefix ⟨after, by simp⟩⟩
      cases before <;> simpa using hg
    obtain ⟨c, hc, hcall⟩ := Program.nested_append_iff.1 hinit
    have hmem : c ∈ p.allCommands :=
      (Program.mem_visits (Program.mem_visits_iff.2 ⟨hc, Nat.le_refl _⟩)).2
    obtain ⟨r, hr⟩ := hdefined c hmem name hcall
    exact List.mem_map.2 ⟨r, Routine.mem_of_find? hr, Routine.name_of_find? hr⟩
  have hsubperm := List.subperm_of_subset (h.nodup hacyclic) hnamed
  simpa using hsubperm.length_le

variable {table : List Routine} {name : String}

theorem Endless.exists_calls (h : Endless table name) :
    ∃ g, Calls table name g ∧ Endless table g := by
  obtain ⟨f, hreach, hcycle⟩ := h
  rcases hreach.cases_head with rfl | ⟨g, hg, hreach⟩
  · obtain ⟨g, hg, hback⟩ := TransGen.head'_iff.1 hcycle
    exact ⟨g, hg, name, hback, hcycle⟩
  · exact ⟨g, hg, f, hreach, hcycle⟩

theorem Endless.exists_chain (h : Endless table name) (n : Nat) :
    ∃ names, names.length = n ∧ (name :: names).IsChain (Calls table) := by
  induction n generalizing name with
  | zero => exact ⟨[], rfl, List.isChain_singleton _⟩
  | succ n ih =>
    obtain ⟨g, hg, hendless⟩ := h.exists_calls
    obtain ⟨names, hlength, hchain⟩ := ih hendless
    exact ⟨g :: names, congrArg (· + 1) hlength, List.isChain_cons_cons.2 ⟨hg, hchain⟩⟩

end Nested

/-! ## Only an expansion reports calls that are too deep -/

section Reports

variable {x : Diagnostic}

theorem Problem.isNesting_of_error {p : Problem} (h : p.severity = .error) :
    p.isNesting = false := by
  cases p <;> first | rfl | cases h

theorem Problem.isNesting_of_unbalanced {p : Problem} (h : p.isUnbalanced) :
    p.isNesting = false := by
  cases p <;> first | rfl | cases h

theorem isNesting_of_mem_tokenize {source : List Char} (h : x ∈ (tokenize source).2) :
    x.problem.isNesting = false := by
  obtain ⟨l, n, -, p, hp, rfl⟩ := mem_tokenize_snd.1 h
  exact Problem.isNesting_of_unbalanced (unbalanced_of_mem_scanLine hp)

theorem Token.isNesting_of_refused {t : Token} {ps : List Problem} (ht : t.reading = .refused ps)
    {p : Problem} (hp : p ∈ ps) : p.isNesting = false := by
  rcases Token.severe_or_unrecognized ht with ⟨text, rfl⟩ | hs
  · cases List.mem_singleton.1 hp
    rfl
  · exact Problem.isNesting_of_error (hs.2 p hp)

theorem Token.isNesting_of_mem {t : Token}
    (h : x ∈ t.diagnostics ∨ ∃ outer, x ∈ t.diagnosticsIn outer) : x.problem.isNesting = false := by
  have hread : ∃ p, x = .onLine t.line p ∧
      (p ∈ t.reading.problems ∨ ∃ outer, p ∈ t.reading.problemsIn outer) := by
    rcases h with h | ⟨outer, h⟩ <;> obtain ⟨p, hp, rfl⟩ := List.mem_map.1 h
    · exact ⟨p, rfl, .inl hp⟩
    · exact ⟨p, rfl, .inr ⟨outer, hp⟩⟩
  obtain ⟨p, rfl, hp⟩ := hread
  change p.isNesting = false
  cases ht : t.reading with
  | refused ps =>
    simp only [ht, Reading.problems, Reading.problemsIn, exists_const, or_self] at hp
    exact Token.isNesting_of_refused ht hp
  | openBrace | closeBrace | header | command =>
    simp only [ht, Reading.problems, Reading.problemsIn] at hp
    grind [Problem.isNesting]

theorem isNesting_of_mem_routineProblems {first? : Option Routine} {name : List Char}
    {cs : List Command} {p : Problem} (h : p ∈ ProgramScan.routineProblems first? name cs) :
    p.isNesting = false := by
  unfold ProgramScan.routineProblems at h
  grind [Problem.isNesting]

theorem ProgramScan.isNesting_of_mem_foldl {st : ProgramScan} {bs : List Block}
    (hst : ∀ x ∈ st.diagnostics, x.problem.isNesting = false)
    (hx : x ∈ (bs.foldl readBlock st).diagnostics) : x.problem.isNesting = false := by
  induction bs generalizing st with
  | nil => exact hst x hx
  | cons b bs ih =>
    refine ih (fun y hy => ?_) hx
    have hdefine (d : Definition) (ds : List Diagnostic)
        (hds : ∀ y ∈ ds, y.problem.isNesting = false) (hy : y ∈ (st.define d ds).diagnostics) :
        y.problem.isNesting = false := by
      rw [diagnostics_define] at hy
      simp only [List.mem_append, List.mem_reverse, List.mem_map] at hy
      rcases hy with ⟨p, hp, rfl⟩ | hy | hy | hy
      · exact isNesting_of_mem_routineProblems hp
      · exact hds y hy
      · obtain ⟨t, -, hy⟩ := List.mem_flatMap.1 hy
        exact t.isNesting_of_mem (.inr ⟨_, hy⟩)
      · exact hst y hy
    cases b with
    | token t =>
      rcases List.mem_append.1 hy with hy | hy
      · exact t.isNesting_of_mem (.inl (List.mem_reverse.1 hy))
      · exact hst y hy
    | definition d => exact hdefine d [] (by simp) hy
    | unclosed d => exact hdefine d _ (by simp [Diagnostic.onLine, Problem.isNesting]) hy

theorem isNesting_of_mem_violations {i : Instruction} {p : Problem} (h : p ∈ i.violations) :
    p.isNesting = false := by
  have hviolation := isViolation_of_mem_violations h
  cases p <;> first | rfl | cases hviolation

theorem Program.isNesting_of_mem {p : Program} (h : x ∈ p.diagnostics) :
    x.problem.isNesting = false := by
  rcases List.mem_append.1 h with h | h
  · obtain ⟨c, -, hx⟩ := List.mem_flatMap.1 h
    obtain ⟨q, hq, rfl⟩ := List.mem_map.1 hx
    rcases List.mem_append.1 hq with hq | hq
    · exact isNesting_of_mem_violations hq
    · unfold callProblems at hq
      grind [Problem.isNesting, Diagnostic.onLine]
  · obtain ⟨q, hq, rfl⟩ := List.mem_map.1 h
    unfold wholeProblems at hq
    grind [Problem.isNesting, Diagnostic.ofScript]

theorem Compilation.isNesting_of_mem {callDepth : Nat} {source : String} {c : Compilation}
    (hc : compile callDepth source = .ok c) (hx : x ∈ c.diagnostics) :
    x.problem.isNesting = false := by
  obtain ⟨-, rfl, -⟩ := compile_eq_ok.1 hc
  rw [compileTokens_eq] at hx
  simp only [List.mem_append] at hx
  rcases hx with (hx | hx) | hx
  · exact isNesting_of_mem_tokenize hx
  · obtain ⟨bs, hbs⟩ := exists_laid (tokenize source.toList).1
    rw [Program.scanned, hbs.finish_eq .start rfl] at hx
    have hstart : ∀ y ∈ ProgramScan.start.diagnostics, y.problem.isNesting = false :=
      fun y hy => by cases hy
    exact ProgramScan.isNesting_of_mem_foldl hstart (List.mem_reverse.1 hx)
  · exact Program.isNesting_of_mem hx

end Reports

/-! ## What an expansion reports -/

section Expand

variable {budget limit : Nat} {p : Program}

/-- A call that is too deep is among those that inlining meets if an expansion warns of one. -/
theorem Program.exists_tooDeep {d : Diagnostic} (hd : d ∈ (p.expand budget limit).diagnostics)
    (hn : d.problem.isNesting) :
    ∃ v ∈ p.visits limit, ∃ name, v.2.instruction = .call name ∧ limit ≤ v.1.length := by
  have hwarning : d.isError = false := by
    rw [Diagnostic.isError_eq_false]
    intro hs
    rw [Problem.isNesting_of_error hs] at hn
    cases hn
  obtain ⟨v, hv, name, hcall, hl, -⟩ := Program.expand_warned hd hwarning
  exact ⟨v, List.mem_of_mem_take hv, name, hcall, hl⟩

theorem Program.exists_isNesting (hb : (p.visits limit).length ≤ budget)
    (h : ∃ v ∈ p.visits limit, ∃ name, v.2.instruction = .call name ∧ limit ≤ v.1.length) :
    ∃ d ∈ (p.expand budget limit).diagnostics, d.problem.isNesting := by
  obtain ⟨v, hv, name, hcall, hl⟩ := h
  have htake : v ∈ (p.visits limit).take budget := by rwa [List.take_of_length_le hb]
  have hcount := Program.expand_warned_once htake hcall hl
  obtain ⟨⟨line?, problem⟩, hd, hskipped⟩ := List.countP_pos_iff.1 (hcount ▸ Nat.one_pos)
  refine ⟨_, hd, ?_⟩
  simp only [Diagnostic.skipped?] at hskipped
  split at hskipped
  · rfl
  · cases hskipped

theorem Command.inline_of_le {table : List Routine} {limit' : Nat} (hle : limit ≤ limit')
    {chain : List String} {c : Command}
    (h : ∀ v ∈ c.visits table limit chain, ∀ name, v.2.instruction = .call name →
      v.1.length < limit) :
    c.inline table limit' chain = c.inline table limit chain := by
  fun_induction Command.inline table limit chain c with
  | case1 chain c hc =>
    rw [Command.inline]
    simp only [hc]
  | case2 chain c name hc hl =>
    have hself : (chain, c) ∈ c.visits table limit chain := by
      rw [Command.visits_eq]
      exact List.mem_cons_self
    exact absurd (h _ hself name (Instruction.callee?_eq_some.1 hc)) (Nat.not_lt.2 hl)
  | case3 chain c name hc hl hf =>
    rw [Command.inline]
    simp only [hc, hf, ite_self]
  | case4 chain c name hc hl r hf ih =>
    have hl' : ¬ limit' ≤ chain.length := by omega
    rw [Command.inline]
    simp only [hc, hf, if_neg hl']
    refine List.flatMap_congr fun x hx => ih x fun v hv => h v ?_
    rw [Command.visits_eq]
    refine List.mem_cons_of_mem _ (List.mem_flatMap.2 ⟨(chain ++ [name], x), ?_, hv⟩)
    have hcall := Instruction.callee?_eq_some.1 hc
    exact Pending.mem_body_iff.2 ⟨name, r, x, hcall, Nat.not_le.1 hl, hf, hx, rfl⟩

theorem Program.inline_of_le {limit' : Nat} (hle : limit ≤ limit')
    (h : ¬ ∃ v ∈ p.visits limit, ∃ name, v.2.instruction = .call name ∧ limit ≤ v.1.length) :
    p.inline limit' = p.inline limit := by
  refine List.flatMap_congr fun c hc => Command.inline_of_le hle fun v hv name hcall => ?_
  refine Nat.not_le.1 fun hl => h ⟨v, ?_, name, hcall, hl⟩
  exact List.mem_flatMap.2 ⟨c, hc, hv⟩

end Expand

namespace Compilation

variable {c : Compilation}

theorem warnsOfNesting_iff (h : ∀ x ∈ c.diagnostics, x.problem.isNesting = false) :
    c.expand.WarnsOfNesting ↔
      ∃ d ∈ (c.program.expand expansionBudget c.callDepth).diagnostics, d.problem.isNesting := by
  constructor
  · rintro ⟨d, hd, hn⟩
    rcases List.mem_append.1 hd with hd | hd
    · rw [h d hd] at hn
      cases hn
    · exact ⟨d, List.mem_reverse.1 hd, hn⟩
  · rintro ⟨d, hd, hn⟩
    exact ⟨d, List.mem_append_right _ (List.mem_reverse.2 hd), hn⟩

theorem exists_nested (h : ∀ x ∈ c.diagnostics, x.problem.isNesting = false)
    (hw : c.expand.WarnsOfNesting) :
    ∃ names, names.length = c.callDepth + 1 ∧ c.program.Nested names := by
  obtain ⟨d, hd, hn⟩ := (warnsOfNesting_iff h).1 hw
  exact Program.exists_tooDeep_iff.1 (Program.exists_tooDeep hd hn)

/-- An expansion that is not given up warns if there are more calls in one another than it may
follow. -/
theorem warns_of_nested (h : ∀ x ∈ c.diagnostics, x.problem.isNesting = false)
    (hb : ¬ c.expand.OutOfBudget) {names : List String} (hlength : names.length = c.callDepth + 1)
    (hnested : c.program.Nested names) : c.expand.WarnsOfNesting := by
  have hle := length_visits_le fun d hd he => hb ⟨d, hd, he⟩
  have hdeep := Program.exists_tooDeep_iff.2 ⟨names, hlength, hnested⟩
  exact (warnsOfNesting_iff h).2 (Program.exists_isNesting hle hdeep)

end Compilation

/-- **An expansion reports calls that are nested too deeply exactly where there are any**, and so
either follows all calls of a script without recursion or tells that it does not. -/
theorem compile_capsNesting {limit : Nat} {source : String} {c : Compilation}
    (hc : compile limit source = .ok c) : CapsNesting limit c := by
  have hnone : ∀ x ∈ c.diagnostics, x.problem.isNesting = false := fun x hx =>
    Compilation.isNesting_of_mem hc hx
  obtain rfl : c.callDepth = limit := by
    obtain ⟨-, rfl, -⟩ := compile_eq_ok.1 hc
    rfl
  refine ⟨fun hb => ⟨c.exists_nested hnone, ?_⟩, fun hacyclic hle hdefined => ?_, ?_⟩
  · rintro ⟨names, hlength, hnested⟩
    exact c.warns_of_nested hnone hb hlength hnested
  · have hno : ¬ ∃ names, names.length = c.callDepth + 1 ∧ c.program.Nested names := by
      rintro ⟨names, hlength, hnested⟩
      have := hnested.length_le hacyclic hdefined
      omega
    refine ⟨fun hw => hno (c.exists_nested hnone hw), fun hb limit' hlimit => ?_⟩
    have hall : ∀ d ∈ c.expand.diagnostics, d.problem ≠ .budgetExceeded := fun d hd he =>
      hb ⟨d, hd, he⟩
    rw [Compilation.expand_commands_eq hall]
    exact (Program.inline_of_le hlimit (mt Program.exists_tooDeep_iff.1 hno)).symm
  · rintro ⟨x, hx, name, hcall, hendless⟩
    refine or_iff_not_imp_right.2 fun hb => ?_
    obtain ⟨names, hlength, hchain⟩ := hendless.exists_chain c.callDepth
    refine c.warns_of_nested hnone hb (congrArg (· + 1) hlength) ⟨fun g hg => ?_, hchain⟩
    cases hg
    exact ⟨x, hx, hcall⟩

/-- With three calls in one another, the two routines that call each other are followed no
further. -/
theorem loops_capsNesting : compile 3 loops = .ok loopsCompiled ∧ CapsNesting 3 loopsCompiled ∧
    loopsCompiled.program.Nested ["A", "B", "A", "B"] ∧ loopsCompiled.expand.WarnsOfNesting := by
  have hcaps := compile_capsNesting compile_loops
  have hbudget : ¬ loopsCompiled.expand.OutOfBudget := by
    rintro ⟨d, hd, hp⟩
    exact absurd hp (by revert d; decide)
  have hab : Calls loopsCompiled.program.routines "A" "B" := ⟨_, rfl, by decide⟩
  have hba : Calls loopsCompiled.program.routines "B" "A" := ⟨_, rfl, by decide⟩
  have hnested : loopsCompiled.program.Nested ["A", "B", "A", "B"] := by
    refine ⟨fun g hg => ?_, by simp [hab, hba]⟩
    cases hg
    exact ⟨_, List.mem_cons_self, rfl⟩
  exact ⟨compile_loops, hcaps, hnested, (hcaps.warns_iff hbudget).2 ⟨_, rfl, hnested⟩⟩

end MotionScript
