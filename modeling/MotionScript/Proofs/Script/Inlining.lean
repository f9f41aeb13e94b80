import Mathlib.Data.List.Count
import Mathlib.Data.List.Induction
import Mathlib.Data.List.Nodup
import MotionScript.Script.Expansion

/-!
# Expansion is bounded inlining

* `Command.inline`: a command with its calls replaced by the bodies they name, by recursion on how
  many names the chain of routines may still get.
* `Command.visits`: the commands and calls met on the way, in order; `inline_eq`: the inlining
  copies those that are no calls.
* `expandFrom_eq`: the expansion loop visits the same commands in the same order, as many as its
  budget allows.
* `InlinesUpTo`, **`expand_inlinesUpTo`**: what an expansion yields, with every budget.
-/

namespace MotionScript

/-- A command in a chain of routines with its calls inlined. A call that is nested too deeply, or
that names no routine, becomes nothing. -/
def Command.inline (table : List Routine) (limit : Nat) (chain : List String) (c : Command) :
    List Command :=
  match c.instruction.callee? with
  | none => [{ c with callers := chain }]
  | some name =>
    if limit ≤ chain.length then []
    else
      match Routine.find? table name with
      | none => []
      | some r => r.commands.flatMap (Command.inline table limit (chain ++ [name]))
termination_by limit - chain.length
decreasing_by
  rw [List.length_append, List.length_singleton]
  omega

/-- The commands and calls that inlining a command meets, in order. -/
def Command.visits (table : List Routine) (limit : Nat) (chain : List String) (c : Command) :
    List Pending :=
  (chain, c) ::
    match c.instruction.callee? with
    | none => []
    | some name =>
      if limit ≤ chain.length then []
      else
        match Routine.find? table name with
        | none => []
        | some r => r.commands.flatMap (Command.visits table limit (chain ++ [name]))
termination_by limit - chain.length
decreasing_by
  rw [List.length_append, List.length_singleton]
  omega

namespace Pending

/-- The body that a call is replaced by, in its chain. -/
def body (table : List Routine) (limit : Nat) (v : Pending) : List Pending :=
  match v.2.instruction.callee? with
  | none => []
  | some name =>
    if limit ≤ v.1.length then []
    else
      match Routine.find? table name with
      | none => []
      | some r => r.commands.map (v.1 ++ [name], ·)

/-- The copy of a command that is no call. -/
def copy? (v : Pending) : Option Command :=
  match v.2.instruction.callee? with
  | none => some { v.2 with callers := v.1 }
  | some _ => none

/-- Source line and name of a call that is nested too deeply. -/
def tooDeep? (limit : Nat) (v : Pending) : Option (Nat × String) :=
  match v.2.instruction.callee? with
  | none => none
  | some name => if limit ≤ v.1.length then some (v.2.line, name) else none

end Pending

/-- Source line and name of the call that a warning is about. -/
def Diagnostic.skipped? (d : Diagnostic) : Option (Nat × String) :=
  match d.line?, d.problem with
  | some line, .depthExceeded _ name _ => some (line, name)
  | _, _ => none

/-- A program with its calls inlined. -/
def Program.inline (limit : Nat) (p : Program) : List Command :=
  p.commands.flatMap (Command.inline p.routines limit [])

/-- The commands and calls that inlining a program meets, in order. -/
def Program.visits (limit : Nat) (p : Program) : List Pending :=
  p.commands.flatMap (Command.visits p.routines limit [])

/-- What an expansion yields is what inlining yields, as far as the budget allows. -/
structure InlinesUpTo (budget limit : Nat) (p : Program) (st : ExpansionScan) : Prop where
  /-- With enough budget all is inlined, and no error is reported. -/
  complete : (p.visits limit).length ≤ budget →
    st.commands.reverse = p.inline limit ∧ st.diagnostics.filter Diagnostic.isError = []
  /-- Without, the first visits are, and one error is reported, at the first visit left out. -/
  truncated : budget < (p.visits limit).length →
    st.commands.reverse = ((p.visits limit).take budget).filterMap Pending.copy? ∧
      st.commands.reverse <+: p.inline limit ∧
      ∃ v, (p.visits limit)[budget]? = some v ∧
        st.diagnostics.filter Diagnostic.isError = [.onLine v.2.line .budgetExceeded]
  callee?_eq : ∀ c ∈ st.commands, c.instruction.callee? = none
  /-- The commands differ from those of the source in their chains of routines only. -/
  source : ∀ c ∈ st.commands, ∃ c' ∈ p.allCommands, c = { c' with callers := c.callers }
  length_le : st.commands.length ≤ budget
  callers_le : ∀ c ∈ st.commands, c.callers.length ≤ limit
  /-- A warning is about a visited call that is nested too deeply. -/
  warned : ∀ d ∈ st.diagnostics, d.isError = false →
    ∃ v ∈ (p.visits limit).take budget, ∃ name, v.2.instruction = .call name ∧
      limit ≤ v.1.length ∧ d = .onLine v.2.line (.depthExceeded limit name v.1)
  /-- Calls on one line with one name share one warning. -/
  warned_once : ∀ v ∈ (p.visits limit).take budget, ∀ name, v.2.instruction = .call name →
    limit ≤ v.1.length →
    st.diagnostics.countP (fun d => d.skipped? = some (v.2.line, name)) = 1

/-! ## What inlining visits -/

section Visits

variable {table : List Routine} {limit : Nat}

theorem Instruction.callee?_eq_some {i : Instruction} {name : String} :
    i.callee? = some name ↔ i = .call name := by
  cases i <;> simp [Instruction.callee?]

theorem Pending.mem_body {v w : Pending} (hw : w ∈ v.body table limit) :
    v.1.length < w.1.length ∧ w.1.length ≤ limit ∧ ∃ r ∈ table, w.2 ∈ r.commands := by
  unfold body at hw
  split at hw
  · cases hw
  · split at hw
    · cases hw
    · next hl =>
      split at hw
      · cases hw
      · next r hf =>
        obtain ⟨c, hc, rfl⟩ := List.mem_map.1 hw
        simp only [List.length_append, List.length_singleton]
        exact ⟨by omega, by omega, r, Routine.mem_of_find? hf, hc⟩

theorem Command.visits_eq (table : List Routine) (limit : Nat) (chain : List String)
    (c : Command) : c.visits table limit chain =
      (chain, c) :: (Pending.body table limit (chain, c)).flatMap
        fun v => v.2.visits table limit v.1 := by
  rw [Command.visits]
  unfold Pending.body
  cases hc : c.instruction.callee? with
  | none => rfl
  | some name =>
    by_cases hl : limit ≤ chain.length
    · simp [hl]
    · cases hf : Routine.find? table name with
      | none => simp [hl, hf]
      | some r => simp [hl, hf, List.flatMap_map]

theorem Command.inline_eq (table : List Routine) (limit : Nat) (chain : List String)
    (c : Command) : c.inline table limit chain =
      (c.visits table limit chain).filterMap Pending.copy? := by
  fun_induction Command.inline table limit chain c with
  | case1 chain c hc =>
    rw [Command.visits_eq]
    simp [Pending.body, Pending.copy?, hc]
  | case2 chain c name hc hl =>
    rw [Command.visits_eq]
    simp [Pending.body, Pending.copy?, hc, hl]
  | case3 chain c name hc hl hf =>
    rw [Command.visits_eq]
    simp [Pending.body, Pending.copy?, hc, hl, hf]
  | case4 chain c name hc hl r hf ih =>
    have hcopy : Pending.copy? (chain, c) = none := by simp [Pending.copy?, hc]
    have hbody : Pending.body table limit (chain, c) = r.commands.map (chain ++ [name], ·) := by
      simp [Pending.body, hc, hl, hf]
    rw [Command.visits_eq, List.filterMap_cons, hcopy, hbody, List.flatMap_map,
      List.filterMap_flatMap]
    exact congrArg r.commands.flatMap (funext ih)

theorem Program.inline_eq (limit : Nat) (p : Program) :
    p.inline limit = (p.visits limit).filterMap Pending.copy? := by
  rw [Program.inline, Program.visits, List.filterMap_flatMap]
  exact congrArg p.commands.flatMap (funext fun c => c.inline_eq _ _ _)

/-- A visit meets the command itself or one of a routine, in a chain that is not too long. -/
theorem Command.mem_visits {chain : List String} {c : Command} {v : Pending}
    (hv : v ∈ c.visits table limit chain) (hl : chain.length ≤ limit) :
    v.1.length ≤ limit ∧ (v.2 = c ∨ ∃ r ∈ table, v.2 ∈ r.commands) := by
  rw [Command.visits_eq] at hv
  rcases List.mem_cons.1 hv with rfl | hv
  · exact ⟨hl, .inl rfl⟩
  · obtain ⟨w, hw, hv⟩ := List.mem_flatMap.1 hv
    obtain ⟨hlt, hle, r, hr, hm⟩ := Pending.mem_body hw
    obtain ⟨hle', hmem⟩ := Command.mem_visits hv hle
    refine ⟨hle', .inr ?_⟩
    rcases hmem with e | h
    · exact ⟨r, hr, e ▸ hm⟩
    · exact h
termination_by limit - chain.length
decreasing_by
  change chain.length < w.1.length at hlt
  omega

theorem Program.mem_visits {p : Program} {v : Pending} (hv : v ∈ p.visits limit) :
    v.1.length ≤ limit ∧ v.2 ∈ p.allCommands := by
  obtain ⟨c, hc, hv⟩ := List.mem_flatMap.1 hv
  obtain ⟨hle, hmem⟩ := Command.mem_visits hv (Nat.zero_le _)
  refine ⟨hle, List.mem_append.2 ?_⟩
  rcases hmem with e | ⟨r, hr, hm⟩
  · exact .inl (e ▸ hc)
  · exact .inr (List.mem_flatMap.2 ⟨r, hr, hm⟩)

end Visits

/-! ## What the expansion loop makes of its visits -/

/-- What a visit adds to a scan. -/
def ExpansionScan.visit (limit : Nat) (st : ExpansionScan) (v : Pending) : ExpansionScan :=
  match v.2.instruction.callee? with
  | none => st.emit v.1 v.2
  | some name => if limit ≤ v.1.length then st.skip limit v.1 v.2.line name else st

section Scan

variable {table : List Routine} {limit : Nat} {st : ExpansionScan}

theorem expandFrom_cons (table : List Routine) (limit budget : Nat) (v : Pending)
    (rest : List Pending) (st : ExpansionScan) :
    expandFrom table limit (budget + 1) (v :: rest) st =
      expandFrom table limit budget (v.body table limit ++ rest) (st.visit limit v) := by
  obtain ⟨chain, c⟩ := v
  rw [expandFrom]
  unfold Pending.body ExpansionScan.visit
  cases hc : c.instruction.callee? with
  | none => rfl
  | some name =>
    by_cases hl : limit ≤ chain.length
    · simp [hl]
    · cases hf : Routine.find? table name with
      | none => simp [hl, hf]
      | some r => simp [hl, hf, Routine.name_of_find? hf]

theorem expandFrom_eq (table : List Routine) (limit budget : Nat) (pending : List Pending)
    (st : ExpansionScan) :
    let vs := pending.flatMap fun v => v.2.visits table limit v.1
    let st' := (vs.take budget).foldl (ExpansionScan.visit limit) st
    expandFrom table limit budget pending st =
      match vs[budget]? with
      | none => st'
      | some v => st'.giveUp v.2.line := by
  induction budget generalizing pending st with
  | zero =>
    cases pending with
    | nil => rfl
    | cons v rest =>
      rw [List.flatMap_cons, Command.visits_eq]
      rfl
  | succ budget ih =>
    cases pending with
    | nil => rfl
    | cons v rest =>
      rw [expandFrom_cons, ih, List.flatMap_cons, Command.visits_eq, List.flatMap_append]
      rfl

/-! ## What a scan holds after its visits -/

/-- What a scan holds after a list of visits. -/
structure Scanned (limit : Nat) (vs : List Pending) (st : ExpansionScan) : Prop where
  commands : st.commands.reverse = vs.filterMap Pending.copy?
  mem_skipped : ∀ k, k ∈ st.skipped ↔ k ∈ vs.filterMap (Pending.tooDeep? limit)
  nodup : st.skipped.Nodup
  /-- The warnings are about the calls skipped, each about one. -/
  diagnostics : st.diagnostics.map Diagnostic.skipped? = st.skipped.map some
  warned : ∀ d ∈ st.diagnostics, ∃ v ∈ vs, ∃ name, v.2.instruction = .call name ∧
    limit ≤ v.1.length ∧ d = .onLine v.2.line (.depthExceeded limit name v.1)

theorem Scanned.start (limit : Nat) : Scanned limit [] .start where
  commands := rfl
  mem_skipped k := by simp [ExpansionScan.start]
  nodup := List.nodup_nil
  diagnostics := rfl
  warned d hd := by cases hd

/-- A visit that reports nothing, since it is no call that is too deep or not the first one on its
line with its name. -/
theorem Scanned.append {vs : List Pending} {v : Pending} (h : Scanned limit vs st)
    {cs : List Command} (hcs : cs.reverse = st.commands.reverse ++ v.copy?.toList)
    (hv : ∀ k, v.tooDeep? limit = some k → k ∈ st.skipped) :
    Scanned limit (vs ++ [v]) { st with commands := cs } where
  commands := by
    rw [hcs, h.commands, List.filterMap_append]
    cases hc : v.copy? <;> simp [hc]
  mem_skipped k := by
    have hk := h.mem_skipped k
    rw [List.filterMap_append, List.mem_append, ← hk, List.mem_filterMap]
    refine ⟨.inl, fun hor => hor.elim id ?_⟩
    rintro ⟨w, hw, hd⟩
    obtain rfl := List.mem_singleton.1 hw
    exact hv k hd
  nodup := h.nodup
  diagnostics := h.diagnostics
  warned d hd := by
    obtain ⟨w, hw, hd⟩ := h.warned d hd
    exact ⟨w, List.mem_append_left _ hw, hd⟩

theorem Scanned.skip {vs : List Pending} {v : Pending} {name : String} (h : Scanned limit vs st)
    (hc : v.2.instruction.callee? = some name) (hl : limit ≤ v.1.length) :
    Scanned limit (vs ++ [v]) (st.skip limit v.1 v.2.line name) := by
  have hcopy : v.copy? = none := by simp [Pending.copy?, hc]
  have hdeep : v.tooDeep? limit = some (v.2.line, name) := by simp [Pending.tooDeep?, hc, hl]
  unfold ExpansionScan.skip
  split
  · next hm =>
    refine h.append (by simp [hcopy]) fun k hk => ?_
    rw [hdeep] at hk
    exact Option.some.inj hk ▸ hm
  · next hm =>
    exact
      { commands := by simp [h.commands, hcopy]
        mem_skipped := fun k => by
          simp [h.mem_skipped, hdeep, or_comm, eq_comm]
        nodup := List.nodup_cons.2 ⟨hm, h.nodup⟩
        diagnostics := by
          rw [List.map_cons, List.map_cons, h.diagnostics]
          rfl
        warned := by
          intro d hd
          rcases List.mem_cons.1 hd with rfl | hd
          · have hmem : v ∈ vs ++ [v] := List.mem_append_right _ (List.mem_singleton_self v)
            exact ⟨v, hmem, name, Instruction.callee?_eq_some.1 hc, hl, rfl⟩
          · obtain ⟨w, hw, hd⟩ := h.warned d hd
            exact ⟨w, List.mem_append_left _ hw, hd⟩ }

theorem Scanned.visit {vs : List Pending} (h : Scanned limit vs st) (v : Pending) :
    Scanned limit (vs ++ [v]) (st.visit limit v) := by
  unfold ExpansionScan.visit
  split
  · next hc =>
    refine h.append (by simp [Pending.copy?, hc]) fun k hk => ?_
    simp [Pending.tooDeep?, hc] at hk
  · next name hc =>
    split
    · next hl => exact h.skip hc hl
    · next hl =>
      refine h.append (by simp [Pending.copy?, hc]) fun k hk => ?_
      simp [Pending.tooDeep?, hc, hl] at hk

theorem scanned_foldl (limit : Nat) (vs : List Pending) :
    Scanned limit vs (vs.foldl (ExpansionScan.visit limit) .start) := by
  induction vs using List.reverseRecOn with
  | nil => exact .start limit
  | append_singleton vs v ih =>
    rw [List.foldl_append]
    exact ih.visit v

theorem Scanned.countP_eq {vs : List Pending} (h : Scanned limit vs st) {v : Pending}
    (hv : v ∈ vs) {k : Nat × String} (hk : v.tooDeep? limit = some k) :
    st.diagnostics.countP (fun d => d.skipped? = some k) = 1 := by
  have hmem : k ∈ st.skipped := (h.mem_skipped k).2 (List.mem_filterMap.2 ⟨v, hv, hk⟩)
  calc st.diagnostics.countP (fun d => d.skipped? = some k)
      = (st.diagnostics.map Diagnostic.skipped?).count (some k) := by
        rw [List.count, List.countP_map]
        congr 1
        funext d
        exact Bool.eq_iff_iff.2 (by simp)
    _ = (st.skipped.map some).count (some k) := by rw [h.diagnostics]
    _ = st.skipped.count k := List.count_map_of_injective _ _ (fun _ _ => Option.some.inj) _
    _ = 1 := List.count_eq_one_of_mem h.nodup hmem

theorem Scanned.not_isError {vs : List Pending} (h : Scanned limit vs st) :
    st.diagnostics.filter Diagnostic.isError = [] := by
  refine List.filter_eq_nil_iff.2 fun d hd => ?_
  obtain ⟨v, -, name, -, -, rfl⟩ := h.warned d hd
  simp [Diagnostic.isError, Diagnostic.onLine, Problem.severity]

theorem Scanned.mem_commands {vs : List Pending} (h : Scanned limit vs st) {c : Command}
    (hc : c ∈ st.commands) : ∃ v ∈ vs, v.2.instruction.callee? = none ∧
      c = { v.2 with callers := v.1 } := by
  have hc : c ∈ vs.filterMap Pending.copy? := by
    rw [← h.commands]
    exact List.mem_reverse.2 hc
  obtain ⟨v, hv, hcopy⟩ := List.mem_filterMap.1 hc
  unfold Pending.copy? at hcopy
  split at hcopy
  · next hn => exact ⟨v, hv, hn, (Option.some.inj hcopy).symm⟩
  · cases hcopy

end Scan

/-- What a scan holds after the visits that a budget allows, and when it gives up. -/
theorem Program.expand_eq (budget limit : Nat) (p : Program) :
    ∃ st, Scanned limit ((p.visits limit).take budget) st ∧
      p.expand budget limit =
        match (p.visits limit)[budget]? with
        | none => st
        | some v => st.giveUp v.2.line := by
  have hvisits : (p.commands.map (([], ·) : Command → Pending)).flatMap
      (fun v => v.2.visits p.routines limit v.1) = p.visits limit := by
    rw [Program.visits, List.flatMap_map]
  refine ⟨_, scanned_foldl limit _, ?_⟩
  rw [← hvisits]
  exact expandFrom_eq p.routines limit budget _ .start

section Expand

variable {budget limit : Nat} {p : Program}

theorem Program.expand_commands (budget limit : Nat) (p : Program) :
    (p.expand budget limit).commands.reverse =
      ((p.visits limit).take budget).filterMap Pending.copy? := by
  obtain ⟨st, h, he⟩ := p.expand_eq budget limit
  rw [he, ← h.commands]
  split <;> rfl

theorem Program.mem_expand_commands {c : Command} (hc : c ∈ (p.expand budget limit).commands) :
    ∃ v ∈ p.visits limit, v.2.instruction.callee? = none ∧ c = { v.2 with callers := v.1 } := by
  obtain ⟨st, h, he⟩ := p.expand_eq budget limit
  have hcommands : (p.expand budget limit).commands = st.commands := by
    rw [he]
    split <;> rfl
  rw [hcommands] at hc
  obtain ⟨v, hv, hc⟩ := h.mem_commands hc
  exact ⟨v, List.mem_of_mem_take hv, hc⟩

/-- An expansion reports an error exactly if there is a visit that its budget does not allow. -/
theorem Program.expand_errors (budget limit : Nat) (p : Program) :
    (p.expand budget limit).diagnostics.filter Diagnostic.isError =
      match (p.visits limit)[budget]? with
      | none => []
      | some v => [.onLine v.2.line .budgetExceeded] := by
  obtain ⟨st, h, he⟩ := p.expand_eq budget limit
  rw [he]
  split
  · exact h.not_isError
  · exact congrArg (_ :: ·) h.not_isError

theorem Program.exists_budgetExceeded (h : budget < (p.visits limit).length) :
    ∃ d ∈ (p.expand budget limit).diagnostics, d.problem = .budgetExceeded := by
  have herrors := p.expand_errors budget limit
  rw [List.getElem?_eq_getElem h] at herrors
  have hmem : .onLine (p.visits limit)[budget].2.line .budgetExceeded ∈
      (p.expand budget limit).diagnostics.filter Diagnostic.isError := by
    rw [herrors]
    exact List.mem_singleton_self _
  exact ⟨_, List.mem_of_mem_filter hmem, rfl⟩

theorem Program.expand_warned {d : Diagnostic} (hd : d ∈ (p.expand budget limit).diagnostics)
    (hn : d.isError = false) :
    ∃ v ∈ (p.visits limit).take budget, ∃ name, v.2.instruction = .call name ∧
      limit ≤ v.1.length ∧ d = .onLine v.2.line (.depthExceeded limit name v.1) := by
  obtain ⟨st, h, he⟩ := p.expand_eq budget limit
  rw [he] at hd
  split at hd
  · exact h.warned d hd
  · rcases List.mem_cons.1 hd with rfl | hd
    · simp [Diagnostic.isError, Diagnostic.onLine, Problem.severity] at hn
    · exact h.warned d hd

theorem Program.expand_warned_once {v : Pending} (hv : v ∈ (p.visits limit).take budget)
    {name : String} (hcall : v.2.instruction = .call name) (hl : limit ≤ v.1.length) :
    (p.expand budget limit).diagnostics.countP
      (fun d => d.skipped? = some (v.2.line, name)) = 1 := by
  obtain ⟨st, h, he⟩ := p.expand_eq budget limit
  have hdeep : v.tooDeep? limit = some (v.2.line, name) := by
    simp [Pending.tooDeep?, Instruction.callee?_eq_some.2 hcall, hl]
  rw [← h.countP_eq hv hdeep, he]
  split
  · rfl
  · exact List.countP_cons_of_neg (by simp [Diagnostic.skipped?, Diagnostic.onLine])

/-- **An expansion is an inlining, as far as its budget allows.** -/
theorem expand_inlinesUpTo (budget limit : Nat) (p : Program) :
    InlinesUpTo budget limit p (p.expand budget limit) where
  complete := by
    intro hle
    have hend : (p.visits limit)[budget]? = none := List.getElem?_eq_none hle
    rw [p.expand_commands, p.expand_errors, List.take_of_length_le hle, p.inline_eq, hend]
    exact ⟨rfl, rfl⟩
  truncated := by
    intro hlt
    have hend : (p.visits limit)[budget]? = some (p.visits limit)[budget] :=
      List.getElem?_eq_getElem hlt
    rw [p.expand_commands, p.expand_errors, p.inline_eq, hend]
    exact ⟨rfl, (List.take_prefix _ _).filterMap _, _, rfl, rfl⟩
  callee?_eq c hc := by
    obtain ⟨v, -, hn, rfl⟩ := Program.mem_expand_commands hc
    exact hn
  source c hc := by
    obtain ⟨v, hv, -, rfl⟩ := Program.mem_expand_commands hc
    exact ⟨v.2, (Program.mem_visits hv).2, rfl⟩
  length_le := by
    calc (p.expand budget limit).commands.length
        = (((p.visits limit).take budget).filterMap Pending.copy?).length := by
          rw [← p.expand_commands, List.length_reverse]
      _ ≤ ((p.visits limit).take budget).length := List.length_filterMap_le _ _
      _ ≤ budget := List.length_take_le _ _
  callers_le c hc := by
    obtain ⟨v, hv, -, rfl⟩ := Program.mem_expand_commands hc
    exact (Program.mem_visits hv).1
  warned _ hd hn := Program.expand_warned hd hn
  warned_once _ hv _ hcall hl := Program.expand_warned_once hv hcall hl

end Expand

end MotionScript
