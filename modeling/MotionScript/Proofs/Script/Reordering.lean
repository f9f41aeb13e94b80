import Mathlib.Data.List.Perm.Basic
import MotionScript.Proofs.Script.Accounting

/-!
# The order of definitions does not matter

Routines are looked up by name. If their names are distinct, a table in another order answers every
lookup alike, so whatever follows calls does not see the order; whatever goes through the table
itself, as the checks and the counts do, sees the same commands in another order.

* `Routine.find?_perm`: lookups in a table and in another order of it.
* `Program.nodup_routines`: a program that is read from tokens has routines of distinct names.
* `Alike`: two compilations that differ in the order of routines and of diagnostics only.
* **`Program.compiled_alike`**: a program and one with another order of its routines compile alike.
-/

namespace MotionScript

/-- Two compilations that differ in the order of routines and of diagnostics only. -/
structure Alike (c c' : Compilation) : Prop where
  isOk_eq : c'.isOk = c.isOk
  errors : c'.errors.Perm c.errors
  warnings : c'.warnings.Perm c.warnings
  /-- The commands outside routines are the same, with their estimates. -/
  commands_eq : c'.program.commands = c.program.commands
  /-- The routines are the same, with their estimates and those of the calls in them. -/
  routines : c'.program.routines.Perm c.program.routines
  routine?_eq : ∀ name, c'.routine? name = c.routine? name
  totalCommands_eq : c'.totalCommands = c.totalCommands
  totalDuration_eq : c'.totalDuration = c.totalDuration
  syncPoints_eq : c'.syncPoints = c.syncPoints
  complexity_eq : c'.complexity = c.complexity
  /-- An expansion yields the same commands and diagnostics in the same order, whatever its budget
  and its limit on the nesting of calls. -/
  expand_eq : ∀ budget limit, c'.program.expand budget limit = c.program.expand budget limit
  expand_commands_eq : c'.expand.commands = c.expand.commands
  expand_isOk_eq : c'.expand.isOk = c.expand.isOk
  expand_errors : c'.expand.errors.Perm c.expand.errors
  expand_warnings : c'.expand.warnings.Perm c.expand.warnings

/-! ## Lookups -/

section Lookup

variable {table table' : List Routine}

theorem Routine.find?_eq_some (hnodup : (table.map (·.name)).Nodup) {name : String} {r : Routine} :
    find? table name = some r ↔ r ∈ table ∧ r.name = name := by
  refine ⟨fun h => ⟨mem_of_find? h, name_of_find? h⟩, ?_⟩
  rintro ⟨hr, rfl⟩
  cases hf : find? table r.name with
  | none =>
    have hne := List.find?_eq_none.1 hf r hr
    simp at hne
  | some r' =>
    exact congrArg some (List.inj_on_of_nodup_map hnodup (mem_of_find? hf) hr (name_of_find? hf))

theorem Routine.find?_perm (hp : table'.Perm table) (hnodup : (table.map (·.name)).Nodup) :
    find? table' = find? table := by
  have hnodup' : (table'.map (·.name)).Nodup := (hp.map _).nodup_iff.2 hnodup
  funext name
  refine Option.ext fun r => ?_
  rw [find?_eq_some hnodup', find?_eq_some hnodup, hp.mem_iff]

end Lookup

theorem nodup_firstDefinitions (ds : List Definition) :
    ((firstDefinitions ds).map (·.name)).Nodup := by
  induction ds with
  | nil => exact List.nodup_nil
  | cons d ds ih =>
    rw [firstDefinitions, List.map_cons, List.nodup_cons]
    refine ⟨fun hm => ?_, (List.filter_sublist.map _).nodup ih⟩
    obtain ⟨d', hd', hname⟩ := List.mem_map.1 hm
    simpa [hname] using (List.mem_filter.1 hd').2

theorem Program.nodup_routines (ts : List Token) :
    ((Program.scanned ts).1.routines.map (·.name)).Nodup := by
  obtain ⟨bs, hbs⟩ := exists_laid ts
  have hinj : Function.Injective String.ofList := fun _ _ h => String.ofList_inj.1 h
  have hnames := (nodup_firstDefinitions (bs.filterMap Block.definition?)).map hinj
  rw [List.map_map] at hnames
  rw [hbs.program_eq, List.map_map]
  exact hnames

/-! ## What follows the calls sees lookups only -/

section Calls

variable {table table' : List Routine}

theorem bodyDuration_congr (h : Routine.find? table' = Routine.find? table) (depth : Nat) :
    bodyDuration table' depth = bodyDuration table depth := by
  induction depth with
  | zero => rfl
  | succ depth ih =>
    funext name
    rw [bodyDuration, bodyDuration, ih, h]

theorem expandFrom_congr (h : Routine.find? table' = Routine.find? table) (limit budget : Nat)
    (pending : List Pending) (st : ExpansionScan) :
    expandFrom table' limit budget pending st = expandFrom table limit budget pending st := by
  have hbody (v : Pending) : v.body table' limit = v.body table limit := by
    unfold Pending.body
    rw [h]
  induction budget generalizing pending st with
  | zero => cases pending <;> rfl
  | succ budget ih =>
    cases pending with
    | nil => rfl
    | cons v rest => rw [expandFrom_cons, expandFrom_cons, hbody, ih]

theorem commandDiagnostics_congr (h : Routine.find? table' = Routine.find? table) :
    Program.commandDiagnostics table' = Program.commandDiagnostics table := by
  funext c
  unfold Program.commandDiagnostics Program.callProblems
  rw [h]

end Calls

/-! ## What goes through the table -/

section Table

variable {p p' : Program}

theorem Program.allCommands_perm (hc : p'.commands = p.commands)
    (hr : p'.routines.Perm p.routines) : p'.allCommands.Perm p.allCommands := by
  rw [allCommands, allCommands, hc]
  exact (hr.flatMap_right _).append_left _

theorem Program.diagnostics_perm (hc : p'.commands = p.commands)
    (hr : p'.routines.Perm p.routines)
    (hf : Routine.find? p'.routines = Routine.find? p.routines) :
    p'.diagnostics.Perm p.diagnostics := by
  have hall := allCommands_perm hc hr
  have hwhole : p'.wholeProblems = p.wholeProblems := by
    have hsync : p'.syncPoints = p.syncPoints := hall.countP_eq _
    rw [wholeProblems, wholeProblems, hsync, hc]
  rw [diagnostics, diagnostics, hwhole, commandDiagnostics_congr hf]
  exact (hall.flatMap_right _).append_right _

theorem Diagnostic.texts_perm {ds ds' : List Diagnostic} (h : ds'.Perm ds) (s : Severity) :
    (texts s ds').Perm (texts s ds) :=
  (h.filter _).map _

end Table

/-- Two compilations with the same commands, with routines of distinct names in another order and
with the same diagnostics in another order. -/
theorem Alike.of_perm {c c' : Compilation} (hnodup : (c.program.routines.map (·.name)).Nodup)
    (hcommands : c'.program.commands = c.program.commands)
    (hroutines : c'.program.routines.Perm c.program.routines)
    (hdiagnostics : c'.diagnostics.Perm c.diagnostics) (hdepth : c'.callDepth = c.callDepth) :
    Alike c c' := by
  have hfind := Routine.find?_perm hroutines hnodup
  have hall := Program.allCommands_perm hcommands hroutines
  have hsync : c'.program.syncPoints = c.program.syncPoints := hall.countP_eq _
  have hgroups : c'.program.groups = c.program.groups := hall.countP_eq _
  have hexpand (budget limit : Nat) :
      c'.program.expand budget limit = c.program.expand budget limit := by
    rw [Program.expand, Program.expand, hcommands, expandFrom_congr hfind]
  have hexpanded : c'.expand.diagnostics.Perm c.expand.diagnostics := by
    simp only [Compilation.expand, hexpand, hdepth]
    exact hdiagnostics.append_right _
  exact
    { isOk_eq := congrArg not hdiagnostics.any_eq
      errors := Diagnostic.texts_perm hdiagnostics _
      warnings := Diagnostic.texts_perm hdiagnostics _
      commands_eq := hcommands
      routines := hroutines
      routine?_eq := congrFun hfind
      totalCommands_eq := hall.length_eq
      totalDuration_eq := by rw [Compilation.totalDuration, Compilation.totalDuration, hcommands]
      syncPoints_eq := hsync
      complexity_eq := by
        simp only [Compilation.complexity, Compilation.totalCommands, Compilation.syncPoints,
          hall.length_eq, hroutines.length_eq, hsync, hgroups]
      expand_eq := hexpand
      expand_commands_eq := by simp only [Compilation.expand, hexpand, hdepth]
      expand_isOk_eq := congrArg not hexpanded.any_eq
      expand_errors := Diagnostic.texts_perm hexpanded _
      expand_warnings := Diagnostic.texts_perm hexpanded _ }

/-- **A program and one with another order of its routines compile alike**, if no two routines have
one name. -/
theorem Program.compiled_alike {p : Program} (hnodup : (p.routines.map (·.name)).Nodup)
    {routines : List Routine} (hperm : routines.Perm p.routines) (callDepth : Nat)
    (read : List Diagnostic) :
    Alike (p.compiled callDepth read) (compiled callDepth read ⟨p.commands, routines⟩) := by
  have hfind : Routine.find? routines = Routine.find? p.routines :=
    Routine.find?_perm hperm hnodup
  -- estimates are made for each lookup, in whatever order the memo is filled
  have hknown := bodyDuration_congr hfind callDepth
  have hdiagnostics : Program.diagnostics ⟨p.commands, routines⟩ |>.Perm p.diagnostics :=
    diagnostics_perm rfl hperm hfind
  refine .of_perm ?_ ?_ ?_ (hdiagnostics.append_left read) rfl
  · rw [compiled, resolve_eq, List.map_map]
    exact hnodup
  · simp only [compiled, resolve_eq, hknown]
  · simp only [compiled, resolve_eq, hknown]
    exact hperm.map _

/-- Two routines that call each other, and one that is called by both. -/
def knotted : Program where
  commands := [⟨.call "A", "CALL(A)", 4, 0, []⟩, ⟨.call "C", "CALL(C)", 5, 0, []⟩]
  routines := [
    ⟨"A", [⟨.call "B", "CALL(B)", 1, 0, []⟩, ⟨.call "C", "CALL(C)", 1, 0, []⟩], 1, 0⟩,
    ⟨"B", [⟨.call "C", "CALL(C)", 2, 0, []⟩, ⟨.call "A", "CALL(A)", 2, 0, []⟩], 2, 0⟩,
    ⟨"C", [⟨.detect, "DETECT", 3, 500, []⟩], 3, 0⟩]

theorem knotted_alike : (knotted.routines.map (·.name)).Nodup ∧
    knotted.routines.reverse.Perm knotted.routines ∧
    Alike (knotted.compiled 3 [])
      (Program.compiled 3 [] ⟨knotted.commands, knotted.routines.reverse⟩) := by
  have hnodup : (knotted.routines.map (·.name)).Nodup := by decide
  have hperm : knotted.routines.reverse.Perm knotted.routines := List.reverse_perm _
  exact ⟨hnodup, hperm, Program.compiled_alike hnodup hperm 3 []⟩

end MotionScript
