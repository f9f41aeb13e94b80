import MotionScript.Proofs.Script.LineLocal
import MotionScript.Proofs.Script.Lines
import MotionScript.Proofs.Script.Reprint
import MotionScript.Proofs.Script.Spacing

/-!
# Commands keep the line that they stand on

* `StandsOn`: texts stand on a line of a source, in order and before the comment.
* `Command.parts`: what a command stands on its line with. The fields of a speed may stand apart.
* `Token.Becomes.standsOn`: so it is with a command and the token that becomes it.
* `Diagnostic.Names`: a diagnostic names a line. `compileTokens_names`: a compilation names lines of
  its tokens only, since with all other lines renamed it is the same compilation.
* `sorted_commands`: commands come in the order of their lines.
* **`Compilation.placed`**: all of it for the commands and diagnostics of a compilation and of its
  expansion.
-/

namespace MotionScript

/-- Texts stand on a line, in order and with a gap between each two, before the comment. -/
def StandsOn (source : List Char) (n : Nat) (Gap : List Char → Prop) (parts : List (List Char)) :
    Prop :=
  ∃ before text after, (before ++ (text ++ after), n) ∈ (lines source).zipIdx 1 ∧
    (∀ pre, pre ++ commentMark <+: before ++ (text ++ after) →
      (before ++ text).length ≤ pre.length) ∧
    Spaced Gap parts text

/-- What a command stands on its line with: a speed with its fields, and any other command with its
statement as a whole. -/
def Command.parts (c : Command) : List (List Char) :=
  match c.instruction with
  | .speed _ _ => splitOn ';' c.raw.toList
  | _ => [c.raw.toList]

/-- A line of a source. -/
def InSource (source : List Char) (n : Nat) : Prop := 1 ≤ n ∧ n ≤ (lines source).length

instance (source : List Char) (n : Nat) : Decidable (InSource source n) :=
  inferInstanceAs (Decidable (_ ∧ _))

/-- A line that a diagnostic names, at its beginning or in its text. -/
def Diagnostic.Names (d : Diagnostic) (n : Nat) : Prop :=
  d.line? = some n ∨ ∃ name, d.problem = .repeatedRoutine name n

/-- What commands and diagnostics say about lines is so. -/
structure Placed (source : List Char) (c : Compilation) : Prop where
  /-- A command stands on its line, also one that an expansion copies. Only where a parenthesis of
  the line is reported can there be other text between the fields of a speed. -/
  stands : ∀ x, x ∈ c.program.allCommands ∨ x ∈ c.expand.commands → InSource source x.line ∧
    StandsOn source x.line (Gap (.onLine x.line .unexpectedClose ∈ c.diagnostics)) x.parts
  /-- Without errors there are none but semicolons and blanks between the fields. -/
  stands_of_isOk : c.isOk → ∀ x, x ∈ c.program.allCommands ∨ x ∈ c.expand.commands →
    StandsOn source x.line Loose x.parts
  sorted : (c.program.commands.map (·.line)).Pairwise (· ≤ ·)
  sorted_routine : ∀ r ∈ c.program.routines, (r.commands.map (·.line)).Pairwise (· ≤ ·)
  names : ∀ d ∈ c.expand.diagnostics, ∀ n, d.Names n → InSource source n

/-! ## Where the commands stand -/

section Lines

variable {source l u : List Char} {n : Nat} {P : List Char → Prop} {parts : List (List Char)}

theorem length_beforeComment_le {pre l : List Char} (h : pre ++ commentMark <+: l) :
    (beforeComment l).length ≤ pre.length := by
  induction pre generalizing l with
  | nil =>
    obtain ⟨rest, rfl⟩ := h
    rw [commentMark, List.nil_append, List.cons_append, beforeComment_cons, if_pos ⟨rfl, rfl⟩]
  | cons c pre ih =>
    obtain ⟨rest, rfl⟩ := h
    rw [List.cons_append, List.cons_append, beforeComment_cons]
    split
    · exact Nat.zero_le _
    · exact Nat.succ_le_succ (ih ⟨rest, rfl⟩)

theorem standsOn_of_infix (hl : (l, n) ∈ (lines source).zipIdx 1) (hu : u <:+: beforeComment l)
    (hparts : Spaced P parts u) : StandsOn source n P parts := by
  obtain ⟨before, after, hbefore⟩ := hu
  obtain ⟨comment, hline, -⟩ := beforeComment_append l
  have hwhole : before ++ (u ++ (after ++ comment)) = l := by
    rw [hline, ← hbefore]
    simp only [List.append_assoc]
  refine ⟨before, u, after ++ comment, hwhole ▸ hl, fun pre hpre => ?_, hparts⟩
  rw [hwhole] at hpre
  refine Nat.le_trans ?_ (length_beforeComment_le hpre)
  rw [← hbefore]
  exact (List.prefix_append (before ++ u) after).length_le

theorem StandsOn.mono {Q : List Char → Prop} (h : StandsOn source n P parts)
    (hPQ : ∀ s, P s → Q s) : StandsOn source n Q parts := by
  obtain ⟨before, text, after, hl, hcomment, hparts⟩ := h
  exact ⟨before, text, after, hl, hcomment, hparts.mono hPQ⟩

theorem inSource_of_mem_zipIdx (hl : (l, n) ∈ (lines source).zipIdx 1) : InSource source n := by
  have hle := List.le_snd_of_mem_zipIdx hl
  have hlt := List.snd_lt_of_mem_zipIdx hl
  exact ⟨hle, by omega⟩

end Lines

section Tokens

variable {source : List Char} {t : Token}

theorem inSource_of_mem_tokenize (h : t ∈ (tokenize source).1) : InSource source t.line := by
  obtain ⟨l, hl, -⟩ := exists_line_of_mem_tokenize h
  exact inSource_of_mem_zipIdx hl

theorem Token.Becomes.standsOn {x : Command} (h : t.Becomes x) (ht : t ∈ (tokenize source).1)
    {unbalanced : Prop}
    (hu : .onLine x.line .unexpectedClose ∈ (tokenize source).2 → unbalanced) :
    StandsOn source x.line (Gap unbalanced) x.parts := by
  obtain ⟨hlexeme, hline, hwritten⟩ := h
  obtain ⟨l, hl, hmem⟩ := exists_line_of_mem_tokenize ht
  rw [hlexeme] at hmem
  rw [hline] at hu ⊢
  have hgap : .unexpectedClose ∈ (scanLine l).2 → unbalanced := fun hp =>
    hu (mem_tokenize_snd.2 ⟨l, t.line, hl, _, hp, rfl⟩)
  by_cases hspeed : speedKeyword <+: x.raw.toList
  · obtain ⟨axis, v, hx⟩ := hwritten.exists_speed hspeed
    obtain ⟨text, htext, hfields⟩ := spaced_of_mem_scanLine hmem
    rw [Command.parts, hx]
    exact standsOn_of_infix hl htext (hfields.mono fun _ hg => hg.mono hgap)
  · have hinfix := infix_of_mem_scanLine hmem hspeed
    have hparts : Spaced (Gap unbalanced) x.parts x.raw.toList := by
      unfold Command.parts
      split
      · exact spaced_splitOn loose_semicolon.gap _
      · exact spaced_singleton _ _
    exact standsOn_of_infix hl hinfix hparts

end Tokens

/-! ## Lines that are named -/

section Names

variable {source : List Char}

/-- A diagnostic that is the same with a line renamed does not name it. -/
theorem Diagnostic.eq_of_names {f : Nat → Nat} {d : Diagnostic} (h : d.mapLine f = d) {n : Nat}
    (hn : d.Names n) : f n = n := by
  rcases hn with hn | ⟨name, hn⟩
  · have hline : d.line?.map f = d.line? := congrArg Diagnostic.line? h
    rw [hn] at hline
    exact Option.some.inj hline
  · have hproblem : d.problem.mapLine f = d.problem := congrArg Diagnostic.problem h
    rw [hn] at hproblem
    exact (Problem.repeatedRoutine.inj hproblem).2

/-- What the tokens and the lexical diagnostics do not name is not named in the compilation. -/
theorem compileTokens_names {f : Nat → Nat} {ts : List Token} {lexical : List Diagnostic}
    (hts : ∀ t ∈ ts, f t.line = t.line) (hlexical : ∀ d ∈ lexical, d.mapLine f = d)
    (callDepth : Nat) : ∀ d ∈ (compileTokens callDepth ts lexical).diagnostics,
      ∀ n, d.Names n → f n = n := by
  have htokens : ts.map (Token.mapLine f) = ts := by
    refine (List.map_congr_left fun t ht => ?_).trans (List.map_id ts)
    exact congrArg (Token.mk t.lexeme) (hts t ht)
  have hlex : lexical.map (Diagnostic.mapLine f) = lexical :=
    (List.map_congr_left hlexical).trans (List.map_id lexical)
  have hsame := compileTokens_mapLine f callDepth ts lexical
  rw [htokens, hlex] at hsame
  have hdiagnostics := (congrArg Compilation.diagnostics hsame).symm.trans (List.map_id _).symm
  intro d hd n hn
  exact Diagnostic.eq_of_names (List.map_inj_left.1 hdiagnostics d hd) hn

theorem inSource_of_names {callDepth : Nat} {d : Diagnostic}
    (hd : d ∈ (compileTokens callDepth (tokenize source).1 (tokenize source).2).diagnostics)
    {n : Nat} (hn : d.Names n) : InSource source n := by
  -- with the lines outside the source renamed, the compilation stays what it is
  have hfix {k : Nat} (hk : InSource source k) : (if InSource source k then k else k + 1) = k :=
    if_pos hk
  have hname := compileTokens_names (f := fun k => if InSource source k then k else k + 1)
    (fun t ht => hfix (inSource_of_mem_tokenize ht)) (fun x hx => ?_) callDepth d hd n hn
  · by_contra hnot
    simp [hnot] at hname
  · obtain ⟨l, k, hl, p, hp, rfl⟩ := mem_tokenize_snd.1 hx
    rw [mapLine_onLine hp]
    exact congrArg (Diagnostic.onLine · p) (hfix (inSource_of_mem_zipIdx hl))

theorem Program.exists_of_names {budget limit : Nat} {p : Program} {d : Diagnostic}
    (hd : d ∈ (p.expand budget limit).diagnostics) {n : Nat} (hn : d.Names n) :
    ∃ x ∈ p.allCommands, x.line = n := by
  suffices hv : ∃ v ∈ p.visits limit, d.Names n → v.2.line = n by
    obtain ⟨v, hv, hline⟩ := hv
    exact ⟨v.2, (mem_visits hv).2, hline hn⟩
  cases herror : d.isError with
  | false =>
    obtain ⟨v, hv, name, -, -, rfl⟩ := expand_warned hd herror
    refine ⟨v, List.mem_of_mem_take hv, ?_⟩
    rintro (hn | ⟨name, hn⟩)
    · exact Option.some.inj hn
    · cases hn
  | true =>
    have hmem := List.mem_filter.2 ⟨hd, herror⟩
    rw [expand_errors] at hmem
    cases hv : (p.visits limit)[budget]? with
    | none =>
      rw [hv] at hmem
      cases hmem
    | some v =>
      rw [hv] at hmem
      cases List.mem_singleton.1 hmem
      refine ⟨v, List.mem_of_getElem? hv, ?_⟩
      rintro (hn | ⟨name, hn⟩)
      · exact Option.some.inj hn
      · cases hn

end Names

/-! ## Commands in order -/

section Sorted

variable {ts us : List Token}

theorem sorted_commands (hts : (ts.map (·.line)).Pairwise (· ≤ ·)) (hus : us.Sublist ts) :
    ((us.filterMap (·.reading.command?)).map (·.line)).Pairwise (· ≤ ·) := by
  have hline {t : Token} {x : Command} (hx : t.reading.command? = some x) : x.line = t.line :=
    (Token.becomes_of_reading (Token.reading_eq_command hx)).2.1
  rw [List.pairwise_map] at hts ⊢
  refine List.pairwise_filterMap.2 ((hts.sublist hus).imp ?_)
  intro t u hle x hx y hy
  rw [hline hx, hline hy]
  exact hle

end Sorted

/-! ## Compilations -/

section Compilations

variable {callDepth : Nat} {source : String} {c : Compilation}

theorem Compilation.standsOn (h : compile callDepth source = .ok c) {x : Command}
    (hx : x ∈ c.program.allCommands) : InSource source.toList x.line ∧
      StandsOn source.toList x.line (Gap (.onLine x.line .unexpectedClose ∈ c.diagnostics))
        x.parts := by
  obtain ⟨-, rfl, -⟩ := compile_eq_ok.1 h
  have hlexical {d : Diagnostic} (hd : d ∈ (tokenize source.toList).2) :
      d ∈ (compileTokens callDepth (tokenize source.toList).1
        (tokenize source.toList).2).diagnostics :=
    List.mem_append_left _ (List.mem_append_left _ hd)
  rw [compileTokens_eq, Program.allCommands_resolve] at hx
  obtain ⟨y, hy, rfl⟩ := List.mem_map.1 hx
  obtain ⟨t, ht, hbecomes⟩ := Program.becomes_of_mem_allCommands hy
  refine ⟨?_, hbecomes.standsOn ht hlexical⟩
  show InSource _ y.line
  rw [hbecomes.2.1]
  exact inSource_of_mem_tokenize ht

/-- A command of an expansion is one of the script, in a chain of routines. -/
theorem Compilation.exists_of_mem_expand {x : Command} (hx : x ∈ c.expand.commands) :
    ∃ y ∈ c.program.allCommands, ∃ chain, x = { y with callers := chain } := by
  obtain ⟨v, hv, -, rfl⟩ := Program.mem_expand_commands (List.mem_reverse.1 hx)
  exact ⟨v.2, (Program.mem_visits hv).2, v.1, rfl⟩

theorem Compilation.standsOn_or (h : compile callDepth source = .ok c) {x : Command}
    (hx : x ∈ c.program.allCommands ∨ x ∈ c.expand.commands) : InSource source.toList x.line ∧
      StandsOn source.toList x.line (Gap (.onLine x.line .unexpectedClose ∈ c.diagnostics))
        x.parts := by
  rcases hx with hx | hx
  · exact standsOn h hx
  · obtain ⟨y, hy, chain, rfl⟩ := exists_of_mem_expand hx
    have hstands := standsOn h hy
    exact hstands

theorem Compilation.placed (h : compile callDepth source = .ok c) : Placed source.toList c where
  stands _ := standsOn_or h
  stands_of_isOk hok x hx := by
    have hbalanced : .onLine x.line .unexpectedClose ∉ c.diagnostics := fun hmem =>
      Diagnostic.isError_eq_false.1 (isError_eq_false hok hmem) rfl
    exact (standsOn_or h hx).2.mono fun _ hgap => hgap.loose hbalanced
  sorted := by
    obtain ⟨-, rfl, -⟩ := compile_eq_ok.1 h
    obtain ⟨bs, hbs⟩ := exists_laid (tokenize source.toList).1
    rw [compileTokens_eq, hbs.program_eq]
    simp only [Program.resolve_eq, List.map_map]
    exact sorted_commands (sorted_tokens source.toList) hbs.tokens_sublist
  sorted_routine r hr := by
    obtain ⟨-, rfl, -⟩ := compile_eq_ok.1 h
    obtain ⟨bs, hbs⟩ := exists_laid (tokenize source.toList).1
    rw [compileTokens_eq, hbs.program_eq] at hr
    simp only [Program.resolve_eq, List.map_map] at hr
    obtain ⟨d, hd, rfl⟩ := List.mem_map.1 hr
    simp only [Function.comp_apply, Routine.resolve, List.map_map]
    exact sorted_commands (sorted_tokens source.toList)
      (hbs.body_sublist (mem_of_mem_firstDefinitions hd))
  names d hd n hn := by
    rcases List.mem_append.1 hd with hd | hd
    · obtain ⟨-, rfl, -⟩ := compile_eq_ok.1 h
      exact inSource_of_names hd hn
    · obtain ⟨x, hx, rfl⟩ := Program.exists_of_names (List.mem_reverse.1 hd) hn
      exact (standsOn h hx).1

end Compilations

end MotionScript
