import Mathlib.Data.List.Nodup
import MotionScript.Proofs.Script.Accounting

/-!
# Accepted scripts keep within limits

* `Instruction.Within`: an instruction that can be carried out and keeps within the limits.
* `within_of_written`: a statement without errors writes one, unless it is a call.
* `Command.Within`: a command that is written in a source, with such an instruction.
* **`Compilation.within_of_mem_expand`**: unless a compilation has errors, all commands of its
  expansion are of this kind.
-/

namespace MotionScript

/-- An instruction that can be carried out and keeps within the limits. -/
inductive Instruction.Within : Instruction → Prop where
  | movement {ms : List Move} : ms ≠ [] → (∀ m ∈ ms, m.positions ≠ []) →
    (∀ m ∈ ms, ∀ v ∈ m.speeds, speedOk v) → Within (.movement ms)
  | group {ms : List Move} : ms ≠ [] → (∀ m ∈ ms, m.positions ≠ []) →
    (ms.map (·.axis)).Nodup → Within (.group ms)
  | speed (axis : Option Axis) {v : Nat} : speedOk v → Within (.speed axis v)
  | system (w : SystemWord) : Within (.system w)
  | sync {v : Nat} : v ≤ 1 → Within (.sync v)
  | wait : Within .wait
  | detect : Within .detect

/-! ## Rules and limits -/

theorem speedOk_iff {v : Nat} : speedOk v ↔ 10 ≤ v ∧ v ≤ 10000 := by
  rw [speedOk, Bool.and_eq_true, decide_eq_true_eq, decide_eq_true_eq]
  rfl

theorem nodup_of_repeats {seen as : List Axis} (h : repeats seen as = []) :
    as.Nodup ∧ ∀ a ∈ as, a ∉ seen := by
  induction as generalizing seen with
  | nil => simp
  | cons a as ih =>
    rw [repeats] at h
    split at h
    · cases h
    · next ha =>
      obtain ⟨hnodup, hseen⟩ := ih h
      refine ⟨List.nodup_cons.2 ⟨fun hm => hseen a hm List.mem_cons_self, hnodup⟩, ?_⟩
      intro b hb
      rcases List.mem_cons.1 hb with rfl | hb
      · exact ha
      · exact fun hs => hseen b hb (List.mem_cons_of_mem _ hs)

theorem Moves.Written.positions_ne_nil {s : List Char} {ms : List Move} (h : Moves.Written s ms)
    {m : Move} (hm : m ∈ ms) : m.positions ≠ [] := by
  obtain ⟨parts, -, -, hf⟩ := h
  induction hf with
  | nil => cases hm
  | cons hpart _ ih =>
    rcases List.mem_cons.1 hm with rfl | hm
    · obtain ⟨t, -, ⟨-, -, hne⟩⟩ := hpart
      exact hne
    · exact ih hm

/-- An instruction without errors violates no rule whose violations are errors. -/
theorem check_eq_nil {i : Instruction} (h : ∀ p ∈ i.violations, p.severity ≠ .error) {r : Rule}
    (hr : r ∈ rules) (hs : r.severity = .error) : r.check i = [] := by
  refine List.eq_nil_iff_forall_not_mem.2 fun p hp => ?_
  have hmem : p ∈ i.violations := List.mem_flatMap.2 ⟨r, hr, hp⟩
  exact h p hmem ((severity_of_mem_check hr hp).trans hs)

theorem within_of_written {s : List Char} {i : Instruction} (h : i.Written s)
    (hv : ∀ p ∈ i.violations, p.severity ≠ .error) (hcall : i.callee? = none) : i.Within := by
  have hspeed : speedViolations i = [] :=
    check_eq_nil hv (r := ⟨"speed-range", .error, speedViolations⟩) (by simp [rules]) rfl
  have hsignal : signalViolations i = [] :=
    check_eq_nil hv (r := ⟨"set-value", .error, signalViolations⟩) (by simp [rules]) rfl
  have haxis : groupAxisViolations i = [] :=
    check_eq_nil hv (r := ⟨"group-unique-axis", .error, groupAxisViolations⟩) (by simp [rules]) rfl
  cases h with
  | @group s inner ms _ hms =>
    have hrepeats : repeats [] (ms.map (·.axis)) = [] := List.map_eq_nil_iff.1 haxis
    exact .group hms.ne_nil (fun _ => hms.positions_ne_nil) (nodup_of_repeats hrepeats).1
  | @movement s ms hms =>
    refine .movement hms.ne_nil (fun _ => hms.positions_ne_nil) fun m hm v hv => ?_
    have hfilter := List.map_eq_nil_iff.1 (List.flatMap_eq_nil_iff.1 hspeed m hm)
    simpa using List.filter_eq_nil_iff.1 hfilter v hv
  | speed | axisSpeed => exact .speed _ (by simpa [speedViolations] using hspeed)
  | system w => exact .system w
  | sync => exact .sync (by simpa [signalViolations] using hsignal)
  | wait => exact .wait
  | detect => exact .detect
  | call => cases hcall

/-! ## Commands of a script -/

/-- A command that is written in a source and keeps within the limits. -/
structure Command.Within (source : String) (c : Command) : Prop where
  statement : ∃ t ∈ (tokenize source.toList).1, t.lexeme = .statement c.raw.toList
  written : c.instruction.Written c.raw.toList
  within : c.instruction.Within

section Tokens

variable {ts : List Token} {bs : List Block}

theorem Laid.tokens_sublist (h : Laid ts bs) : (bs.filterMap Block.token?).Sublist ts := by
  induction h with
  | nil => exact .slnil
  | token _ _ ih => exact ih.cons_cons _
  | @definition d b c ts bs _ _ _ _ _ ih =>
    exact ((ih.cons c).trans (List.sublist_append_right d.body _)).cons b |>.cons d.header
  | unclosed => exact List.nil_sublist _

theorem Laid.body_sublist (h : Laid ts bs) {d : Definition}
    (hd : d ∈ bs.filterMap Block.definition?) : d.body.Sublist ts := by
  induction h with
  | nil => cases hd
  | token _ _ ih => exact (ih hd).cons _
  | @definition d' b c ts bs _ _ _ _ _ ih =>
    suffices hbody : d.body.Sublist (d'.body ++ c :: ts) from (hbody.cons b).cons d'.header
    rcases List.mem_cons.1 hd with rfl | hd
    · exact List.sublist_append_left ..
    · exact ((ih hd).cons c).trans (List.sublist_append_right d'.body _)
  | @unclosed d' b n _ _ _ =>
    cases List.mem_singleton.1 hd
    exact (List.Sublist.refl d.body).cons b |>.cons d.header

theorem mem_of_mem_firstDefinitions {d : Definition} {ds : List Definition}
    (h : d ∈ firstDefinitions ds) : d ∈ ds := by
  induction ds with
  | nil => cases h
  | cons d' ds ih =>
    rcases List.mem_cons.1 h with rfl | h
    · exact List.mem_cons_self
    · exact List.mem_cons_of_mem _ (ih (List.mem_filter.1 h).1)

theorem Program.reading_of_mem_allCommands {c : Command}
    (hc : c ∈ (Program.scanned ts).1.allCommands) : ∃ t ∈ ts, t.reading = .command c := by
  obtain ⟨bs, hbs⟩ := exists_laid ts
  rw [hbs.program_eq] at hc
  have hread (us : List Token) (hm : c ∈ us.filterMap (·.reading.command?)) :
      ∃ t ∈ us, t.reading = .command c := by
    obtain ⟨t, ht, hc⟩ := List.mem_filterMap.1 hm
    exact ⟨t, ht, Token.reading_eq_command hc⟩
  rcases List.mem_append.1 hc with hc | hc
  · obtain ⟨t, ht, hb⟩ := hread _ hc
    exact ⟨t, hbs.tokens_sublist.subset ht, hb⟩
  · obtain ⟨r, hr, hc⟩ := List.mem_flatMap.1 hc
    obtain ⟨d, hd, rfl⟩ := List.mem_map.1 hr
    obtain ⟨t, ht, hb⟩ := hread d.body hc
    exact ⟨t, (hbs.body_sublist (mem_of_mem_firstDefinitions hd)).subset ht, hb⟩

theorem Program.becomes_of_mem_allCommands {c : Command}
    (hc : c ∈ (Program.scanned ts).1.allCommands) : ∃ t ∈ ts, t.Becomes c := by
  obtain ⟨t, ht, hread⟩ := Program.reading_of_mem_allCommands hc
  exact ⟨t, ht, Token.becomes_of_reading hread⟩

theorem Token.duration_of_reading {t : Token} {c : Command} (h : t.reading = .command c) :
    c.duration = c.instruction.estimate := by
  obtain ⟨lexeme, line⟩ := t
  cases lexeme with
  | openBrace => cases h
  | closeBrace => cases h
  | statement s =>
    simp only [reading] at h
    cases hheader : headerName? s with
    | some name =>
      rw [hheader] at h
      cases h
    | none =>
      rw [hheader] at h
      cases hread : Instruction.read s with
      | error ps =>
        rw [hread] at h
        cases h
      | ok i =>
        rw [hread] at h
        cases h
        rfl

theorem Token.duration_le_of_fits {t : Token} {c : Command} (h : t.reading = .command c)
    (hfits : t.fits = true) : c.duration ≤ word64Max := by
  simpa [fits, h] using hfits

end Tokens

/-- A command of a compilation is that of one of its statements. Unless it is a call, its estimate
is made from it alone and fits its word. -/
theorem Compilation.exists_token {callDepth : Nat} {source : String} {c : Compilation}
    (h : compile callDepth source = .ok c) {x : Command} (hx : x ∈ c.program.allCommands) :
    (∃ t ∈ (tokenize source.toList).1, t.lexeme = .statement x.raw.toList) ∧
      x.instruction.Written x.raw.toList ∧
      (x.instruction.callee? = none →
        x.duration = x.instruction.estimate ∧ x.instruction.estimate ≤ word64Max) := by
  obtain ⟨-, rfl, hfit⟩ := compile_eq_ok.1 h
  rw [compileTokens_eq, Program.allCommands_resolve] at hx
  obtain ⟨y, hy, rfl⟩ := List.mem_map.1 hx
  obtain ⟨t, ht, hread⟩ := Program.reading_of_mem_allCommands hy
  obtain ⟨hlexeme, -, hwritten⟩ := Token.becomes_of_reading hread
  have hduration := Token.duration_of_reading hread
  refine ⟨⟨t, ht, hlexeme⟩, hwritten, fun hcallee => ⟨?_, ?_⟩⟩
  · show y.durationWith _ = _
    rw [Command.durationWith, show y.instruction.callee? = none from hcallee]
    exact hduration
  · simp only [estimatesFit, Bool.and_eq_true, List.all_eq_true] at hfit
    exact hduration ▸ Token.duration_le_of_fits hread (hfit.1 t ht)

theorem severity_ne_error_of_isOk {callDepth : Nat} {ts : List Token} {lexical : List Diagnostic}
    (hok : (compileTokens callDepth ts lexical).isOk) {c : Command}
    (hc : c ∈ (Program.scanned ts).1.allCommands) {p : Problem}
    (hp : p ∈ c.instruction.violations) : p.severity ≠ .error := by
  have hmem : .onLine c.line p ∈ (compileTokens callDepth ts lexical).diagnostics := by
    refine List.mem_append_right _ (List.mem_append_left _ (List.mem_flatMap.2 ⟨c, hc, ?_⟩))
    exact List.mem_map_of_mem (List.mem_append_left _ hp)
  exact Diagnostic.isError_eq_false.1 (Compilation.isError_eq_false hok hmem)

/-- **The commands of a script without errors are within the limits**, also those that are reached
through calls only. -/
theorem Compilation.within_of_mem_expand {callDepth : Nat} {source : String} {c : Compilation}
    (h : compile callDepth source = .ok c) (hok : c.isOk) {x : Command}
    (hx : x ∈ c.expand.commands) : x.Within source := by
  obtain ⟨-, rfl, -⟩ := compile_eq_ok.1 h
  obtain ⟨v, hv, hcall, rfl⟩ := Program.mem_expand_commands (List.mem_reverse.1 hx)
  have hmem := (Program.mem_visits hv).2
  rw [compileTokens_eq, Program.allCommands_resolve] at hmem
  obtain ⟨c, hc, hcv⟩ := List.mem_map.1 hmem
  obtain ⟨t, ht, hlexeme, -, hwritten⟩ := Program.becomes_of_mem_allCommands hc
  rw [← hcv] at hcall ⊢
  exact ⟨⟨t, ht, hlexeme⟩, hwritten,
    within_of_written hwritten (fun p hp => severity_ne_error_of_isOk hok hc hp) hcall⟩

end MotionScript
