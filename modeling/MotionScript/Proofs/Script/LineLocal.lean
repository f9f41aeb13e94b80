import Mathlib.Data.List.Pairwise
import MotionScript.Proofs.Script.Normal

/-!
# Lines are read each for itself

Whatever is left open at the end of a line, a parenthesis, a statement or the fields of a `SPEED`,
is given up there.

* `numbered`: parts that are put together, with the number of its part on everything.
* `lines_append_lines`, `scans_append_break`: a line break ends a line, and changes nothing in it.
* `LineLocal`: what is read in a text does not depend on what follows it, and what is read in a line
  depends on that line alone.
* **`lineLocal`**: all texts are read so.
-/

namespace MotionScript

/-- What ends a line. -/
def lineBreaks : List (List Char) := [['\n'], ['\r', '\n']]

/-- Parts one after the other, with the number of its part on everything. -/
def numbered {α β : Type} (tag : Nat → α → β) (n : Nat) (parts : List (List α)) : List β :=
  (parts.zipIdx n).flatMap fun r => r.1.map (tag r.2)

/-- The scans of the lines of a text. -/
def scans (source : List Char) : List (List Lexeme × List Problem) := (lines source).map scanLine

/-- What is read in a line depends on nothing else in the source. -/
structure LineLocal (source : List Char) : Prop where
  /-- With a line break and further text behind it, the source has the tokens that it has, and then
  those of the further text, as many lines below as come before it. -/
  tokens_append : ∀ br ∈ lineBreaks, ∀ rest, (tokenize (source ++ br ++ rest)).1 =
    (tokenize source).1 ++
      (tokenize rest).1.map (Token.mapLine (· + (lines (source ++ br)).length))
  problems_append : ∀ br ∈ lineBreaks, ∀ rest, (tokenize (source ++ br ++ rest)).2 =
    (tokenize source).2 ++
      (tokenize rest).2.map (Diagnostic.mapLine (· + (lines (source ++ br)).length))
  /-- The tokens at a line are those of the line by itself. -/
  tokens_at : ∀ n, (tokenize source).1.filter (·.line = n + 1) =
    (tokenize ((lines source)[n]?.getD [])).1.map (Token.mapLine (· + n))
  problems_at : ∀ n, (tokenize source).2.filter (·.line? = some (n + 1)) =
    (tokenize ((lines source)[n]?.getD [])).2.map (Diagnostic.mapLine (· + n))
  sorted : ((tokenize source).1.map (·.line)).Pairwise (· ≤ ·)

/-! ## Numbered parts -/

section Numbered

variable {α β : Type} {tag : Nat → α → β} {n : Nat} {parts parts' : List (List α)}

theorem numbered_cons (tag : Nat → α → β) (n : Nat) (part : List α) (parts : List (List α)) :
    numbered tag n (part :: parts) = part.map (tag n) ++ numbered tag (n + 1) parts := by
  rw [numbered, List.zipIdx_cons, List.flatMap_cons]
  rfl

theorem numbered_append (tag : Nat → α → β) (n : Nat) (parts parts' : List (List α)) :
    numbered tag n (parts ++ parts') =
      numbered tag n parts ++ numbered tag (n + parts.length) parts' := by
  rw [numbered, List.zipIdx_append, List.flatMap_append]
  rfl

theorem numbered_append_nil (tag : Nat → α → β) (n : Nat) (parts : List (List α)) :
    numbered tag n (parts ++ [[]]) = numbered tag n parts := by
  rw [numbered_append, numbered_cons]
  simp [numbered]

theorem numbered_shift {f : β → β} {k : Nat}
    (h : ∀ part ∈ parts, ∀ a ∈ part, ∀ n, f (tag n a) = tag (n + k) a) (n : Nat) :
    numbered tag (n + k) parts = (numbered tag n parts).map f := by
  induction parts generalizing n with
  | nil => rfl
  | cons part parts ih =>
    obtain ⟨hpart, hparts⟩ := List.forall_mem_cons.1 h
    rw [numbered_cons, numbered_cons, List.map_append, List.map_map, ← ih hparts,
      Nat.add_right_comm]
    exact congrArg (· ++ _) (List.map_congr_left fun a ha => (hpart a ha n).symm)

theorem mem_numbered {b : β} (hb : b ∈ numbered tag n parts) :
    ∃ k ≥ n, ∃ part ∈ parts, ∃ a ∈ part, b = tag k a := by
  obtain ⟨⟨part, k⟩, hr, hb⟩ := List.mem_flatMap.1 hb
  obtain ⟨a, ha, rfl⟩ := List.mem_map.1 hb
  exact ⟨k, List.le_snd_of_mem_zipIdx hr, part, List.fst_mem_of_mem_zipIdx hr, a, ha, rfl⟩

theorem sorted_numbered {number : β → Nat} (h : ∀ n a, number (tag n a) = n) (n : Nat)
    (parts : List (List α)) : ((numbered tag n parts).map number).Pairwise (· ≤ ·) := by
  induction parts generalizing n with
  | nil => exact .nil
  | cons part parts ih =>
    have hpart : (part.map (tag n)).map number = List.replicate part.length n := by
      rw [List.map_map, ← List.map_const']
      exact List.map_congr_left fun a _ => h n a
    rw [numbered_cons, List.map_append, List.pairwise_append, hpart]
    refine ⟨List.pairwise_replicate_of_refl .., ih (n + 1), fun m hm k hk => ?_⟩
    obtain ⟨b, hb, rfl⟩ := List.mem_map.1 hk
    obtain ⟨k, hk, -, -, a, -, rfl⟩ := mem_numbered hb
    rw [List.eq_of_mem_replicate hm, h]
    omega

theorem filter_numbered {has : β → Bool} {m : Nat} (h : ∀ n a, has (tag n a) = decide (n = m))
    {n k : Nat} (hm : n + k = m) (parts : List (List α)) :
    (numbered tag n parts).filter has = (parts[k]?.getD []).map (tag m) := by
  induction parts generalizing n k with
  | nil => rfl
  | cons part parts ih =>
    rw [numbered_cons, List.filter_append]
    cases k with
    | zero =>
      have hpart : (part.map (tag n)).filter has = part.map (tag m) := by
        obtain rfl : n = m := hm
        refine List.filter_eq_self.2 fun b hb => ?_
        obtain ⟨a, -, rfl⟩ := List.mem_map.1 hb
        simp [h]
      have hrest : (numbered tag (n + 1) parts).filter has = [] := by
        refine List.filter_eq_nil_iff.2 fun b hb => ?_
        obtain ⟨k, hk, -, -, a, -, rfl⟩ := mem_numbered hb
        rw [h, decide_eq_true_eq]
        omega
      rw [hpart, hrest, List.append_nil]
      rfl
    | succ k =>
      have hpart : (part.map (tag n)).filter has = [] := by
        refine List.filter_eq_nil_iff.2 fun b hb => ?_
        obtain ⟨a, -, rfl⟩ := List.mem_map.1 hb
        rw [h, decide_eq_true_eq]
        omega
      have hnext : n + 1 + k = m := by omega
      rw [hpart, List.nil_append, ih hnext]
      rfl

end Numbered

/-! ## Lines -/

section Lines

variable {s t : List Char}

/-- A text has no line break, or it is a line and what follows the line break. -/
theorem unbroken_or_exists_line (s : List Char) :
    '\n' ∉ s ∨ ∃ l t, '\n' ∉ l ∧ s = l ++ '\n' :: t := by
  by_cases hs : '\n' ∈ s
  · obtain ⟨l, t, rfl, hl⟩ := List.eq_append_cons_of_mem hs
    exact .inr ⟨l, t, hl, rfl⟩
  · exact .inl hs

theorem lines_append_lines (s t : List Char) :
    lines (s ++ '\n' :: t) = lines (s ++ ['\n']) ++ lines t := by
  rcases unbroken_or_exists_line s with hs | ⟨l, r, hl, rfl⟩
  · rw [lines_append hs, lines_append hs]
    rfl
  · have ih := lines_append_lines r t
    rw [List.append_assoc, List.append_assoc, List.cons_append, List.cons_append, lines_append hl,
      lines_append hl, ih]
    rfl
termination_by s.length

theorem beforeComment_of_plain (hs : '/' ∉ s) : beforeComment s = s := by
  obtain ⟨comment, hcomment, hempty | hmark⟩ := beforeComment_append s
  · rw [hempty, List.append_nil] at hcomment
    exact hcomment.symm
  · have hslash : '/' ∈ comment := hmark.subset List.mem_cons_self
    exact absurd (hcomment ▸ List.mem_append_right _ hslash) hs

/-- What is written behind a line, with no slash in it, stays behind it or is in its comment. -/
theorem beforeComment_append_plain (ht : '/' ∉ t) (s : List Char) :
    beforeComment (s ++ t) = beforeComment s ++ t ∨ beforeComment (s ++ t) = beforeComment s := by
  induction s with
  | nil => exact .inl (beforeComment_of_plain ht)
  | cons c s ih =>
    have hhead : (s ++ t).head? = some '/' ↔ s.head? = some '/' := by
      cases s with
      | nil =>
        refine iff_of_false (fun h => ?_) nofun
        exact ht (List.mem_of_mem_head? h)
      | cons d s => rfl
    rw [List.cons_append, beforeComment_cons, beforeComment_cons]
    simp only [hhead]
    split_ifs
    · exact .inr rfl
    · exact ih.imp (congrArg (c :: ·)) (congrArg (c :: ·))

theorem trim_append_blank (ht : Blank t) (s : List Char) : trim (s ++ t) = trim s := by
  obtain ⟨b, e, hb, he, hs⟩ := padded_trim s
  refine trim_of_padded ⟨b, e ++ t, hb, fun c hc => ?_, ?_⟩ (trimmed_trim s)
  · exact (List.mem_append.1 hc).elim (he c) (ht c)
  · calc s ++ t = b ++ (trim s ++ e) ++ t := by rw [← hs]
      _ = b ++ (trim s ++ (e ++ t)) := by simp only [List.append_assoc]

theorem scanLine_append_blank (ht : Blank t) (s : List Char) : scanLine (s ++ t) = scanLine s := by
  have hslash : '/' ∉ t := fun h => absurd (ht _ h) (by decide)
  unfold scanLine
  rcases beforeComment_append_plain hslash s with h | h <;> rw [h]
  rw [trim_append_blank ht]

theorem scanLine_nil : scanLine [] = ([], []) := by
  show (joinSpeeds [], []) = _
  rw [joinSpeeds_nil]

theorem lineBreak_eq {br : List Char} (h : br ∈ lineBreaks) :
    ∃ e, Blank e ∧ '\n' ∉ e ∧ br = e ++ ['\n'] := by
  simp only [lineBreaks, List.mem_cons, List.not_mem_nil, or_false] at h
  rcases h with rfl | rfl
  · exact ⟨[], by simp [Blank], by simp, rfl⟩
  · refine ⟨['\r'], fun c hc => ?_, by decide, rfl⟩
    rw [List.mem_singleton.1 hc]
    rfl

/-- A line break behind a text ends its last line, or an empty one more. -/
theorem scans_append_break {br : List Char} (hbr : br ∈ lineBreaks) (s : List Char) :
    scans (s ++ br) = scans s ∨ scans (s ++ br) = scans s ++ [([], [])] := by
  obtain ⟨e, he, hunbroken, rfl⟩ := lineBreak_eq hbr
  rcases unbroken_or_exists_line s with hs | ⟨l, t, hl, rfl⟩
  · have hline : scans (s ++ (e ++ ['\n'])) = [scanLine s] := by
      have hse : '\n' ∉ s ++ e := by simp [hs, hunbroken]
      rw [scans, ← List.append_assoc, lines_append hse, List.map_cons, scanLine_append_blank he]
      rfl
    by_cases hne : s = []
    · subst hne
      rw [hline, scanLine_nil]
      exact .inr rfl
    · rw [hline, scans, lines_of_unbroken hs hne]
      exact .inl rfl
  · have hfirst (r : List Char) : scans (l ++ '\n' :: r) = scanLine l :: scans r := by
      rw [scans, lines_append hl, List.map_cons]
      rfl
    rw [List.append_assoc, List.cons_append, hfirst, hfirst]
    exact (scans_append_break hbr t).imp (congrArg _) (congrArg _)
termination_by s.length

theorem lines_append_break {br : List Char} (hbr : br ∈ lineBreaks) (s t : List Char) :
    lines (s ++ br ++ t) = lines (s ++ br) ++ lines t := by
  obtain ⟨e, -, -, rfl⟩ := lineBreak_eq hbr
  have hlast (r : List Char) : s ++ (e ++ ['\n']) ++ r = (s ++ e) ++ '\n' :: r := by simp
  rw [hlast, lines_append_lines, ← hlast [], List.append_nil]

end Lines

/-! ## Sources -/

section Sources

theorem tokens_eq (source : List Char) : (tokenize source).1 =
    numbered (fun n l => ⟨l, n⟩) 1 ((scans source).map Prod.fst) := by
  rw [tokenize_fst, numbered, scans, List.map_map, List.zipIdx_map, List.flatMap_map]
  rfl

theorem problems_eq (source : List Char) : (tokenize source).2 =
    numbered Diagnostic.onLine 1 ((scans source).map Prod.snd) := by
  rw [tokenize_snd, numbered, scans, List.map_map, List.zipIdx_map, List.flatMap_map]
  rfl

theorem sorted_tokens (source : List Char) :
    ((tokenize source).1.map (·.line)).Pairwise (· ≤ ·) := by
  rw [tokens_eq]
  exact sorted_numbered (fun _ _ => rfl) 1 _

variable {α β : Type} {tag : Nat → α → β} {part : List Lexeme × List Problem → List α}

theorem scans_append_lines {br : List Char} (hbr : br ∈ lineBreaks) (s t : List Char) :
    scans (s ++ br ++ t) = scans (s ++ br) ++ scans t := by
  rw [scans, lines_append_break hbr, List.map_append]
  rfl

/-- What is read before a line break, and then what is read after it. -/
theorem numbered_append_break (hpart : part ([], []) = []) {br : List Char}
    (hbr : br ∈ lineBreaks) (s t : List Char) :
    numbered tag 1 ((scans (s ++ br ++ t)).map part) = numbered tag 1 ((scans s).map part) ++
      numbered tag (1 + (lines (s ++ br)).length) ((scans t).map part) := by
  have hbreak : numbered tag 1 ((scans (s ++ br)).map part) =
      numbered tag 1 ((scans s).map part) := by
    rcases scans_append_break hbr s with h | h <;> rw [h]
    rw [List.map_append, List.map_singleton, hpart, numbered_append_nil]
  have hlength : (scans (s ++ br)).length = (lines (s ++ br)).length := List.length_map _
  rw [scans_append_lines hbr, List.map_append, numbered_append, hbreak, List.length_map, hlength]

theorem numbered_line (hpart : part ([], []) = []) {l : List Char} (hl : '\n' ∉ l) :
    numbered tag 1 ((scans l).map part) = (part (scanLine l)).map (tag 1) := by
  by_cases hne : l = []
  · subst hne
    rw [scanLine_nil, hpart]
    rfl
  · rw [scans, lines_of_unbroken hl hne, List.map_singleton, List.map_singleton, numbered_cons]
    exact List.append_nil _

theorem filter_numbered_scans (hpart : part ([], []) = []) {n : Nat} {has : β → Bool}
    (h : ∀ k a, has (tag k a) = decide (k = n + 1)) (source : List Char) :
    (numbered tag 1 ((scans source).map part)).filter has =
      (part (scanLine ((lines source)[n]?.getD []))).map (tag (n + 1)) := by
  have hscan : ((scans source).map part)[n]?.getD [] =
      part (scanLine ((lines source)[n]?.getD [])) := by
    rw [scans, List.map_map, List.getElem?_map]
    cases (lines source)[n]? with
    | none => rw [Option.getD_none, scanLine_nil, hpart]; rfl
    | some l => rfl
  rw [filter_numbered h (Nat.add_comm 1 n), hscan]

theorem unbroken_getD_lines (source : List Char) (n : Nat) :
    '\n' ∉ (lines source)[n]?.getD [] := by
  cases hl : (lines source)[n]? with
  | none => simp
  | some l => exact notMem_of_mem_lines (List.mem_of_getElem? hl)

theorem mapLine_onLine {l : List Char} {p : Problem} (hp : p ∈ (scanLine l).2) (f : Nat → Nat)
    (n : Nat) : (Diagnostic.onLine n p).mapLine f = .onLine (f n) p := by
  have hunbalanced := unbalanced_of_mem_scanLine hp
  cases p <;> first | rfl | cases hunbalanced

theorem mapLine_problems {ps : List Problem} (source : List Char)
    (hps : ps ∈ (scans source).map Prod.snd) {p : Problem} (hp : p ∈ ps) (f : Nat → Nat)
    (n : Nat) : (Diagnostic.onLine n p).mapLine f = .onLine (f n) p := by
  obtain ⟨r, hr, rfl⟩ := List.mem_map.1 hps
  obtain ⟨l, -, rfl⟩ := List.mem_map.1 hr
  exact mapLine_onLine hp f n

/-- **Lines are read each for itself.** -/
theorem lineLocal (source : List Char) : LineLocal source where
  tokens_append br hbr rest := by
    have hshift (k : Nat) : numbered (fun n l => (⟨l, n⟩ : Token)) (1 + k)
        ((scans rest).map Prod.fst) = (tokenize rest).1.map (Token.mapLine (· + k)) := by
      rw [tokens_eq]
      refine numbered_shift ?_ 1
      exact fun _ _ _ _ _ => rfl
    rw [tokens_eq, numbered_append_break rfl hbr, hshift, ← tokens_eq]
  problems_append br hbr rest := by
    have hshift (k : Nat) : numbered Diagnostic.onLine (1 + k) ((scans rest).map Prod.snd) =
        (tokenize rest).2.map (Diagnostic.mapLine (· + k)) := by
      rw [problems_eq]
      exact numbered_shift (fun ps hps p hp n => mapLine_problems rest hps hp _ n) 1
    rw [problems_eq, numbered_append_break rfl hbr, hshift, ← problems_eq]
  tokens_at n := by
    rw [tokens_eq, tokens_eq, filter_numbered_scans rfl fun _ _ => rfl,
      numbered_line rfl (unbroken_getD_lines source n), List.map_map, Nat.add_comm n 1]
    rfl
  problems_at n := by
    have hline : ∀ k p, decide ((Diagnostic.onLine k p).line? = some (n + 1)) =
        decide (k = n + 1) := by simp [Diagnostic.onLine]
    rw [problems_eq, problems_eq, filter_numbered_scans rfl hline,
      numbered_line rfl (unbroken_getD_lines source n), List.map_map, Nat.add_comm n 1]
    exact List.map_congr_left fun p hp => (mapLine_onLine hp (· + n) 1).symm
  sorted := sorted_tokens source

end Sources

end MotionScript
