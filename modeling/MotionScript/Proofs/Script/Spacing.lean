import MotionScript.Proofs.Script.Reprint

/-!
# Where the lexemes of a line stand

The lexemes of a line stand in it in order. What is between two of them are semicolons and blanks,
unless a parenthesis was closed too much: what is dropped then may stand between the fields of a
`SPEED`.

* `Follow`, `Spaced`: texts in order, with a gap before each, or between each two.
* `Loose`, `GapOf`, `Gap`: what stands between two lexemes.
* `LineScan.HasRead`: what the scan of a line has read are its lexemes with gaps between them, a
  gap, and the statement in progress. `LineScan.HasRead.push` is one character, and
  `LineScan.HasRead.foldl` all.
* `follow_scan`: the lexemes of a line, before the fields of speeds are joined.
* **`spaced_of_mem_scanLine`**: each statement of a line stands in it before the comment, a speed
  field by field.
-/

namespace MotionScript

/-- The texts stand in order, with a gap before each. -/
inductive Follow (Gap : List Char → Prop) : List (List Char) → List Char → Prop where
  | nil : Follow Gap [] []
  | cons {gap t s : List Char} {ts : List (List Char)} :
    Gap gap → Follow Gap ts s → Follow Gap (t :: ts) (gap ++ (t ++ s))

/-- The texts stand in order, with a gap between each two. -/
def Spaced (Gap : List Char → Prop) : List (List Char) → List Char → Prop
  | [], s => s = []
  | t :: ts, s => ∃ rest, s = t ++ rest ∧ Follow Gap ts rest

/-- Nothing but semicolons and blanks. -/
def Loose (s : List Char) : Prop := ∀ c ∈ s, c = ';' ∨ isBlank c

/-- What stands between two lexemes of a line: texts that were dropped, each with the parenthesis
that closes one too many behind it, and then nothing but semicolons and blanks. -/
structure GapOf (dropped : List (List Char)) (s : List Char) : Prop where
  balanced : ∀ t ∈ dropped, Balanced t
  loose : ∃ loose, s = dropped.flatMap (· ++ [')']) ++ loose ∧ Loose loose

/-- A gap between two lexemes, where a text was dropped only if `unbalanced` holds. -/
def Gap (unbalanced : Prop) (s : List Char) : Prop :=
  ∃ dropped, GapOf dropped s ∧ (dropped ≠ [] → unbalanced)

/-! ## Texts in order -/

section Follow

variable {P Q : List Char → Prop} {ts us : List (List Char)} {s t u : List Char}

theorem Follow.mono (h : Follow P ts s) (hPQ : ∀ s, P s → Q s) : Follow Q ts s := by
  induction h with
  | nil => exact .nil
  | cons hgap _ ih => exact .cons (hPQ _ hgap) ih

theorem Follow.append (h : Follow P ts s) (h' : Follow P us t) : Follow P (ts ++ us) (s ++ t) := by
  induction h with
  | nil => exact h'
  | @cons gap u s ts hgap _ ih =>
    rw [List.append_assoc, List.append_assoc]
    exact .cons hgap ih

theorem Follow.concat (h : Follow P ts s) {gap : List Char} (hgap : P gap) (t : List Char) :
    Follow P (ts ++ [t]) (s ++ (gap ++ t)) := by
  simpa using h.append (.cons (t := t) hgap .nil)

theorem Follow.of_append (h : Follow P (ts ++ us) u) :
    ∃ s t, u = s ++ t ∧ Follow P ts s ∧ Follow P us t := by
  induction ts generalizing u with
  | nil => exact ⟨[], u, rfl, .nil, h⟩
  | cons t ts ih =>
    cases h with
    | @cons gap _ rest _ hgap hrest =>
      obtain ⟨s, t', rfl, hts, hus⟩ := ih hrest
      exact ⟨gap ++ (t ++ s), t', by simp, .cons hgap hts, hus⟩

/-- Some of the texts in a row, and the gaps between them, are a part of the whole. -/
theorem Follow.spaced_of_infix (h : Follow P us u) (hi : ts <:+: us) :
    ∃ s, Spaced P ts s ∧ s <:+: u := by
  obtain ⟨before, after, rfl⟩ := hi
  obtain ⟨s, t, rfl, h, -⟩ := h.of_append
  obtain ⟨s, s', rfl, -, h⟩ := h.of_append
  cases h with
  | nil => exact ⟨[], rfl, List.nil_infix⟩
  | @cons gap t' rest ts hgap hrest =>
    exact ⟨t' ++ rest, ⟨rest, rfl, hrest⟩, s ++ gap, t, by simp⟩

theorem spaced_singleton (P : List Char → Prop) (s : List Char) : Spaced P [s] s :=
  ⟨[], (List.append_nil s).symm, .nil⟩

theorem Spaced.mono (h : Spaced P ts s) (hPQ : ∀ s, P s → Q s) : Spaced Q ts s := by
  cases ts with
  | nil => exact h
  | cons t ts =>
    obtain ⟨rest, hs, hrest⟩ := h
    exact ⟨rest, hs, hrest.mono hPQ⟩

theorem spaced_splitOn (hP : P [';']) (s : List Char) : Spaced P (splitOn ';' s) s := by
  induction s with
  | nil => exact spaced_singleton P []
  | cons c s ih =>
    rw [splitOn_cons]
    cases hs : splitOn ';' s with
    | nil => exact absurd hs (splitOn_ne_nil ';' s)
    | cons p ps =>
      rw [hs] at ih
      obtain ⟨rest, rfl, hrest⟩ := ih
      split
      · next hc =>
        rw [hc]
        exact ⟨[';'] ++ (p ++ rest), rfl, .cons hP hrest⟩
      · exact ⟨rest, rfl, hrest⟩

theorem Follow.splitOn (h : Follow P ts s) (hP : P [';']) :
    Follow P (ts.flatMap (splitOn ';')) s := by
  induction h with
  | nil => exact .nil
  | @cons gap t s ts hgap _ ih =>
    have hparts := spaced_splitOn hP t
    rw [List.flatMap_cons]
    cases ht : MotionScript.splitOn ';' t with
    | nil => exact absurd ht (splitOn_ne_nil ';' t)
    | cons p ps =>
      rw [ht] at hparts
      obtain ⟨rest, rfl, hrest⟩ := hparts
      rw [List.append_assoc]
      exact .cons hgap (hrest.append ih)

theorem Spaced.splitOn (h : Spaced P ts s) (hP : P [';']) :
    Spaced P (ts.flatMap (splitOn ';')) s := by
  cases ts with
  | nil => exact h
  | cons t ts =>
    obtain ⟨rest, rfl, hrest⟩ := h
    have hparts := spaced_splitOn hP t
    rw [List.flatMap_cons]
    cases ht : MotionScript.splitOn ';' t with
    | nil => exact absurd ht (splitOn_ne_nil ';' t)
    | cons p ps =>
      rw [ht] at hparts
      obtain ⟨rest', rfl, hrest'⟩ := hparts
      exact ⟨rest' ++ rest, by simp, hrest'.append (hrest.splitOn hP)⟩

end Follow

/-! ## Gaps -/

section Gaps

variable {unbalanced : Prop} {s t : List Char}

theorem Blank.loose (h : Blank s) : Loose s := fun c hc => .inr (h c hc)

theorem loose_semicolon : Loose [';'] := fun _ hc => .inl (List.mem_singleton.1 hc)

theorem Loose.append (hs : Loose s) (ht : Loose t) : Loose (s ++ t) := fun c hc =>
  (List.mem_append.1 hc).elim (hs c) (ht c)

theorem Loose.openParens? (h : Loose s) (n : Nat) : openParens? n s = some n := by
  refine openParens?_of_plain (fun c hc => ?_) n
  rcases h c hc with rfl | hblank
  · decide
  · constructor <;> rintro rfl <;> exact absurd hblank (by decide)

theorem Loose.gap (h : Loose s) : Gap unbalanced s :=
  ⟨[], ⟨by simp, s, rfl, h⟩, fun hne => absurd rfl hne⟩

theorem Gap.append_loose (h : Gap unbalanced s) (ht : Loose t) : Gap unbalanced (s ++ t) := by
  obtain ⟨dropped, ⟨hbalanced, loose, rfl, hloose⟩, hu⟩ := h
  exact ⟨dropped, ⟨hbalanced, loose ++ t, List.append_assoc .., hloose.append ht⟩, hu⟩

theorem Gap.mono {unbalanced' : Prop} (h : Gap unbalanced s) (hi : unbalanced → unbalanced') :
    Gap unbalanced' s := by
  obtain ⟨dropped, hgap, hu⟩ := h
  exact ⟨dropped, hgap, fun hne => hi (hu hne)⟩

/-- Without such a parenthesis there are semicolons and blanks only. -/
theorem Gap.loose (h : Gap unbalanced s) (hu : ¬ unbalanced) : Loose s := by
  obtain ⟨dropped, ⟨-, loose, rfl, hloose⟩, hd⟩ := h
  have hnil : dropped = [] := not_not.1 (mt hd hu)
  rwa [hnil]

/-- With a parenthesis that closes one too many, what was read before it is dropped. -/
theorem Gap.drop (h : Gap unbalanced s) (ht : Balanced t) : Gap True (s ++ (t ++ [')'])) := by
  obtain ⟨dropped, ⟨hbalanced, loose, rfl, hloose⟩, -⟩ := h
  have hlast : Balanced (loose ++ t) := Balanced.append (hloose.openParens? 0) ht
  refine ⟨dropped ++ [loose ++ t], ⟨fun u hu => ?_, [], by simp, by simp [Loose]⟩, fun _ => trivial⟩
  rcases List.mem_append.1 hu with hu | hu
  · exact hbalanced u hu
  · rwa [List.mem_singleton.1 hu]

theorem gap_nil : Gap unbalanced [] := Loose.gap (by simp [Loose])

end Gaps

/-! ## The scan of a line -/

namespace LineScan

/-- What a scan has read: its lexemes, a gap and the statement in progress. -/
def HasRead (s : List Char) (st : LineScan) : Prop :=
  ∃ t gap, s = t ++ (gap ++ st.buffer.reverse) ∧
    Follow (Gap (.unexpectedClose ∈ st.problems)) (st.lexemes.reverse.map Lexeme.chars) t ∧
    Gap (.unexpectedClose ∈ st.problems) gap

variable {s : List Char} {st : LineScan}

theorem hasRead_start : HasRead [] start := ⟨[], [], rfl, .nil, gap_nil⟩

theorem HasRead.flush (h : st.HasRead s) : st.flush.HasRead s := by
  obtain ⟨t, gap, rfl, hfollow, hgap⟩ := h
  obtain ⟨b, e, hb, he, hbuffer⟩ := padded_trim st.buffer.reverse
  change st.buffer.reverse = b ++ (st.pending ++ e) at hbuffer
  by_cases hp : st.pending = []
  · refine ⟨t, gap ++ (b ++ e), ?_, ?_, hgap.append_loose (hb.loose.append he.loose)⟩
    · simp [LineScan.flush, hbuffer, hp]
    · simpa [LineScan.flush, hp] using hfollow
  · refine ⟨t ++ ((gap ++ b) ++ st.pending), e, ?_, ?_, he.loose.gap⟩
    · simp [LineScan.flush, hbuffer]
    · have hnext := hfollow.concat (hgap.append_loose hb.loose) st.pending
      simpa [LineScan.flush, hp, Lexeme.chars] using hnext

theorem HasRead.brace (h : st.HasRead s) {b : Lexeme} {c : Char} (hb : b.chars = [c]) :
    (st.brace b).HasRead (s ++ [c]) := by
  obtain ⟨t, gap, rfl, hfollow, hgap⟩ := h.flush
  refine ⟨t ++ (gap ++ [c]), [], by simp [LineScan.brace, LineScan.flush], ?_, gap_nil⟩
  have hnext := hfollow.concat hgap [c]
  simpa [LineScan.brace, hb] using hnext

theorem HasRead.keep (h : st.HasRead s) (c : Char) (depth : Nat) :
    HasRead (s ++ [c]) ⟨depth, c :: st.buffer, st.lexemes, st.problems⟩ := by
  obtain ⟨t, gap, rfl, hfollow, hgap⟩ := h
  exact ⟨t, gap, by simp, hfollow, hgap⟩

theorem HasRead.push (h : st.HasRead s) (hreads : st.Reads s) (c : Char) :
    (st.push c).HasRead (s ++ [c]) := by
  unfold LineScan.push
  split_ifs with hopen hclose hzero hsemicolon hbrace hbrace'
  · exact h.keep c _
  · obtain ⟨t, gap, rfl, hfollow, hgap⟩ := h
    have hbalanced : openParens? 0 st.buffer.reverse = some 0 := by
      rw [hreads.depth, hzero]
    have hdrop := hgap.drop hbalanced
    refine ⟨t, gap ++ (st.buffer.reverse ++ [')']), ?_, ?_, ?_⟩
    · simp [hclose]
    · exact hfollow.mono fun g hg => hg.mono (List.mem_cons_of_mem _)
    · exact hdrop.mono fun _ => List.mem_cons_self
  · exact h.keep c _
  · obtain ⟨t, gap, rfl, hfollow, hgap⟩ := h.flush
    refine ⟨t, gap ++ [';'], ?_, hfollow, hgap.append_loose loose_semicolon⟩
    simp [LineScan.flush, hsemicolon.2]
  · exact h.brace (by rw [hbrace.2]; rfl)
  · exact h.brace (by rw [hbrace'.2]; rfl)
  · exact h.keep c _

theorem HasRead.foldl (h : st.HasRead s) (hreads : st.Reads s) (t : List Char) :
    (t.foldl LineScan.push st).HasRead (s ++ t) := by
  induction t generalizing s st with
  | nil => simpa using h
  | cons c t ih => simpa using ih (h.push hreads c) (hreads.push c)

/-- At the end of a line its lexemes stand in it, whatever is left after them. -/
theorem HasRead.finish (h : st.HasRead s) : ∃ t rest, s = t ++ rest ∧
    Follow (Gap (.unexpectedClose ∈ st.finish.problems))
      (st.finish.lexemes.reverse.map Lexeme.chars) t := by
  unfold LineScan.finish
  split_ifs
  · obtain ⟨t, gap, hs, hfollow, -⟩ := h.flush
    exact ⟨t, _, hs, hfollow⟩
  · obtain ⟨t, gap, hs, hfollow, -⟩ := h
    exact ⟨t, _, hs, hfollow.mono fun g hg => hg.mono (List.mem_cons_of_mem _)⟩

end LineScan

/-! ## The statements of a line -/

section Statements

variable {s u : List Char}

/-- The lexemes of a line, before the fields of speeds are joined. -/
theorem follow_scan (s : List Char) : ∃ t, t <:+: beforeComment s ∧
    Follow (Gap (.unexpectedClose ∈ (scanLine s).2))
      (((trim (beforeComment s)).foldl LineScan.push .start).finish.lexemes.reverse.map
        Lexeme.chars) t := by
  have hread := LineScan.hasRead_start.foldl LineScan.reads_start (trim (beforeComment s))
  obtain ⟨t, rest, ht, hfollow⟩ := hread.finish
  obtain ⟨b, e, -, -, hpad⟩ := padded_trim (beforeComment s)
  rw [List.nil_append] at ht
  refine ⟨t, ⟨b, rest ++ e, ?_⟩, hfollow.mono fun g hg => hg.mono List.mem_reverse.2⟩
  rw [hpad, ht]
  simp

theorem splitOn_append_cons (s t : List Char) :
    splitOn ';' (s ++ ';' :: t) = splitOn ';' s ++ splitOn ';' t := by
  induction s with
  | nil => rfl
  | cons c s ih =>
    rw [List.cons_append, splitOn_cons, splitOn_cons, ih]
    split
    · rfl
    · cases hs : splitOn ';' s with
      | nil => exact absurd hs (splitOn_ne_nil ';' s)
      | cons p ps => rfl

theorem splitOn_fields (s : List Char) (fields : List (List Char)) :
    splitOn ';' (s ++ fields.flatMap fun f => ';' :: f) = (s :: fields).flatMap (splitOn ';') := by
  induction fields generalizing s with
  | nil => simp
  | cons f fields ih =>
    rw [List.flatMap_cons, List.cons_append, splitOn_append_cons, ih, List.flatMap_cons,
      List.flatMap_cons, List.flatMap_cons]

/-- **The fields of a statement stand in its line**, in order and before the comment. -/
theorem spaced_of_mem_scanLine (h : .statement u ∈ (scanLine s).1) : ∃ text,
    text <:+: beforeComment s ∧
      Spaced (Gap (.unexpectedClose ∈ (scanLine s).2)) (splitOn ';' u) text := by
  obtain ⟨t, ht, hfollow⟩ := follow_scan s
  have hsemicolon : Gap (.unexpectedClose ∈ (scanLine s).2) [';'] := loose_semicolon.gap
  rcases mem_joinSpeeds h with hm | ⟨fields, hf, hi⟩
  · refine ⟨u, (piece_of_mem_scan hm).2, spaced_splitOn hsemicolon u⟩
  · obtain ⟨text, hspaced, htext⟩ := hfollow.spaced_of_infix (hi.map Lexeme.chars)
    cases hf
    refine ⟨text, htext.trans ht, ?_⟩
    rw [splitOn_fields]
    have hparts := hspaced.splitOn hsemicolon
    rwa [List.map_map, show Lexeme.chars ∘ Lexeme.statement = id from rfl, List.map_id] at hparts

end Statements

end MotionScript
