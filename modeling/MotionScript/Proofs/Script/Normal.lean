import MotionScript.Proofs.Script.Lexical
import MotionScript.Proofs.Script.Lines
import MotionScript.Proofs.Script.MoveGrammar

/-!
# Normal forms of scripts

The tokens of a script, each written on a line of its own, are read back as they are.

* `openParens?`, `Balanced`, `StandsOutside`: how many parentheses a text leaves open, and what
  stands outside all of them.
* `Piece`: a text that the scan of a line keeps whole. `LineScan.Reads` is what the scan keeps to
  while it reads (`LineScan.Reads.push`, `LineScan.Reads.foldl`): its lexemes are pieces and braces.
* `LineScan.foldl_push_pieces`: pieces with semicolons behind them are scanned as those pieces.
* `Lexeme.Sound`: a brace, a piece or a speed keyword with the fields that it takes. The lexemes of
  a line are sound (`sound_of_mem_scanLine`), and a sound lexeme is the only one of its line
  (`scanLine_line`).
* `normalForm`: the tokens of a source on lines of their own. `tokenize_onLines` reads them back.
* **`normalForm_normalizes`**: a script and its normal form are the same program.
-/

namespace MotionScript

/-! ## Parentheses -/

/-- The number of open parentheses after a character, unless it closes one too many. -/
def openAfter? (n : Nat) (c : Char) : Option Nat :=
  if c = '(' then some (n + 1)
  else if c = ')' then if n = 0 then none else some (n - 1)
  else some n

/-- The number of parentheses that a text leaves open, from `n` open ones on. -/
def openParens? (n : Nat) (s : List Char) : Option Nat := s.foldlM openAfter? n

/-- Each parenthesis is closed, and none is closed without being open. -/
def Balanced (s : List Char) : Prop := openParens? 0 s = some 0

/-- A character stands somewhere in the text, and all parentheses before it are closed. -/
def StandsOutside (c : Char) (s : List Char) : Prop :=
  ∃ before after, s = before ++ c :: after ∧ Balanced before

/-- What ends a statement outside parentheses. -/
def marks : List Char := [';', '\x7b', '\x7d']

/-- A text that the scan of a line keeps whole. -/
structure Piece (s : List Char) : Prop where
  ne_nil : s ≠ []
  trimmed : Trimmed s
  balanced : Balanced s
  plain : ∀ c ∈ marks, ¬ StandsOutside c s

section Parentheses

variable {s t : List Char} {n m : Nat}

theorem openParens?_cons (n : Nat) (c : Char) (s : List Char) :
    openParens? n (c :: s) = (openAfter? n c).bind (openParens? · s) :=
  List.foldlM_cons ..

theorem openParens?_append (n : Nat) (s t : List Char) :
    openParens? n (s ++ t) = (openParens? n s).bind (openParens? · t) :=
  List.foldlM_append ..

theorem openAfter?_of_ne {c : Char} (h₁ : c ≠ '(') (h₂ : c ≠ ')') (n : Nat) :
    openAfter? n c = some n := by
  rw [openAfter?, if_neg h₁, if_neg h₂]

theorem openParens?_of_plain (h : ∀ c ∈ s, c ≠ '(' ∧ c ≠ ')') (n : Nat) :
    openParens? n s = some n := by
  induction s with
  | nil => rfl
  | cons c s ih =>
    obtain ⟨⟨h₁, h₂⟩, hs⟩ := List.forall_mem_cons.1 h
    rw [openParens?_cons, openAfter?_of_ne h₁ h₂, Option.bind_some, ih hs]

theorem Blank.openParens? (h : Blank s) (n : Nat) : openParens? n s = some n :=
  openParens?_of_plain (fun c hc => ⟨(h.plain c hc).1, (h.plain c hc).2.1⟩) n

theorem openParens?_padded (h : Padded s t) (n : Nat) : openParens? n s = openParens? n t := by
  obtain ⟨b, e, hb, he, rfl⟩ := h
  rw [openParens?_append, hb.openParens?, Option.bind_some, openParens?_append]
  cases openParens? n t with
  | none => rfl
  | some m => exact he.openParens? m

theorem Balanced.append (hs : Balanced s) (ht : Balanced t) : Balanced (s ++ t) := by
  show openParens? 0 (s ++ t) = some 0
  rw [openParens?_append, hs, Option.bind_some, ht]

theorem StandsOutside.of_padded {c : Char} (hp : Padded s t) (h : StandsOutside c t) :
    StandsOutside c s := by
  obtain ⟨b, e, hb, he, rfl⟩ := hp
  obtain ⟨before, after, rfl, hbefore⟩ := h
  exact ⟨b ++ before, after ++ e, by simp, Balanced.append (hb.openParens? 0) hbefore⟩

end Parentheses

/-! ## The scan of a line -/

namespace LineScan

/-- What a scan keeps to while it reads `s`: the statement in progress is what was read last, and it
could still become a piece. -/
structure Reads (s : List Char) (st : LineScan) : Prop where
  suffix : st.buffer.reverse <:+ s
  depth : openParens? 0 st.buffer.reverse = some st.depth
  plain : ∀ c ∈ marks, ¬ StandsOutside c st.buffer.reverse
  pieces : ∀ t, .statement t ∈ st.lexemes → Piece t ∧ t <:+: s

variable {s : List Char} {st : LineScan}

theorem reads_start : Reads [] start where
  suffix := List.suffix_refl _
  depth := rfl
  plain c _ h := by
    obtain ⟨before, after, hs, -⟩ := h
    simp [start] at hs
  pieces t ht := by cases ht

/-- A character that is kept, with the depth that it leads to. -/
theorem Reads.keep (h : st.Reads s) {c : Char} {m : Nat} (hdepth : openAfter? st.depth c = some m)
    (hplain : st.depth = 0 → c ∉ marks) :
    Reads (s ++ [c]) ⟨m, c :: st.buffer, st.lexemes, st.problems⟩ where
  suffix := by
    obtain ⟨before, rfl⟩ := h.suffix
    exact ⟨before, by simp⟩
  depth := by
    rw [List.reverse_cons, openParens?_append, h.depth, Option.bind_some, openParens?_cons, hdepth]
    rfl
  plain d hd hout := by
    obtain ⟨before, after, hs, hbefore⟩ := hout
    rw [List.reverse_cons] at hs
    rcases List.eq_nil_or_concat after with rfl | ⟨after, e, rfl⟩
    · -- the character that was read last
      obtain ⟨hbuffer, hc⟩ := List.append_inj' hs rfl
      obtain rfl := (List.cons.inj hc).1
      have hzero : some st.depth = some 0 := by
        rw [← h.depth, hbuffer]
        exact hbefore
      exact hplain (Option.some.inj hzero) hd
    · refine h.plain d hd ⟨before, after, ?_, hbefore⟩
      rw [List.concat_eq_append, ← List.cons_append, ← List.append_assoc] at hs
      exact (List.append_inj' hs rfl).1
  pieces t ht := by
    obtain ⟨hpiece, hinfix⟩ := h.pieces t ht
    exact ⟨hpiece, hinfix.trans (List.prefix_append ..).isInfix⟩

theorem Reads.pending_infix (h : st.Reads s) : st.pending <:+: s := by
  obtain ⟨b, e, -, -, hbuffer⟩ := padded_trim st.buffer.reverse
  refine List.IsInfix.trans ⟨b, e, ?_⟩ h.suffix.isInfix
  rw [List.append_assoc]
  exact hbuffer.symm

/-- The statement in progress, if it has any text, is a piece once its parentheses are closed. -/
theorem Reads.piece (h : st.Reads s) (hdepth : st.depth = 0) (hne : st.pending ≠ []) :
    Piece st.pending where
  ne_nil := hne
  trimmed := trimmed_trim _
  balanced := by
    show openParens? 0 (trim st.buffer.reverse) = some 0
    rw [← openParens?_padded (padded_trim st.buffer.reverse), h.depth, hdepth]
  plain c hc hout := h.plain c hc (hout.of_padded (padded_trim st.buffer.reverse))

/-- Outside parentheses a scan can begin a new statement. The one in progress may have become a
lexeme. -/
theorem Reads.restart (h : st.Reads s) (hdepth : st.depth = 0) (c : Char) {ls : List Lexeme}
    (hls : ∀ t, .statement t ∈ ls → .statement t ∈ st.lexemes ∨ t = st.pending ∧ t ≠ [])
    (ps : List Problem) : Reads (s ++ [c]) ⟨st.depth, [], ls, ps⟩ where
  suffix := List.nil_suffix
  depth := by
    rw [hdepth]
    rfl
  plain := reads_start.plain
  pieces t ht := by
    rcases hls t ht with ht | ⟨rfl, hne⟩
    · obtain ⟨hpiece, hinfix⟩ := h.pieces t ht
      exact ⟨hpiece, hinfix.trans (List.prefix_append ..).isInfix⟩
    · exact ⟨h.piece hdepth hne, h.pending_infix.trans (List.prefix_append ..).isInfix⟩

theorem mem_lexemes_flush {t : List Char} (h : .statement t ∈ st.flush.lexemes) :
    .statement t ∈ st.lexemes ∨ t = st.pending ∧ t ≠ [] := by
  simp only [flush, List.isEmpty_iff] at h
  split at h
  · exact .inl h
  · next hne =>
    rcases List.mem_cons.1 h with h | h
    · cases h
      exact .inr ⟨rfl, hne⟩
    · exact .inl h

theorem Reads.push (h : st.Reads s) (c : Char) : (st.push c).Reads (s ++ [c]) := by
  unfold LineScan.push
  split_ifs with hopen hclose hzero hsemicolon hbrace hbrace'
  · refine h.keep (by simp [openAfter?, hopen]) fun _ => ?_
    rw [hopen]
    decide
  · exact h.restart hzero c (fun t ht => .inl ht) _
  · exact h.keep (by simp [openAfter?, hclose, hzero]) fun hd => absurd hd hzero
  · exact h.restart hsemicolon.1 c (fun t ht => mem_lexemes_flush ht) _
  · refine h.restart hbrace.1 c (fun t ht => ?_) _
    exact mem_lexemes_flush (List.mem_of_ne_of_mem (by simp) ht)
  · refine h.restart hbrace'.1 c (fun t ht => ?_) _
    exact mem_lexemes_flush (List.mem_of_ne_of_mem (by simp) ht)
  · refine h.keep (openAfter?_of_ne hopen hclose st.depth) fun hd hc => ?_
    simp only [marks, List.mem_cons, List.not_mem_nil, or_false] at hc
    rcases hc with rfl | rfl | rfl
    · exact hsemicolon ⟨hd, rfl⟩
    · exact hbrace ⟨hd, rfl⟩
    · exact hbrace' ⟨hd, rfl⟩

theorem Reads.foldl (h : st.Reads s) (t : List Char) :
    (t.foldl LineScan.push st).Reads (s ++ t) := by
  induction t generalizing s st with
  | nil => simpa using h
  | cons c t ih => simpa using ih (h.push c)

theorem Reads.finish (h : st.Reads s) {t : List Char} (ht : .statement t ∈ st.finish.lexemes) :
    Piece t ∧ t <:+: s := by
  unfold LineScan.finish at ht
  split_ifs at ht with hdepth
  · rcases mem_lexemes_flush ht with ht | ⟨rfl, hne⟩
    · exact h.pieces t ht
    · exact ⟨h.piece hdepth hne, h.pending_infix⟩
  · exact h.pieces t ht

/-! ## Reading pieces back -/

/-- A text without marks outside parentheses goes into the statement in progress. -/
theorem foldl_push_of_openParens? {n m : Nat} (hm : openParens? n s = some m)
    (hplain : ∀ c ∈ marks, ∀ before after, s = before ++ c :: after →
      openParens? n before ≠ some 0) (buffer : List Char) (ls : List Lexeme) (ps : List Problem) :
    s.foldl push ⟨n, buffer, ls, ps⟩ = ⟨m, s.reverse ++ buffer, ls, ps⟩ := by
  induction s generalizing n buffer with
  | nil =>
    cases hm
    rfl
  | cons c s ih =>
    rw [openParens?_cons] at hm
    obtain ⟨k, hk, hm⟩ := Option.bind_eq_some_iff.1 hm
    have hmark : n = 0 → c ∉ marks := by
      rintro rfl hc
      exact hplain c hc [] s rfl rfl
    have hpush : push ⟨n, buffer, ls, ps⟩ c = ⟨k, c :: buffer, ls, ps⟩ := by
      simp only [marks, List.mem_cons, List.not_mem_nil, or_false] at hmark
      unfold openAfter? at hk
      unfold push
      grind
    rw [List.foldl_cons, hpush, ih hm, List.reverse_cons, List.append_assoc]
    · rfl
    · intro d hd before after hs hzero
      refine hplain d hd (c :: before) after (by rw [hs]; rfl) ?_
      rw [openParens?_cons, hk]
      exact hzero

theorem trim_piece {s : List Char} (h : Piece s) : trim s = s :=
  trim_of_padded ⟨[], [], by simp [Blank], by simp [Blank], by simp⟩ h.trimmed

/-- A piece and the semicolon behind it are scanned as a statement. -/
theorem foldl_push_piece (h : Piece s) (ls : List Lexeme) (ps : List Problem) :
    (s ++ [';']).foldl push ⟨0, [], ls, ps⟩ = ⟨0, [], .statement s :: ls, ps⟩ := by
  have hpending : pending ⟨0, s.reverse, ls, ps⟩ = s := by
    rw [pending, List.reverse_reverse, trim_piece h]
  rw [List.foldl_append, foldl_push_of_openParens? h.balanced
    (fun c hc before after hs hb => h.plain c hc ⟨before, after, hs, hb⟩), List.append_nil]
  simp [push, flush, hpending, h.ne_nil]

theorem foldl_push_pieces {ss : List (List Char)} (h : ∀ s ∈ ss, Piece s) (ls : List Lexeme)
    (ps : List Problem) : (ss.flatMap (· ++ [';'])).foldl push ⟨0, [], ls, ps⟩ =
      ⟨0, [], (ss.map Lexeme.statement).reverse ++ ls, ps⟩ := by
  induction ss generalizing ls with
  | nil => rfl
  | cons s ss ih =>
    obtain ⟨hs, hss⟩ := List.forall_mem_cons.1 h
    rw [List.flatMap_cons, List.foldl_append, foldl_push_piece hs, ih hss]
    simp

end LineScan

/-! ## Comments and line breaks -/

/-- Neither a line break nor a comment is in the text. -/
structure InLine (s : List Char) : Prop where
  unbroken : '\n' ∉ s
  uncommented : ¬ commentMark <:+: s

section Lines

variable {s t : List Char}

theorem InLine.of_infix (h : InLine t) (hs : s <:+: t) : InLine s where
  unbroken hm := h.unbroken (hs.subset hm)
  uncommented hm := h.uncommented (hm.trans hs)

theorem notMem_of_mem_lines {l : List Char} (h : l ∈ lines s) : '\n' ∉ l := by
  induction s generalizing l with
  | nil => cases h
  | cons c s ih =>
    rw [lines_cons] at h
    split at h
    · rcases List.mem_cons.1 h with rfl | h
      · simp
      · exact ih h
    · next hc =>
      cases hs : lines s with
      | nil =>
        rw [hs, consLine, List.mem_singleton] at h
        simp [h, Ne.symm hc]
      | cons q qs =>
        rw [hs, consLine] at h
        rw [hs] at ih
        rcases List.mem_cons.1 h with rfl | h
        · simp [Ne.symm hc, ih (List.mem_cons_self ..)]
        · exact ih (List.mem_cons_of_mem _ h)

theorem inLine_of_mem_lines {l : List Char} (h : l ∈ lines s) : InLine (beforeComment l) where
  unbroken hm := by
    obtain ⟨comment, hl, -⟩ := beforeComment_append l
    refine notMem_of_mem_lines h ?_
    rw [hl]
    exact List.mem_append_left _ hm
  uncommented := beforeComment_plain l

theorem lines_append (hs : '\n' ∉ s) (t : List Char) : lines (s ++ '\n' :: t) = s :: lines t := by
  induction s with
  | nil => rw [List.nil_append, lines_cons, if_pos rfl]
  | cons c s ih =>
    rw [List.mem_cons, not_or] at hs
    obtain ⟨hc, hs⟩ := hs
    rw [List.cons_append, lines_cons, if_neg (Ne.symm hc), ih hs]
    rfl

theorem lines_of_unbroken (hs : '\n' ∉ s) (hne : s ≠ []) : lines s = [s] := by
  induction s with
  | nil => exact absurd rfl hne
  | cons c s ih =>
    rw [List.mem_cons, not_or] at hs
    rw [lines_cons, if_neg (Ne.symm hs.1)]
    by_cases hnil : s = []
    · rw [hnil]
      rfl
    · rw [ih hs.2 hnil]
      rfl

/-- A text without a comment stays what it is in front of a character that begins none. -/
theorem beforeComment_append_cons (hs : ¬ commentMark <:+: s) {c : Char} (hc : c ≠ '/')
    (t : List Char) : beforeComment (s ++ c :: t) = s ++ c :: beforeComment t := by
  induction s with
  | nil => rw [List.nil_append, beforeComment_cons, if_neg fun h => hc h.1, List.nil_append]
  | cons d s ih =>
    have hhead : ¬ (d = '/' ∧ (s ++ c :: t).head? = some '/') := by
      rintro ⟨rfl, hh⟩
      cases s with
      | nil => exact hc (Option.some.inj hh)
      | cons e s =>
        obtain rfl : e = '/' := Option.some.inj hh
        exact hs ⟨[], s, rfl⟩
    rw [List.cons_append, beforeComment_cons, if_neg hhead,
      ih fun h => hs (List.infix_cons_iff.2 (.inr h))]
    rfl

end Lines

/-! ## Sound lexemes -/

/-- A lexeme that its own line is read back as. -/
inductive Lexeme.Sound : Lexeme → Prop where
  | openBrace : Sound .openBrace
  | closeBrace : Sound .closeBrace
  | statement {s : List Char} : Piece s → InLine s → s ≠ speedKeyword → Sound (.statement s)
  /-- The fields would be taken again. -/
  | speed {fields : List (List Char)} : (∀ f ∈ fields, Piece f ∧ InLine f) →
    takeFields (fields.map Lexeme.statement) = (fields, []) → Sound (speedStatement fields)

/-- A lexeme as a line of a script. -/
def Lexeme.line : Lexeme → List Char
  | statement s => s ++ [';']
  | openBrace => ['\x7b']
  | closeBrace => ['\x7d']

/-- Lexemes, each on a line of its own. -/
def onLines (ls : List Lexeme) : List Char := ls.flatMap fun l => l.line ++ ['\n']

section Sound

theorem takeFields_append (ts : List Lexeme) :
    (takeFields ts).1.map Lexeme.statement ++ (takeFields ts).2 = ts := by
  fun_cases takeFields ts <;> rfl

theorem takeFields_take (ts : List Lexeme) :
    takeFields ((takeFields ts).1.map Lexeme.statement) = ((takeFields ts).1, []) := by
  fun_cases takeFields ts <;> simp_all [takeFields]

theorem sound_of_mem_joinSpeeds {ts : List Lexeme}
    (h : ∀ s, .statement s ∈ ts → Piece s ∧ InLine s) : ∀ l ∈ joinSpeeds ts, l.Sound := by
  induction hn : ts.length using Nat.strongRecOn generalizing ts with
  | _ n ih =>
    cases ts with
    | nil => simp
    | cons t ts =>
      subst hn
      rw [joinSpeeds_cons]
      split
      · have hlt : (takeFields ts).2.length < (t :: ts).length :=
          Nat.lt_succ_of_le (length_takeFields_le ts)
        have hmem : ∀ s, (.statement s ∈ (takeFields ts).1.map Lexeme.statement ++
            (takeFields ts).2) → Piece s ∧ InLine s := by
          rw [takeFields_append]
          exact fun s hs => h s (List.mem_cons_of_mem _ hs)
        refine List.forall_mem_cons.2 ⟨.speed (fun f hf => ?_) (takeFields_take ts), ?_⟩
        · exact hmem f (List.mem_append_left _ (List.mem_map_of_mem hf))
        · exact ih _ hlt (fun s hs => hmem s (List.mem_append_right _ hs)) rfl
      · next hne =>
        refine List.forall_mem_cons.2 ⟨?_, ?_⟩
        · cases t with
          | openBrace => exact .openBrace
          | closeBrace => exact .closeBrace
          | statement s =>
            obtain ⟨hs, hl⟩ := h s (List.mem_cons_self ..)
            exact .statement hs hl fun heq => hne (congrArg _ heq)
        · exact ih _ (Nat.lt_succ_self _) (fun s hs => h s (List.mem_cons_of_mem _ hs)) rfl

/-- The statements of a line, before the fields of speeds are joined, are pieces of it. -/
theorem piece_of_mem_scan {s t : List Char} (h : .statement t ∈
    ((trim (beforeComment s)).foldl LineScan.push .start).finish.lexemes.reverse) :
    Piece t ∧ t <:+: beforeComment s := by
  have hreads := LineScan.reads_start.foldl (trim (beforeComment s))
  obtain ⟨hpiece, hinfix⟩ := hreads.finish (List.mem_reverse.1 h)
  obtain ⟨b, e, -, -, hpad⟩ := padded_trim (beforeComment s)
  refine ⟨hpiece, hinfix.trans ⟨b, e, ?_⟩⟩
  rw [List.nil_append, List.append_assoc]
  exact hpad.symm

theorem sound_of_mem_scanLine {s : List Char} (hs : InLine (beforeComment s)) {l : Lexeme}
    (h : l ∈ (scanLine s).1) : l.Sound :=
  sound_of_mem_joinSpeeds
    (fun _ ht => (piece_of_mem_scan ht).imp_right fun hinfix => hs.of_infix hinfix) l h

theorem sound_of_mem_tokenize {source : List Char} {t : Token} (h : t ∈ (tokenize source).1) :
    t.lexeme.Sound := by
  obtain ⟨l, hl, ht⟩ := exists_line_of_mem_tokenize h
  exact sound_of_mem_scanLine (inLine_of_mem_lines (List.fst_mem_of_mem_zipIdx hl)) ht

end Sound

/-! ## Reading lexemes back -/

section ReadBack

variable {ss : List (List Char)}

theorem beforeComment_pieces (h : ∀ s ∈ ss, InLine s) :
    beforeComment (ss.flatMap (· ++ [';'])) = ss.flatMap (· ++ [';']) := by
  induction ss with
  | nil => rfl
  | cons s ss ih =>
    obtain ⟨hs, hss⟩ := List.forall_mem_cons.1 h
    rw [List.flatMap_cons, List.append_assoc, List.singleton_append,
      beforeComment_append_cons hs.uncommented (by decide), ih hss]

theorem trimmed_pieces (h : ∀ s ∈ ss, Piece s) : Trimmed (ss.flatMap (· ++ [';'])) where
  head c hc := by
    cases ss with
    | nil => cases hc
    | cons s ss =>
      have hs := h s (List.mem_cons_self ..)
      rw [List.flatMap_cons, List.append_assoc, List.head?_append_of_ne_nil _ hs.ne_nil] at hc
      exact hs.trimmed.head c hc
  last c hc := by
    rcases List.eq_nil_or_concat ss with rfl | ⟨ss, s, rfl⟩
    · cases hc
    · simp at hc
      rw [← hc]
      rfl

/-- Pieces with semicolons behind them are read as those statements. -/
theorem scanLine_pieces (h : ∀ s ∈ ss, Piece s ∧ InLine s) :
    scanLine (ss.flatMap (· ++ [';'])) = (joinSpeeds (ss.map Lexeme.statement), []) := by
  have htrim : trim (ss.flatMap (· ++ [';'])) = ss.flatMap (· ++ [';']) :=
    trim_eq_iff.2 ⟨⟨[], [], by simp [Blank], by simp [Blank], by simp⟩,
      trimmed_pieces fun s hs => (h s hs).1⟩
  have hscan := LineScan.foldl_push_pieces (fun s hs => (h s hs).1) [] []
  rw [scanLine, beforeComment_pieces fun s hs => (h s hs).2, htrim]
  simp only [LineScan.start, hscan]
  simp [LineScan.finish, LineScan.flush, LineScan.pending]

theorem piece_speedKeyword : Piece speedKeyword where
  ne_nil := by decide
  trimmed := trimmed_of_forall (by simp [speedKeyword, isBlank])
  balanced := openParens?_of_plain (by simp [speedKeyword]) 0
  plain c hc hout := by
    obtain ⟨before, after, hs, -⟩ := hout
    have hmem : c ∈ speedKeyword := by
      rw [hs]
      simp
    simp only [marks, List.mem_cons, List.not_mem_nil, or_false] at hc
    rcases hc with rfl | rfl | rfl <;> exact absurd hmem (by decide)

theorem inLine_speedKeyword : InLine speedKeyword where
  unbroken := by decide
  uncommented := by decide

theorem line_speedStatement (fields : List (List Char)) :
    (speedStatement fields).line = (speedKeyword :: fields).flatMap (· ++ [';']) := by
  have hfields : ∀ s : List Char,
      s ++ fields.flatMap (';' :: ·) ++ [';'] = (s :: fields).flatMap (· ++ [';']) := by
    induction fields with
    | nil => simp
    | cons f fields ih =>
      intro s
      have hf := ih f
      simp only [List.flatMap_cons, List.append_assoc, List.cons_append, List.nil_append] at hf ⊢
      rw [hf]
  exact hfields speedKeyword

theorem scanLine_line {l : Lexeme} (h : l.Sound) : scanLine l.line = ([l], []) := by
  cases h with
  | openBrace => decide +kernel
  | closeBrace => decide +kernel
  | @statement s hs hl hne =>
    have hpiece : ∀ t ∈ [s], Piece t ∧ InLine t := by simp [hs, hl]
    have hscan := scanLine_pieces hpiece
    simpa [Lexeme.line, joinSpeeds_cons, hne] using hscan
  | @speed fields hfields htake =>
    rw [line_speedStatement, scanLine_pieces, List.map_cons, joinSpeeds_cons, if_pos rfl, htake,
      joinSpeeds_nil]
    exact List.forall_mem_cons.2 ⟨⟨piece_speedKeyword, inLine_speedKeyword⟩, hfields⟩

theorem unbroken_line {l : Lexeme} (h : l.Sound) : '\n' ∉ l.line := by
  cases h with
  | openBrace => decide
  | closeBrace => decide
  | statement hs hl hne => simp [Lexeme.line, hl.unbroken]
  | speed hfields htake =>
    rw [line_speedStatement, List.mem_flatMap]
    rintro ⟨f, hf, hm⟩
    rcases List.mem_cons.1 hf with rfl | hf
    · revert hm
      decide
    · simp [(hfields f hf).2.unbroken] at hm

theorem lines_onLines {ls : List Lexeme} (h : ∀ l ∈ ls, l.Sound) :
    lines (onLines ls) = ls.map Lexeme.line := by
  induction ls with
  | nil => rfl
  | cons l ls ih =>
    obtain ⟨hl, hls⟩ := List.forall_mem_cons.1 h
    rw [onLines, List.flatMap_cons, List.append_assoc, List.singleton_append,
      lines_append (unbroken_line hl), ← onLines, ih hls, List.map_cons]

/-- Sound lexemes on lines of their own are read back, without a problem. -/
theorem tokenize_onLines {ls : List Lexeme} (h : ∀ l ∈ ls, l.Sound) :
    tokenize (onLines ls) = ((ls.zipIdx 1).map fun r => ⟨r.1, r.2⟩, []) := by
  have hscan : ∀ r ∈ ls.zipIdx 1, scanLine r.1.line = ([r.1], []) := fun r hr =>
    scanLine_line (h r.1 (List.fst_mem_of_mem_zipIdx hr))
  have hzip : (lines (onLines ls)).zipIdx 1 =
      (ls.zipIdx 1).map fun r => (r.1.line, r.2) := by
    rw [lines_onLines h, List.zipIdx_map]
    rfl
  refine Prod.ext ?_ ?_
  · rw [tokenize_fst, hzip, List.flatMap_map, ← List.flatMap_singleton' (List.map _ _),
      List.flatMap_map]
    refine List.flatMap_congr fun r hr => ?_
    rw [lineTokens, hscan r hr]
    rfl
  · rw [tokenize_snd, hzip, List.flatMap_map]
    exact List.flatMap_eq_nil_iff.2 fun r hr => by rw [hscan r hr]; rfl

end ReadBack

/-! ## The statements of a script -/

/-- The form of a statement of a script. -/
structure StatementForm (s : List Char) : Prop where
  ne_nil : s ≠ []
  trimmed : Trimmed s
  balanced : Balanced s
  braces : ¬ StandsOutside '\x7b' s ∧ ¬ StandsOutside '\x7d' s
  /-- Only the fields of a speed have semicolons between them. -/
  semicolon : isSpeedStatement s = false → ¬ StandsOutside ';' s

section Form

variable {s t : List Char} {c : Char} {fields : List (List Char)}

theorem Piece.statementForm (h : Piece s) : StatementForm s where
  ne_nil := h.ne_nil
  trimmed := h.trimmed
  balanced := h.balanced
  braces := ⟨h.plain _ (by decide), h.plain _ (by decide)⟩
  semicolon _ := h.plain _ (by decide)

theorem StandsOutside.mem (h : StandsOutside c s) : c ∈ s := by
  obtain ⟨before, after, rfl, -⟩ := h
  simp

theorem StandsOutside.of_append (hs : Balanced s) (h : StandsOutside c (s ++ t)) :
    StandsOutside c s ∨ StandsOutside c t := by
  obtain ⟨before, after, heq, hbefore⟩ := h
  rcases List.append_eq_append_iff.1 heq with ⟨r, rfl, rfl⟩ | ⟨r, rfl, hr⟩
  · -- it stands in `t`, and what is before it there is balanced by itself
    right
    refine ⟨r, after, rfl, ?_⟩
    have hr : openParens? 0 (s ++ r) = some 0 := hbefore
    rwa [openParens?_append, hs] at hr
  · cases r with
    | nil => exact .inr ⟨[], after, hr.symm, rfl⟩
    | cons d r =>
      obtain ⟨rfl, -⟩ := List.cons.inj hr
      exact .inl ⟨before, r, rfl, hbefore⟩

theorem balanced_fields (h : ∀ f ∈ fields, Piece f) : Balanced (fields.flatMap (';' :: ·)) := by
  induction fields with
  | nil => rfl
  | cons f fields ih =>
    obtain ⟨hf, hfields⟩ := List.forall_mem_cons.1 h
    exact Balanced.append (s := ';' :: f) hf.balanced (ih hfields)

theorem eq_of_standsOutside_fields (h : ∀ f ∈ fields, Piece f) (hc : c ∈ marks)
    (hout : StandsOutside c (fields.flatMap (';' :: ·))) : c = ';' := by
  induction fields with
  | nil => cases hout.mem
  | cons f fields ih =>
    obtain ⟨hf, hfields⟩ := List.forall_mem_cons.1 h
    rcases StandsOutside.of_append (s := [';']) rfl hout with hout | hout
    · exact List.mem_singleton.1 hout.mem
    · rcases hout.of_append hf.balanced with hout | hout
      · exact absurd hout (hf.plain c hc)
      · exact ih hfields hout

theorem speedStatement_form (h : ∀ f ∈ fields, Piece f) :
    StatementForm (speedKeyword ++ fields.flatMap (';' :: ·)) where
  ne_nil := by simp [speedKeyword]
  trimmed := by
    constructor
    · intro c hc
      exact piece_speedKeyword.trimmed.head c hc
    · intro c hc
      rcases List.eq_nil_or_concat fields with rfl | ⟨fields, f, rfl⟩
      · exact piece_speedKeyword.trimmed.last c (by simpa using hc)
      · have hf := h f (by simp)
        refine hf.trimmed.last c ?_
        rw [List.concat_eq_append, List.flatMap_append, List.flatMap_singleton, ← List.append_assoc,
          ← List.singleton_append, ← List.append_assoc,
          List.getLast?_append_of_ne_nil _ hf.ne_nil] at hc
        exact hc
  balanced := piece_speedKeyword.balanced.append (balanced_fields h)
  braces := by
    have hnot : ∀ c ∈ marks, c ≠ ';' →
        ¬ StandsOutside c (speedKeyword ++ fields.flatMap (';' :: ·)) := by
      intro c hc hne hout
      rcases hout.of_append piece_speedKeyword.balanced with hout | hout
      · exact piece_speedKeyword.plain c hc hout
      · exact hne (eq_of_standsOutside_fields h hc hout)
    exact ⟨hnot _ (by decide) (by decide), hnot _ (by decide) (by decide)⟩
  semicolon hspeed := by
    -- with or without fields it is a speed statement
    cases fields with
    | nil => simp [isSpeedStatement] at hspeed
    | cons f fields =>
      have hprefix : speedKeyword ++ [';'] <+: speedKeyword ++ (f :: fields).flatMap (';' :: ·) :=
        ⟨f ++ fields.flatMap (';' :: ·), by simp⟩
      rw [isSpeedStatement, Bool.or_eq_false_iff] at hspeed
      rw [List.isPrefixOf_iff_prefix.2 hprefix] at hspeed
      cases hspeed.2

theorem Lexeme.Sound.statementForm {l : Lexeme} (h : l.Sound) (hs : l = .statement s) :
    StatementForm s := by
  cases h with
  | openBrace => cases hs
  | closeBrace => cases hs
  | statement hpiece _ _ =>
    cases hs
    exact hpiece.statementForm
  | speed hfields _ =>
    obtain rfl := Lexeme.statement.inj hs
    exact speedStatement_form fun f hf => (hfields f hf).1

end Form

/-- A source with each token on a line of its own. -/
def normalForm (source : String) : String :=
  String.ofList (onLines ((tokenize source.toList).1.map (·.lexeme)))

/-- A source and its normal form are the same program. -/
structure Normalizes (source : String) : Prop where
  /-- The tokens are read back in order, each on its line, without a problem. -/
  readBack : tokenize (normalForm source).toList =
    (((tokenize source.toList).1.zipIdx 1).map fun r => ⟨r.1.lexeme, r.2⟩, [])
  statements : ∀ t ∈ (tokenize source.toList).1, ∀ s, t.lexeme = .statement s → StatementForm s
  compiled : ∀ callDepth, (tokenize source.toList).2 = [] →
    source.utf8ByteSize ≤ sourceLimit → (normalForm source).utf8ByteSize ≤ sourceLimit →
    (∀ c, compile callDepth source = .ok c →
      ∃ c', compile callDepth (normalForm source) = .ok c' ∧ c.SameProgram c') ∧
    ∀ e, compile callDepth source = .error e → compile callDepth (normalForm source) = .error e

theorem tokenize_normalForm (source : String) : tokenize (normalForm source).toList =
    (((tokenize source.toList).1.zipIdx 1).map fun r => ⟨r.1.lexeme, r.2⟩, []) := by
  have hsound : ∀ l ∈ (tokenize source.toList).1.map (·.lexeme), l.Sound := by
    intro l hl
    obtain ⟨t, ht, rfl⟩ := List.mem_map.1 hl
    exact sound_of_mem_tokenize ht
  rw [normalForm, String.toList_ofList, tokenize_onLines hsound, List.zipIdx_map, List.map_map]
  rfl

theorem lexemes_normalForm (source : String) :
    (tokenize (normalForm source).toList).1.map (·.lexeme) =
      (tokenize source.toList).1.map (·.lexeme) := by
  rw [tokenize_normalForm, List.map_map]
  calc ((tokenize source.toList).1.zipIdx 1).map (fun r => r.1.lexeme)
      = (((tokenize source.toList).1.zipIdx 1).map Prod.fst).map (·.lexeme) :=
        (List.map_map ..).symm
    _ = (tokenize source.toList).1.map (·.lexeme) := by rw [List.zipIdx_map_fst]

/-- **A script and its normal form are the same program**, whatever stood on its lines. -/
theorem normalForm_normalizes (source : String) : Normalizes source where
  readBack := tokenize_normalForm source
  statements _ ht _ hs := (sound_of_mem_tokenize ht).statementForm hs
  compiled callDepth hlexical hsize hsize' :=
    compile_of_lexemes_eq callDepth hsize hsize' hlexical
      (congrArg Prod.snd (tokenize_normalForm source)) (lexemes_normalForm source)

example : normalForm "SPEED;X;80;Y(1) // up\nSPEED;WAIT;" =
    "SPEED;X;80;\nY(1);\nSPEED;WAIT;\n" := by
  decide +kernel

end MotionScript
