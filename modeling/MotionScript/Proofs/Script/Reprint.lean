import Mathlib.Data.String.Basic
import Mathlib.Tactic.Ring
import MotionScript.Proofs.Script.MoveText

/-!
# Printing moves and compiling them again

* `Instruction.Written.length_printed_le`: nothing that is written for some moves is shorter than
  the text that they are printed as.
* `infix_of_mem_tokenize`: a statement other than a speed stands in its source as it is, so that the
  printed text of a command is no larger than the source (`Compilation.printable_of_mem`).
* **`printed_moves_compile`**: moves are compiled from the text that they are printed as, and those
  of every compilation come back from being printed.
-/

namespace MotionScript

/-! ## Printed texts are short -/

theorem lt_pow_of_isDigit {s : List Char} (h : ∀ c ∈ s, c.isDigit) (m : Nat) :
    Nat.ofDigitChars 10 s m < 10 ^ s.length * (m + 1) := by
  induction s generalizing m with
  | nil => simp [Nat.ofDigitChars]
  | cons c s ih =>
    obtain ⟨hc, hs⟩ := List.forall_mem_cons.1 h
    have hdigit : c.toNat - '0'.toNat ≤ 9 := by
      have := isDigit_iff.1 hc
      show c.toNat - 48 ≤ 9
      omega
    calc Nat.ofDigitChars 10 (c :: s) m
        = Nat.ofDigitChars 10 s (10 * m + (c.toNat - '0'.toNat)) := Nat.ofDigitChars_cons
      _ < 10 ^ s.length * (10 * m + (c.toNat - '0'.toNat) + 1) := ih hs _
      _ ≤ 10 ^ s.length * (10 * (m + 1)) := Nat.mul_le_mul_left _ (by omega)
      _ = 10 ^ (c :: s).length * (m + 1) := by rw [List.length_cons, pow_succ]; ring

theorem Digits.length_toString_le {s : List Char} {n : Nat} (h : Digits s n) :
    (toString n).toList.length ≤ s.length := by
  have hlt : n < 10 ^ s.length := by
    have := lt_pow_of_isDigit h.isDigit 0
    rw [← h.value] at this
    omega
  rw [Nat.toString_eq_repr, Nat.toList_repr]
  exact (Nat.length_toDigits_le_iff (by decide) (List.length_pos_iff.2 h.ne_nil)).2 hlt

theorem Unsigned.length_toString_le {s : List Char} {n : Nat} (h : Unsigned s n) :
    (toString n).toList.length ≤ s.length := by
  cases h with
  | plain hd => exact hd.length_toString_le
  | plus hd =>
    have := hd.length_toString_le
    rw [List.length_cons]
    omega

theorem Signed.length_toString_le {s : List Char} {p : Int} (h : Signed s p) :
    (toString p).toList.length ≤ s.length := by
  cases h with
  | unsigned hu => exact hu.length_toString_le
  | @minus s n hd =>
    cases n with
    | zero => exact Nat.le_add_left 1 s.length
    | succ n =>
      have htext : (toString (-((n + 1 : Nat) : Int))).toList = '-' :: (toString (n + 1)).toList :=
        Parameter.toList_toString_negSucc n
      rw [htext]
      exact Nat.succ_le_succ hd.length_toString_le

theorem Parameter.Written.length_text_le {s : List Char} {q : Parameter} (h : q.Written s) :
    q.text.length ≤ s.length := by
  cases h with
  | target hs => exact hs.length_toString_le
  | delay hu | speed hu => exact Nat.succ_le_succ hu.length_toString_le

/-- The length of a text of parts, counting one separator for each. -/
theorem length_intercalate (sep : Char) {parts : List (List Char)} (hne : parts ≠ []) :
    ([sep].intercalate parts).length + 1 = total (·.length + 1) parts := by
  induction parts with
  | nil => exact absurd rfl hne
  | cons p parts ih =>
    cases parts with
    | nil => simp
    | cons q parts =>
      have hrest := ih (List.cons_ne_nil q parts)
      rw [List.intercalate_cons_cons, total_cons, ← hrest]
      simp only [List.length_append, List.length_singleton]
      omega

theorem Padded.length_le {s t : List Char} (h : Padded s t) : t.length ≤ s.length := by
  obtain ⟨b, e, -, -, rfl⟩ := h
  simp only [List.length_append]
  omega

theorem total_slots_le {parts : List (List Char)} {slots : List (Option Parameter)}
    (h : List.Forall₂ Parameter.Slot parts slots) :
    total (·.text.length + 1) slots.reduceOption ≤ total (·.length + 1) parts := by
  induction h with
  | nil => exact Nat.le_refl _
  | cons hslot _ ih =>
    cases hslot with
    | blank _ =>
      rw [List.reduceOption_cons_of_none, total_cons]
      omega
    | parameter hp hw =>
      have hlength := hw.length_text_le
      have hpad := hp.length_le
      rw [List.reduceOption_cons_of_some, total_cons, total_cons]
      omega

theorem total_parameters (f : Parameter → Nat) (qs : List Parameter) : total f qs =
    total (fun p => f (.target p)) (qs.filterMap Parameter.target?) +
      total (fun d => f (.delay d)) (qs.filterMap Parameter.delay?) +
      total (fun v => f (.speed v)) (qs.filterMap Parameter.speed?) := by
  induction qs with
  | nil => rfl
  | cons q qs ih =>
    cases q with
    | target p =>
      show _ = total _ (p :: _) + total _ (qs.filterMap _) + total _ (qs.filterMap _)
      rw [total_cons, total_cons, ih]
      omega
    | delay d =>
      show _ = total _ (qs.filterMap _) + total _ (d :: _) + total _ (qs.filterMap _)
      rw [total_cons, total_cons, ih]
      omega
    | speed v =>
      show _ = total _ (qs.filterMap _) + total _ (qs.filterMap _) + total _ (v :: _)
      rw [total_cons, total_cons, ih]
      omega

/-- Parameters of the same move have the same sum in any order. -/
theorem total_eq_of_ofParameters_eq (f : Parameter → Nat) {axis : Axis} {qs qs' : List Parameter}
    (h : Move.ofParameters axis qs = Move.ofParameters axis qs') : total f qs = total f qs' := by
  rw [Move.ofParameters, Move.ofParameters, Move.mk.injEq] at h
  rw [total_parameters, total_parameters f qs', h.2.1, h.2.2.1, h.2.2.2]

theorem Move.Written.length_text_le {s : List Char} {m : Move} (h : m.Written s)
    (hm : m.Parallel) : m.text.toList.length ≤ s.length := by
  cases h with
  | @intro axis s inner slots henclosed hseparated hne =>
    obtain ⟨ws, -, rfl⟩ := henclosed
    obtain ⟨parts, hparts, rfl, hslots⟩ := hseparated
    have hsame := total_eq_of_ofParameters_eq (·.text.length + 1)
      (Move.ofParameters_parameters hm)
    have hsome : (Move.ofParameters axis slots.reduceOption).parameters.map Parameter.text ≠ [] :=
      mt List.map_eq_nil_iff.1 (Move.parameters_ne_nil hne)
    have hprinted := length_intercalate ',' hsome
    have hwritten := length_intercalate ',' hparts
    have hle := total_slots_le hslots
    rw [total_map] at hprinted
    rw [Move.toList_text]
    simp only [List.length_cons, List.length_append, List.length_nil]
    omega

theorem Moves.Written.length_text_le {s : List Char} {ms : List Move} (h : Moves.Written s ms)
    (hms : ∀ m ∈ ms, m.Parallel) : (movesText ms).toList.length ≤ s.length := by
  have hne := h.ne_nil
  obtain ⟨parts, hparts, rfl, hf⟩ := h
  have hle : total (·.text.toList.length + 1) ms ≤ total (·.length + 1) parts := by
    clear hparts hne
    induction hf with
    | nil => exact Nat.le_refl _
    | cons hpart _ ih =>
      obtain ⟨hm, hms⟩ := List.forall_mem_cons.1 hms
      obtain ⟨t, hp, hw⟩ := hpart
      have hlength := hw.length_text_le hm
      have hpad := hp.length_le
      have hrest := ih hms
      rw [total_cons, total_cons]
      omega
  have hsome : ms.map (fun m => m.text.toList) ≠ [] := mt List.map_eq_nil_iff.1 hne
  have hprinted := length_intercalate ',' hsome
  have hwritten := length_intercalate ',' hparts
  rw [total_map] at hprinted
  rw [toList_movesText]
  omega

theorem Instruction.Written.length_printed_le {s : List Char} {i : Instruction} {text : String}
    (h : i.Written s) (hi : ∀ m ∈ i.moves, m.Parallel) (ht : i.printed? = some text) :
    text.toList.length ≤ s.length := by
  cases h with
  | @group s inner ms henclosed hms =>
    cases ht
    obtain ⟨ws, -, rfl⟩ := henclosed
    have hle := hms.length_text_le hi
    rw [toList_group]
    simp only [List.length_cons, List.length_append, List.length_nil]
    omega
  | movement hms =>
    cases ht
    exact hms.length_text_le hi
  | _ => cases ht

/-! ## Statements are parts of their source -/

section Parts

variable {s t : List Char}

/-- A lexeme with the fields of speeds joined is one of a line, or the speed of lexemes in a row. -/
theorem mem_joinSpeeds {ts : List Lexeme} {l : Lexeme} (h : l ∈ joinSpeeds ts) :
    l ∈ ts ∨ ∃ fields, l = speedStatement fields ∧
      (speedKeyword :: fields).map Lexeme.statement <:+: ts := by
  induction hn : ts.length using Nat.strongRecOn generalizing ts with
  | _ n ih =>
    cases ts with
    | nil => simp at h
    | cons t ts =>
      subst hn
      have happend := takeFields_append ts
      rw [joinSpeeds_cons] at h
      split at h
      · next hspeed =>
        have hlt : (takeFields ts).2.length < (t :: ts).length :=
          Nat.lt_succ_of_le (length_takeFields_le ts)
        have hrest : (takeFields ts).2 <:+ t :: ts :=
          ⟨t :: (takeFields ts).1.map Lexeme.statement, congrArg (t :: ·) happend⟩
        rcases List.mem_cons.1 h with rfl | h
        · refine .inr ⟨_, rfl, [], (takeFields ts).2, ?_⟩
          rw [hspeed, List.nil_append, List.map_cons, List.cons_append, happend]
        · exact (ih _ hlt h rfl).imp (fun hm => hrest.subset hm)
            fun ⟨fields, hl, hi⟩ => ⟨fields, hl, hi.trans hrest.isInfix⟩
      · rcases List.mem_cons.1 h with rfl | h
        · exact .inl (List.mem_cons_self ..)
        · exact (ih _ (Nat.lt_succ_self _) h rfl).imp (List.mem_cons_of_mem _)
            fun ⟨fields, hl, hi⟩ => ⟨fields, hl, List.infix_cons_iff.2 (.inr hi)⟩

theorem infix_of_mem_lines {l : List Char} (h : l ∈ lines s) : l <:+: s := by
  -- the first line is a prefix, so that it stays one with a character in front
  have key : ∀ s : List Char, (∀ l ∈ (lines s).head?, l <+: s) ∧ ∀ l ∈ lines s, l <:+: s := by
    intro s
    induction s with
    | nil => simp
    | cons c s ih =>
      obtain ⟨hhead, hall⟩ := ih
      rw [lines_cons]
      split
      · refine ⟨by simp, List.forall_mem_cons.2 ⟨List.nil_infix, fun l hl => ?_⟩⟩
        exact List.infix_cons_iff.2 (.inr (hall l hl))
      · cases hs : lines s with
        | nil =>
          have hc : [c] <+: c :: s := List.cons_prefix_cons.2 ⟨rfl, List.nil_prefix⟩
          exact ⟨by simp [consLine], by simpa [consLine] using hc.isInfix⟩
        | cons q qs =>
          rw [hs] at hhead hall
          have hq : c :: q <+: c :: s := List.cons_prefix_cons.2 ⟨rfl, hhead q rfl⟩
          refine ⟨fun l hl => ?_, List.forall_mem_cons.2 ⟨hq.isInfix, fun l hl => ?_⟩⟩
          · cases hl
            exact hq
          · exact List.infix_cons_iff.2 (.inr (hall l (List.mem_cons_of_mem _ hl)))
  exact (key s).2 l h

theorem infix_of_mem_scanLine (h : .statement t ∈ (scanLine s).1) (ht : ¬ speedKeyword <+: t) :
    t <:+: beforeComment s := by
  rcases mem_joinSpeeds h with hm | ⟨fields, hf, -⟩
  · exact (piece_of_mem_scan hm).2
  · cases hf
    exact absurd (List.prefix_append ..) ht

theorem infix_of_mem_tokenize {source : List Char} {x : Token} (hx : x ∈ (tokenize source).1)
    (hs : x.lexeme = .statement s) (hspeed : ¬ speedKeyword <+: s) : s <:+: source := by
  obtain ⟨l, hl, hmem⟩ := exists_line_of_mem_tokenize hx
  obtain ⟨comment, hline, -⟩ := beforeComment_append l
  have hbefore : beforeComment l <:+: l := ⟨[], comment, hline.symm⟩
  have hstatement : s <:+: beforeComment l := infix_of_mem_scanLine (hs ▸ hmem) hspeed
  exact (hstatement.trans hbefore).trans (infix_of_mem_lines (List.fst_mem_of_mem_zipIdx hl))

end Parts

/-! ## Sizes in bytes -/

theorem length_le_utf8Len (s : List Char) : s.length ≤ String.utf8Len s := by
  induction s with
  | nil => exact Nat.zero_le _
  | cons c s ih =>
    have hc := c.utf8Size_pos
    rw [String.utf8Len_cons, List.length_cons]
    omega

theorem utf8Size_of_isMoveChar {c : Char} (h : IsMoveChar c) : c.utf8Size = 1 := by
  rcases h with (h | rfl | rfl) | h
  · have hdigit := isDigit_iff.1 h
    refine Char.utf8Size_eq_one_iff.2 (UInt32.le_iff_toNat_le.2 ?_)
    show c.toNat ≤ 127
    omega
  · rfl
  · rfl
  · simp only [moveLetters, List.mem_cons, List.not_mem_nil, or_false] at h
    rcases h with rfl | rfl | rfl | rfl | rfl | rfl | rfl | rfl | rfl | rfl | rfl | rfl | rfl | rfl
      <;> rfl

theorem utf8Len_of_isMoveChar {s : List Char} (h : ∀ c ∈ s, IsMoveChar c) :
    String.utf8Len s = s.length := by
  induction s with
  | nil => rfl
  | cons c s ih =>
    obtain ⟨hc, hs⟩ := List.forall_mem_cons.1 h
    rw [String.utf8Len_cons, ih hs, utf8Size_of_isMoveChar hc, List.length_cons]

theorem utf8ByteSize_eq (s : String) : s.utf8ByteSize = String.utf8Len s.toList := by
  rw [← String.utf8ByteSize_ofList, String.ofList_toList]

/-- A text that is written somewhere in a source is no longer printed than the source is. -/
theorem utf8ByteSize_le_of_infix {text source : String} {s : List Char}
    (hchars : ∀ c ∈ text.toList, IsMoveChar c) (hlength : text.toList.length ≤ s.length)
    (hs : s <:+: source.toList) : text.utf8ByteSize ≤ source.utf8ByteSize := by
  obtain ⟨a, b, hsource⟩ := hs
  have hle := length_le_utf8Len s
  rw [utf8ByteSize_eq, utf8ByteSize_eq, ← hsource, String.utf8Len_append, String.utf8Len_append,
    utf8Len_of_isMoveChar hchars]
  omega

/-! ## Printing and compiling again -/

theorem Parameter.Written.inRange {s : List Char} {q : Parameter} (h : q.Written s) :
    q.InRange := by
  cases h with
  | target _ hr => exact hr
  | delay _ hle => exact hle
  | speed _ hle => exact hle

theorem Parameter.inRange_of_slots {parts : List (List Char)} {slots : List (Option Parameter)}
    (h : List.Forall₂ Slot parts slots) : ∀ q ∈ slots.reduceOption, q.InRange := by
  induction h with
  | nil => simp
  | cons hslot _ ih =>
    cases hslot with
    | blank _ => exact ih
    | parameter _ hw => exact List.forall_mem_cons.2 ⟨hw.inRange, ih⟩

theorem Move.Written.printable {s : List Char} {m : Move} (h : m.Written s) (hm : m.Parallel) :
    m.Printable := by
  cases h with
  | @intro axis s inner slots _ hseparated hne =>
    obtain ⟨parts, -, -, hslots⟩ := hseparated
    have hrange := Parameter.inRange_of_slots hslots
    refine ⟨hm, hne, fun p hp => ?_, fun d hd => ?_, fun v hv => ?_⟩
    · obtain ⟨q, hq, ht⟩ := List.mem_filterMap.1 hp
      cases q <;> cases ht
      exact hrange _ hq
    · obtain ⟨q, hq, ht⟩ := List.mem_filterMap.1 hd
      cases q <;> cases ht
      exact hrange _ hq
    · obtain ⟨q, hq, ht⟩ := List.mem_filterMap.1 hv
      cases q <;> cases ht
      exact hrange _ hq

theorem Moves.Written.printable {s : List Char} {ms : List Move} (h : Moves.Written s ms)
    (hms : ∀ m ∈ ms, m.Parallel) : ∀ m ∈ ms, m.Printable := by
  obtain ⟨parts, -, -, hf⟩ := h
  induction hf with
  | nil => simp
  | cons hpart _ ih =>
    obtain ⟨hm, hms⟩ := List.forall_mem_cons.1 hms
    obtain ⟨t, -, hw⟩ := hpart
    exact List.forall_mem_cons.2 ⟨hw.printable hm, ih hms⟩

theorem Instruction.Written.printable {s : List Char} {i : Instruction} {text : String}
    (h : i.Written s) (ht : i.printed? = some text) (hi : ∀ m ∈ i.moves, m.Parallel) :
    i.Printable := by
  cases h with
  | group _ hms => exact ⟨hms.ne_nil, hms.printable hi⟩
  | movement hms => exact ⟨hms.ne_nil, hms.printable hi⟩
  | _ => cases ht

theorem Instruction.Written.exists_speed {s : List Char} {i : Instruction} (h : i.Written s)
    (hs : speedKeyword <+: s) : ∃ axis v, i = .speed axis v := by
  cases h with
  | group henclosed _ =>
    exact absurd hs (not_starts_of_starts henclosed.starts (by decide) (by decide))
  | speed | axisSpeed => exact ⟨_, _, rfl⟩
  | system w => exact absurd hs (by cases w <;> decide)
  | sync henclosed _ _ _ =>
    exact absurd hs (not_starts_of_starts henclosed.starts (by decide) (by decide))
  | wait => exact absurd hs (by decide)
  | detect => exact absurd hs (by decide)
  | call henclosed _ _ _ _ =>
    exact absurd hs (not_starts_of_starts henclosed.starts (by decide) (by decide))
  | movement hms => exact absurd hs (hms.not_keyword (by decide))

theorem Instruction.Written.not_speed {s : List Char} {i : Instruction} {text : String}
    (h : i.Written s) (ht : i.printed? = some text) : ¬ speedKeyword <+: s := by
  intro hs
  obtain ⟨axis, v, rfl⟩ := h.exists_speed hs
  cases ht

/-- Moves of a compilation can be printed, in a text no longer than the source. -/
theorem Compilation.printable_of_mem {callDepth : Nat} {source : String} {c : Compilation}
    (h : compile callDepth source = .ok c) {x : Command} (hx : x ∈ c.program.allCommands)
    {text : String} (ht : x.instruction.printed? = some text)
    (hmoves : ∀ m ∈ x.instruction.moves, m.Parallel) : x.instruction.Printable ∧
      x.duration = x.instruction.estimate ∧ x.instruction.estimate ≤ word64Max ∧
      text.utf8ByteSize ≤ source.utf8ByteSize := by
  obtain ⟨⟨t, htoken, hlexeme⟩, hwritten, hestimate⟩ := exists_token h hx
  have hprintable := hwritten.printable ht hmoves
  have hcallee : x.instruction.callee? = none := by
    cases hi : x.instruction <;> rw [hi] at ht <;> first | rfl | cases ht
  obtain ⟨hduration, hfit⟩ := hestimate hcallee
  exact ⟨hprintable, hduration, hfit, utf8ByteSize_le_of_infix
    (Instruction.isMoveChar_printed hprintable ht) (hwritten.length_printed_le hmoves ht)
    (infix_of_mem_tokenize htoken hlexeme (hwritten.not_speed ht))⟩

/-- **Moves are compiled from the text that they are printed as**, unless their estimate does not
fit its word. Those of a compilation always are. -/
theorem printed_moves_compile (callDepth : Nat) {i : Instruction} {text : String}
    (ht : i.printed? = some text) :
    (i.Printable → (text ++ ";").utf8ByteSize ≤ sourceLimit →
      compile callDepth (text ++ ";") =
        if i.estimate ≤ word64Max then .ok (soleCompilation callDepth i text)
        else .error (.overflow .addition)) ∧
    ∀ (callDepth' : Nat) (source : String) (c : Compilation),
      compile callDepth' source = .ok c → ∀ x ∈ c.program.allCommands, x.instruction = i →
        (∀ m ∈ i.moves, m.Parallel) →
        x.duration = i.estimate ∧ text.utf8ByteSize ≤ source.utf8ByteSize ∧
          ((text ++ ";").utf8ByteSize ≤ sourceLimit →
            compile callDepth (text ++ ";") = .ok (soleCompilation callDepth i text)) := by
  refine ⟨fun h hsize => compile_printed callDepth h ht hsize, ?_⟩
  rintro callDepth' source c h x hx rfl hmoves
  obtain ⟨hprintable, hduration, hfit, hshort⟩ := Compilation.printable_of_mem h hx ht hmoves
  refine ⟨hduration, hshort, fun hsize => ?_⟩
  rw [compile_printed callDepth hprintable ht hsize, if_pos hfit]

/-- Two axes that move together, as far as they can be told. -/
def reach : Instruction := .group [⟨.x, [100, -20], [500], [800]⟩, ⟨.g, [-5], [], []⟩]

theorem reach_printable : reach.Printable where
  moves_ne := by decide
  moves := by
    refine List.forall_mem_cons.2 ⟨⟨⟨by decide, by decide⟩, by decide, ?_, ?_, ?_⟩,
      List.forall_mem_cons.2 ⟨⟨⟨by decide, by decide⟩, by decide, ?_, ?_, ?_⟩, by simp⟩⟩ <;>
      simp [InInt64, int64Max, word64Max, word32Max]

theorem compile_reach : reach.Printable ∧
    compile 10 ("GROUP(X(100,d500,s800,-20),G(-5))" ++ ";") =
      .ok (soleCompilation 10 reach "GROUP(X(100,d500,s800,-20),G(-5))") ∧
    compile 3 ("GROUP(X(100,d500,s800,-20),G(-5))" ++ ";") =
      .ok (soleCompilation 3 reach "GROUP(X(100,d500,s800,-20),G(-5))") := by
  have htext : reach.printed? = some "GROUP(X(100,d500,s800,-20),G(-5))" := by decide
  have hcompile := (printed_moves_compile 10 htext).1 reach_printable (by decide)
  rw [if_pos (by decide)] at hcompile
  have hagain := (printed_moves_compile 3 htext).2 10 _ _ hcompile (soleCommand reach _)
    (List.mem_singleton.2 rfl) rfl fun m hm => (reach_printable.moves m hm).toParallel
  exact ⟨reach_printable, hcompile, hagain.2.2 (by decide)⟩

theorem longestDelay_printable : longestDelay.Printable where
  delays_le := by decide
  speeds_le := by decide
  positions_ne := by decide
  positions := by simp [longestDelay, InInt64, int64Max]
  delays := by simp [longestDelay]
  speeds := by simp [longestDelay]

/-- It can be written, but its estimate does not fit a word. -/
theorem compile_longestDelay : longestDelay.Printable ∧
    movesText [longestDelay] ++ ";" = "X(1,d18446744073709551615);" ∧
    compile defaultCallDepth "X(1,d18446744073709551615);" = .error (.overflow .addition) := by
  have htext : movesText [longestDelay] ++ ";" = "X(1,d18446744073709551615);" := by decide
  have hprintable : (Instruction.movement [longestDelay]).Printable :=
    ⟨by decide, by simpa [Instruction.moves] using longestDelay_printable⟩
  refine ⟨longestDelay_printable, htext, ?_⟩
  rw [← htext, compile_printed defaultCallDepth hprintable rfl (by rw [htext]; decide), if_neg]
  decide

end MotionScript
