import Mathlib.Data.List.Forall2
import Mathlib.Data.List.TakeWhile
import MotionScript.Text.Blank
import MotionScript.Text.Split

/-!
# Texts made of parts

How parts are put together, apart from how a text is cut into them.

* `Blank`, `Padded`, `Trimmed`: blanks around a text; `trim_eq_iff`: trimming takes them away.
* `Separated`: texts with separators between them, each standing for something.
* `separated_iff_splitOn`, `separated_iff_splitOutside`: cutting at the separators finds the parts,
  if none of them holds one, or holds one outside parentheses.
-/

namespace MotionScript

/-! ## Blanks around a text -/

def Blank (s : List Char) : Prop := ∀ c ∈ s, isBlank c

/-- `s` is `t` with blanks around it. -/
def Padded (s t : List Char) : Prop := ∃ b e, Blank b ∧ Blank e ∧ s = b ++ (t ++ e)

/-- There is no blank at either end. -/
structure Trimmed (t : List Char) : Prop where
  head : ∀ c, t.head? = some c → isBlank c = false
  last : ∀ c, t.getLast? = some c → isBlank c = false

section Blanks

variable {s t : List Char}

theorem blank_takeWhile (s : List Char) : Blank (s.takeWhile isBlank) :=
  fun _ hc => List.mem_takeWhile_imp hc

theorem isBlank_head?_trimStart {c : Char} (h : (trimStart s).head? = some c) :
    isBlank c = false := by
  have hd := List.head?_dropWhile_not isBlank s
  rw [trimStart] at h
  rw [h] at hd
  exact hd

theorem trimStart_append (h : Blank s) (t : List Char) : trimStart (s ++ t) = trimStart t :=
  List.dropWhile_append_of_pos h

theorem trimStart_of_head (h : ∀ c, s.head? = some c → isBlank c = false) : trimStart s = s := by
  cases s with
  | nil => rfl
  | cons c s => exact trimStart_eq_self (h c rfl)

theorem trimEnd_eq (s : List Char) : trimEnd s = (trimStart s.reverse).reverse := rfl

theorem trimEnd_append_blanks (s : List Char) : ∃ e, Blank e ∧ s = trimEnd s ++ e := by
  refine ⟨(s.reverse.takeWhile isBlank).reverse, fun c hc => ?_, ?_⟩
  · exact blank_takeWhile _ c (List.mem_reverse.1 hc)
  · rw [trimEnd, ← List.reverse_append, List.takeWhile_append_dropWhile, List.reverse_reverse]

theorem padded_trim (s : List Char) : Padded s (trim s) := by
  obtain ⟨e, he, hs⟩ := trimEnd_append_blanks (trimStart s)
  refine ⟨s.takeWhile isBlank, e, blank_takeWhile s, he, ?_⟩
  rw [trim, ← hs, trimStart, List.takeWhile_append_dropWhile]

theorem trimmed_trim (s : List Char) : Trimmed (trim s) where
  head c hc := by
    obtain ⟨e, -, hs⟩ := trimEnd_append_blanks (trimStart s)
    have hne : trim s ≠ [] := by
      intro h
      simp [h] at hc
    -- What is trimmed at the end begins as it did before.
    have hhead : (trimStart s).head? = (trim s).head? := by
      rw [hs]
      exact List.head?_append_of_ne_nil _ hne
    exact isBlank_head?_trimStart (hhead.trans hc)
  last c hc := by
    rw [trim, trimEnd_eq, List.getLast?_reverse] at hc
    exact isBlank_head?_trimStart hc

theorem trim_of_padded (h : Padded s t) (ht : Trimmed t) : trim s = t := by
  obtain ⟨b, e, hb, he, rfl⟩ := h
  have hrev : Blank e.reverse := fun c hc => he c (List.mem_reverse.1 hc)
  have hlast : trimStart t.reverse = t.reverse := by
    refine trimStart_of_head fun c hc => ht.last c ?_
    rwa [List.head?_reverse] at hc
  by_cases hnil : t = []
  · subst hnil
    have : trimStart (b ++ ([] ++ e)) = [] := by
      rw [trimStart_append hb, trimStart, List.nil_append, List.dropWhile_eq_nil_iff]
      exact he
    rw [trim, this]
    rfl
  · have hstart : trimStart (b ++ (t ++ e)) = t ++ e := by
      rw [trimStart_append hb, trimStart_of_head]
      intro c hc
      rw [List.head?_append_of_ne_nil _ hnil] at hc
      exact ht.head c hc
    rw [trim, hstart, trimEnd_eq, List.reverse_append, trimStart_append hrev, hlast,
      List.reverse_reverse]

theorem trim_eq_iff : trim s = t ↔ Padded s t ∧ Trimmed t := by
  constructor
  · rintro rfl
    exact ⟨padded_trim s, trimmed_trim s⟩
  · rintro ⟨hp, ht⟩
    exact trim_of_padded hp ht

theorem trimmed_nil : Trimmed [] where
  head c hc := by cases hc
  last c hc := by cases hc

theorem trim_eq_nil : trim s = [] ↔ Blank s := by
  rw [trim_eq_iff]
  constructor
  · rintro ⟨⟨b, e, hb, he, rfl⟩, -⟩ c hc
    rcases List.mem_append.1 hc with h | h
    · exact hb c h
    · exact he c h
  · intro h
    exact ⟨⟨s, [], h, by simp [Blank], by simp⟩, trimmed_nil⟩

theorem Padded.notMem (h : Padded s t) {d : Char} (hd : isBlank d = false) (ht : d ∉ t) :
    d ∉ s := by
  obtain ⟨b, e, hb, he, rfl⟩ := h
  intro hm
  rcases List.mem_append.1 hm with hm | hm
  · exact absurd (hb d hm) (by simp [hd])
  · rcases List.mem_append.1 hm with hm | hm
    · exact ht hm
    · exact absurd (he d hm) (by simp [hd])

theorem trimmed_of_forall (h : ∀ c ∈ t, isBlank c = false) : Trimmed t where
  head c hc := h c (List.mem_of_mem_head? hc)
  last c hc := h c (List.mem_of_getLast? hc)

end Blanks

/-! ## Parts between separators -/

/-- A text of one or more parts with separators between them, each of which stands for something. -/
def Separated {α : Type} (sep : Char) (R : List Char → α → Prop) (s : List Char) (as : List α) :
    Prop :=
  ∃ parts, parts ≠ [] ∧ s = [sep].intercalate parts ∧ List.Forall₂ R parts as

section Parts

variable {α : Type} {sep : Char} {R : List Char → α → Prop}

theorem Separated.ne_nil {s : List Char} {as : List α} (h : Separated sep R s as) : as ≠ [] := by
  obtain ⟨parts, hne, -, hf⟩ := h
  rintro rfl
  cases hf
  exact hne rfl

theorem mem_intercalate {parts : List (List Char)} {c : Char}
    (h : c ∈ [sep].intercalate parts) : c = sep ∨ ∃ p ∈ parts, c ∈ p := by
  induction parts with
  | nil => simp at h
  | cons p parts ih =>
    cases parts with
    | nil => exact .inr ⟨p, by simp, by simpa using h⟩
    | cons q parts =>
      rw [List.intercalate_cons_cons] at h
      simp only [List.mem_append, List.mem_singleton] at h
      rcases h with (h | h) | h
      · exact .inr ⟨p, by simp, h⟩
      · exact .inl h
      · exact (ih h).imp_right fun ⟨r, hr, hm⟩ => ⟨r, List.mem_cons_of_mem _ hr, hm⟩

/-- The first part, with the separator after it or nothing. -/
theorem Separated.head {s : List Char} {as : List α} (h : Separated sep R s as) :
    ∃ p a rest, R p a ∧ s = p ++ rest := by
  obtain ⟨parts, hne, rfl, hf⟩ := h
  cases hf with
  | nil => exact absurd rfl hne
  | @cons p a parts as hp hf =>
    cases parts with
    | nil => exact ⟨p, a, [], hp, by simp⟩
    | cons q parts => exact ⟨p, a, _, hp, by rw [List.intercalate_cons_cons, List.append_assoc]⟩

theorem splitOn_eq (sep : Char) (s : List Char) : splitOn sep s = s.splitOn sep := by
  induction s with
  | nil => rfl
  | cons c s ih =>
    rw [splitOn_cons, ih, List.splitOn_eq_splitOnP, List.splitOn_eq_splitOnP,
      List.splitOnP_cons_eq_if_modifyHead]
    simp only [beq_iff_eq]
    split
    · rfl
    · cases hs : List.splitOnP (· == sep) s with
      | nil => exact absurd hs (List.splitOnP_ne_nil _ _)
      | cons p ps => rfl

theorem notMem_of_mem_splitOn {s p : List Char} (h : p ∈ splitOn sep s) : sep ∉ p := by
  induction s generalizing p with
  | nil =>
    rw [splitOn_nil, List.mem_singleton] at h
    simp [h]
  | cons c s ih =>
    rw [splitOn_cons] at h
    split at h
    · rcases List.mem_cons.1 h with rfl | h
      · simp
      · exact ih h
    · next hc =>
      cases hs : splitOn sep s with
      | nil => exact absurd hs (splitOn_ne_nil sep s)
      | cons q qs =>
        rw [hs, consLine] at h
        rw [hs] at ih
        rcases List.mem_cons.1 h with rfl | h
        · simp [Ne.symm hc, ih (List.mem_cons_self ..)]
        · exact ih (List.mem_cons_of_mem _ h)

/-- The parts that a text is cut into at every separator. -/
theorem splitOn_eq_iff {s : List Char} {parts : List (List Char)} : splitOn sep s = parts ↔
    parts ≠ [] ∧ s = [sep].intercalate parts ∧ ∀ p ∈ parts, sep ∉ p := by
  constructor
  · rintro rfl
    refine ⟨splitOn_ne_nil sep s, ?_, fun p => notMem_of_mem_splitOn⟩
    rw [splitOn_eq, List.intercalate_splitOn]
  · rintro ⟨hne, rfl, h⟩
    rw [splitOn_eq, List.splitOn_intercalate sep h hne]

theorem forall_mem_of_forall₂ {P : List Char → Prop} (hR : ∀ s a, R s a → P s)
    {parts : List (List Char)} {as : List α} (h : List.Forall₂ R parts as) :
    ∀ p ∈ parts, P p := by
  induction h with
  | nil => simp
  | cons hp _ ih => exact List.forall_mem_cons.2 ⟨hR _ _ hp, ih⟩

/-- Cutting at every separator finds the parts, if none of them holds one. -/
theorem separated_iff_splitOn (hR : ∀ s a, R s a → sep ∉ s) {s : List Char} {as : List α} :
    Separated sep R s as ↔ List.Forall₂ R (splitOn sep s) as := by
  constructor
  · rintro ⟨parts, hne, rfl, hf⟩
    rwa [splitOn_eq_iff.2 ⟨hne, rfl, forall_mem_of_forall₂ hR hf⟩]
  · intro hf
    obtain ⟨hne, hs, -⟩ := splitOn_eq_iff.1 (Eq.refl (splitOn sep s))
    exact ⟨_, hne, hs, hf⟩

end Parts

/-! ## Parts between separators outside parentheses -/

/-- Read from outside all parentheses, the text leads back there, and it is no separator on the
way. -/
def Closed (sep : Char) (s : List Char) : Prop :=
  ∀ part parts, s.foldl (OuterScan.push sep) ⟨0, part, parts⟩ = ⟨0, s.reverse ++ part, parts⟩

namespace OuterScan

/-- What was read so far. -/
def text (sep : Char) (st : OuterScan) : List Char :=
  [sep].intercalate (st.parts.reverse ++ [st.part.reverse])

end OuterScan

section Outside

variable {α : Type} {sep : Char} {R : List Char → α → Prop} {s t : List Char}

theorem intercalate_concat_append (sep : Char) (ps : List (List Char)) (p q : List Char) :
    [sep].intercalate (ps ++ [p ++ q]) = [sep].intercalate (ps ++ [p]) ++ q := by
  induction ps with
  | nil => simp
  | cons a ps ih =>
    cases ps with
    | nil => simp [List.intercalate_cons_cons]
    | cons b ps =>
      simp only [List.cons_append, List.intercalate_cons_cons, List.append_assoc] at ih ⊢
      rw [ih]

theorem intercalate_concat_nil (sep : Char) (ps : List (List Char)) (p : List Char) :
    [sep].intercalate (ps ++ [p] ++ [[]]) = [sep].intercalate (ps ++ [p]) ++ [sep] := by
  induction ps with
  | nil => simp [List.intercalate_cons_cons]
  | cons a ps ih =>
    cases ps with
    | nil => simp [List.intercalate_cons_cons]
    | cons b ps =>
      simp only [List.cons_append, List.intercalate_cons_cons, List.append_assoc] at ih ⊢
      rw [ih]

theorem text_push (sep c : Char) (st : OuterScan) :
    (st.push sep c).text sep = st.text sep ++ [c] := by
  have hkeep : ∀ d, OuterScan.text sep ⟨d, c :: st.part, st.parts⟩ = st.text sep ++ [c] := by
    intro d
    rw [OuterScan.text, List.reverse_cons, intercalate_concat_append]
    rfl
  unfold OuterScan.push
  split_ifs with h₁ h₂ h₃
  · exact hkeep _
  · exact hkeep _
  · rw [OuterScan.text, List.reverse_cons, List.reverse_nil, intercalate_concat_nil, h₃.1]
    rfl
  · exact hkeep _

theorem text_foldl (sep : Char) (s : List Char) (st : OuterScan) :
    (s.foldl (OuterScan.push sep) st).text sep = st.text sep ++ s := by
  induction s generalizing st with
  | nil => simp
  | cons c s ih =>
    rw [List.foldl_cons, ih, text_push, List.append_assoc]
    rfl

/-- The parts, with the separators between them, are the text. -/
theorem intercalate_splitOutside (sep : Char) (s : List Char) :
    [sep].intercalate (splitOutside sep s) = s := by
  have h := text_foldl sep s ⟨0, [], []⟩
  rw [splitOutside, List.reverse_cons]
  exact h.trans (by simp [OuterScan.text])

theorem Closed.append (hs : Closed sep s) (ht : Closed sep t) : Closed sep (s ++ t) := by
  intro part parts
  rw [List.foldl_append, hs, ht, List.reverse_append, List.append_assoc]

theorem closed_of_plain (h : ∀ c ∈ s, c ≠ '(' ∧ c ≠ ')' ∧ c ≠ sep) : Closed sep s := by
  induction s with
  | nil => exact fun _ _ => rfl
  | cons c s ih =>
    obtain ⟨⟨h₁, h₂, h₃⟩, hs⟩ := List.forall_mem_cons.1 h
    intro part parts
    rw [List.foldl_cons, OuterScan.push, if_neg h₁, if_neg h₂, if_neg fun h => h₃ h.1, ih hs]
    simp

/-- Inside a pair of parentheses separators do not count. -/
theorem closed_parentheses (h : ∀ c ∈ s, c ≠ '(' ∧ c ≠ ')') : Closed sep ('(' :: (s ++ [')'])) := by
  have inner : ∀ part parts,
      s.foldl (OuterScan.push sep) ⟨1, part, parts⟩ = ⟨1, s.reverse ++ part, parts⟩ := by
    induction s with
    | nil => exact fun _ _ => rfl
    | cons c s ih =>
      obtain ⟨⟨h₁, h₂⟩, hs⟩ := List.forall_mem_cons.1 h
      intro part parts
      have hdepth : ¬ (c = sep ∧ (1 : Nat) = 0) := fun h => Nat.one_ne_zero h.2
      rw [List.foldl_cons, OuterScan.push, if_neg h₁, if_neg h₂, if_neg hdepth, ih hs]
      simp
  intro part parts
  rw [List.foldl_cons, List.foldl_append, OuterScan.push, if_pos rfl, inner]
  simp [OuterScan.push]

theorem splitOutside_intercalate (h₁ : sep ≠ '(') (h₂ : sep ≠ ')') {parts : List (List Char)}
    (hne : parts ≠ []) (h : ∀ p ∈ parts, Closed sep p) :
    splitOutside sep ([sep].intercalate parts) = parts := by
  -- A part that is closed ends in the state it began in, so that the separator after it counts.
  have run : ∀ (ps : List (List Char)) (p : List Char) (done : List (List Char)),
      (∀ q ∈ p :: ps, Closed sep q) →
        let st := ([sep].intercalate (p :: ps)).foldl (OuterScan.push sep) ⟨0, [], done⟩
        st.part.reverse :: st.parts = (p :: ps).reverse ++ done := by
    intro ps
    induction ps with
    | nil =>
      intro p done hps
      simp [hps p (List.mem_singleton_self p) [] done]
    | cons q ps ih =>
      intro p done hps
      obtain ⟨hp, hps⟩ := List.forall_mem_cons.1 hps
      have hsep : OuterScan.push sep ⟨0, p.reverse ++ [], done⟩ sep = ⟨0, [], p :: done⟩ := by
        simp [OuterScan.push, h₁, h₂]
      have hrest := ih q (p :: done) hps
      simp only [List.intercalate_cons_cons, List.foldl_append, hp [] done, List.foldl_cons,
        List.foldl_nil, hsep]
      rw [hrest]
      simp
  cases parts with
  | nil => exact absurd rfl hne
  | cons p ps =>
    rw [splitOutside]
    have hrun := run ps p [] h
    simp only at hrun ⊢
    rw [hrun, List.append_nil, List.reverse_reverse]

/-- Cutting at the separators outside parentheses finds the parts, if none of them holds one. -/
theorem separated_iff_splitOutside (h₁ : sep ≠ '(') (h₂ : sep ≠ ')')
    (hR : ∀ s a, R s a → Closed sep s) {as : List α} :
    Separated sep R s as ↔ List.Forall₂ R (splitOutside sep s) as := by
  constructor
  · rintro ⟨parts, hne, rfl, hf⟩
    rwa [splitOutside_intercalate h₁ h₂ hne (forall_mem_of_forall₂ hR hf)]
  · intro hf
    exact ⟨_, splitOutside_ne_nil sep s, (intercalate_splitOutside sep s).symm, hf⟩

end Outside

end MotionScript
