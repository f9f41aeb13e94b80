import Mathlib.Data.List.ReduceOption
import MotionScript.Proofs.Text.Numeral
import MotionScript.Proofs.Text.Separated
import MotionScript.Script.AxisCall

/-!
# How moves are written

* `Parameter.Written`, `Parameter.Slot`: a parameter of an axis command, and what may stand between
  two commas: a parameter with blanks around it, or nothing but blanks.
* `Enclosed`: a keyword and what stands between the parentheses after it.
* `Move.Written`, `Moves.Written`: an axis command, and a list of them.
* `move_eq_ok`, `readMoves_eq_ok`: what is read is what is written.
* `Severe`: problems of which each keeps the script from being run; what is not read has some.
-/

namespace MotionScript

/-! ## The grammar -/

/-- How a parameter is written. -/
inductive Parameter.Written : List Char → Parameter → Prop where
  | target {s : List Char} {p : Int} : Signed s p → InInt64 p → Written s (.target p)
  | delay {s : List Char} {d : Nat} : Unsigned s d → d ≤ word64Max → Written ('d' :: s) (.delay d)
  | speed {s : List Char} {v : Nat} : Unsigned s v → v ≤ word32Max → Written ('s' :: s) (.speed v)

/-- What stands between two commas. -/
inductive Parameter.Slot : List Char → Option Parameter → Prop where
  | blank {s : List Char} : Blank s → Slot s none
  | parameter {s t : List Char} {q : Parameter} : Padded s t → q.Written t → Slot s (some q)

/-- The move of an axis with parameters: each list in written order. -/
def Move.ofParameters (axis : Axis) (qs : List Parameter) : Move :=
  ⟨axis, qs.filterMap Parameter.target?, qs.filterMap Parameter.delay?,
    qs.filterMap Parameter.speed?⟩

/-- `s` is a keyword with `inner` between parentheses after it. Blanks may stand before them. -/
def Enclosed (keyword inner s : List Char) : Prop :=
  ∃ ws, Blank ws ∧ s = keyword ++ (ws ++ '(' :: (inner ++ [')']))

/-- How a move is written. It has a target. -/
inductive Move.Written : List Char → Move → Prop where
  | intro {axis : Axis} {s inner : List Char} {slots : List (Option Parameter)} :
    Enclosed [axis.letter] inner s → Separated ',' Parameter.Slot inner slots →
    (Move.ofParameters axis slots.reduceOption).positions ≠ [] →
    Written s (.ofParameters axis slots.reduceOption)

/-- How a list of moves is written, with blanks around each. -/
def Moves.Written : List Char → List Move → Prop :=
  Separated ',' fun s m => ∃ t, Padded s t ∧ m.Written t

/-- There is a problem, and each keeps the script from being run. -/
def Severe (ps : List Problem) : Prop := ps ≠ [] ∧ ∀ p ∈ ps, p.severity = .error

/-! ## Characters -/

theorem isDigit_iff {c : Char} : c.isDigit ↔ 48 ≤ c.toNat ∧ c.toNat ≤ 57 := by
  simp only [Char.isDigit, ge_iff_le, UInt32.le_iff_toNat_le, Bool.and_eq_true, decide_eq_true_eq]
  rfl

theorem IsNumeric.isBlank_eq {c : Char} (h : IsNumeric c) : isBlank c = false := by
  rcases h with h | rfl | rfl
  · have := isDigit_iff.1 h
    simp only [isBlank, Bool.or_eq_false_iff, Bool.and_eq_false_iff, decide_eq_false_iff_not,
      beq_eq_false_iff_ne]
    omega
  · rfl
  · rfl

theorem IsNumeric.ne {c d : Char} (h : IsNumeric c) (hd : d ∈ [',', ';', '(', ')']) : c ≠ d := by
  rintro rfl
  simp only [List.mem_cons, List.not_mem_nil, or_false] at hd
  rcases hd with rfl | rfl | rfl | rfl <;> exact absurd h (by decide)

theorem isNameChar_eq_false_of_isBlank {c : Char} (h : isBlank c = true) :
    isNameChar c = false := by
  have hc : c ≠ '_' := by
    rintro rfl
    cases h
  have hn : ¬ c.isAlphanum := by
    simp only [isBlank, Bool.or_eq_true, Bool.and_eq_true, decide_eq_true_eq, beq_iff_eq] at h
    change ¬ (decide (c.val ≥ 65 ∧ c.val ≤ 90) || decide (c.val ≥ 97) && decide (c.val ≤ 122) ||
      decide (c.val ≥ 48) && decide (c.val ≤ 57)) = true
    simp only [ge_iff_le, UInt32.le_iff_toNat_le, Bool.or_eq_true, Bool.and_eq_true,
      decide_eq_true_eq]
    change ¬ ((65 ≤ c.toNat ∧ c.toNat ≤ 90 ∨ 97 ≤ c.toNat ∧ c.toNat ≤ 122) ∨
      48 ≤ c.toNat ∧ c.toNat ≤ 57)
    omega
  simp [isNameChar, hn, hc]

/-! ## Parameters -/

namespace Parameter

theorem Written.mem {s : List Char} {q : Parameter} (h : q.Written s) {c : Char} (hc : c ∈ s) :
    IsNumeric c ∨ c = 'd' ∨ c = 's' := by
  cases h with
  | target hs => exact .inl (hs.isNumeric c hc)
  | delay hu | speed hu =>
    rcases List.mem_cons.1 hc with rfl | hc
    · decide
    · exact .inl (hu.isNumeric c hc)

theorem Written.isBlank_eq {s : List Char} {q : Parameter} (h : q.Written s) :
    ∀ c ∈ s, isBlank c = false := by
  intro c hc
  rcases h.mem hc with hn | rfl | rfl
  · exact hn.isBlank_eq
  · rfl
  · rfl

theorem Written.notMem {s : List Char} {q : Parameter} (h : q.Written s) {d : Char}
    (hd : d ∈ [',', ';', '(', ')']) : d ∉ s := by
  intro hm
  rcases h.mem hm with hn | rfl | rfl
  · exact hn.ne hd rfl
  · exact absurd hd (by decide)
  · exact absurd hd (by decide)

theorem not_signed_of_head {c : Char} {s : List Char} {p : Int} (hc : c = 'd' ∨ c = 's') :
    ¬ Signed (c :: s) p := by
  intro h
  have := h.isNumeric c (List.mem_cons_self ..)
  rcases hc with rfl | rfl <;> exact absurd this (by decide)

theorem readInt64_of_head {c : Char} (s : List Char) (hc : c = 'd' ∨ c = 's') :
    readInt64 (c :: s) = none := by
  refine Option.eq_none_iff_forall_ne_some.2 fun p hp => ?_
  exact not_signed_of_head hc (readInt64_eq_some.1 hp).1

theorem read?_eq_some {s : List Char} {q : Parameter} : read? s = some q ↔ q.Written s := by
  constructor
  · intro h
    unfold read? at h
    split at h
    · next p hp =>
      cases h
      obtain ⟨hs, hr⟩ := readInt64_eq_some.1 hp
      exact .target hs hr
    · split at h
      · next r _ =>
        obtain ⟨d, hd, rfl⟩ := Option.map_eq_some_iff.1 h
        obtain ⟨hu, hle⟩ := readNat_eq_some.1 hd
        exact .delay hu hle
      · next r _ =>
        obtain ⟨v, hv, rfl⟩ := Option.map_eq_some_iff.1 h
        obtain ⟨hu, hle⟩ := readNat_eq_some.1 hv
        exact .speed hu hle
      · cases h
  · intro h
    cases h with
    | target hs hr => simp only [read?, readInt64_eq_some.2 ⟨hs, hr⟩]
    | delay hu hle =>
      simp [read?, readInt64_of_head _ (.inl rfl), readNat_eq_some.2 ⟨hu, hle⟩]
    | speed hu hle =>
      simp [read?, readInt64_of_head _ (.inr rfl), readNat_eq_some.2 ⟨hu, hle⟩]

@[simp] theorem read?_nil : read? [] = none := rfl

/-- A slot holds what its text without the blanks around it reads as. -/
theorem slot_iff {s : List Char} {o : Option Parameter} :
    Slot s o ↔ o = read? (trim s) ∧ (trim s ≠ [] → (read? (trim s)).isSome) := by
  constructor
  · intro h
    cases h with
    | blank hb => simp [trim_eq_nil.2 hb]
    | parameter hp hw =>
      rw [trim_of_padded hp (trimmed_of_forall hw.isBlank_eq), read?_eq_some.2 hw]
      exact ⟨rfl, fun _ => rfl⟩
  · rintro ⟨rfl, h⟩
    by_cases hs : trim s = []
    · rw [hs]
      exact .blank (trim_eq_nil.1 hs)
    · obtain ⟨q, hq⟩ := Option.isSome_iff_exists.1 (h hs)
      rw [hq]
      exact .parameter (padded_trim s) (read?_eq_some.1 hq)

theorem Slot.mem {s : List Char} {o : Option Parameter} (h : Slot s o) {d : Char} (hm : d ∈ s) :
    isBlank d ∨ d ∉ [',', ';', '(', ')'] := by
  cases h with
  | blank hb => exact .inl (hb d hm)
  | parameter hp hw =>
    obtain ⟨b, e, hb, he, rfl⟩ := hp
    rcases List.mem_append.1 hm with hm | hm
    · exact .inl (hb d hm)
    · rcases List.mem_append.1 hm with hm | hm
      · exact .inr fun hd => hw.notMem hd hm
      · exact .inl (he d hm)

theorem Slot.notMem {s : List Char} {o : Option Parameter} (h : Slot s o) {d : Char}
    (hd : d ∈ [',', ';', '(', ')']) : d ∉ s := by
  intro hm
  rcases h.mem hm with hb | hn
  · simp only [List.mem_cons, List.not_mem_nil, or_false] at hd
    rcases hd with rfl | rfl | rfl | rfl <;> exact absurd hb (by decide)
  · exact hn hd

end Parameter

/-! ## Moves -/

theorem forall₂_slot_iff {parts : List (List Char)} {slots : List (Option Parameter)} :
    List.Forall₂ Parameter.Slot parts slots ↔
      slots = (parts.map trim).map Parameter.read? ∧
        ∀ t ∈ parts.map trim, t ≠ [] → (Parameter.read? t).isSome := by
  induction parts generalizing slots with
  | nil =>
    rw [List.forall₂_nil_left_iff]
    simp
  | cons s parts ih =>
    rw [List.forall₂_cons_left_iff]
    simp only [ih, Parameter.slot_iff, List.map_cons, List.forall_mem_cons]
    constructor
    · rintro ⟨o, slots, ⟨rfl, hs⟩, ⟨rfl, hall⟩, rfl⟩
      exact ⟨rfl, hs, hall⟩
    · rintro ⟨rfl, hs, hall⟩
      exact ⟨_, _, ⟨rfl, hs⟩, ⟨rfl, hall⟩, rfl⟩

-- A text that is left out for being blank has nothing to be read either.
theorem filterMap_parameterTexts (s : List Char) :
    (parameterTexts s).filterMap Parameter.read? =
      (((splitOn ',' s).map trim).map Parameter.read?).reduceOption := by
  rw [parameterTexts, List.reduceOption, List.filterMap_map]
  generalize (splitOn ',' s).map trim = ts
  induction ts with
  | nil => rfl
  | cons t ts ih =>
    cases t with
    | nil => exact ih
    | cons c t =>
      rw [List.filter_cons_of_pos (by simp), List.filterMap_cons, List.filterMap_cons, ih]
      rfl

theorem readMove_eq_ok {axis : Axis} {s : List Char} {m : Move} :
    readMove axis s = .ok m ↔ ∃ slots, Separated ',' Parameter.Slot s slots ∧
      (Move.ofParameters axis slots.reduceOption).positions ≠ [] ∧
      m = .ofParameters axis slots.reduceOption := by
  have hall : ((parameterTexts s).filter fun t => (Parameter.read? t).isNone).isEmpty ↔
      ∀ t ∈ (splitOn ',' s).map trim, t ≠ [] → (Parameter.read? t).isSome := by
    simp only [List.isEmpty_iff, List.filter_eq_nil_iff, parameterTexts, List.mem_filter, and_imp,
      Bool.not_eq_true', List.isEmpty_eq_false_iff, Bool.not_eq_true, Option.isNone_eq_false_iff]
  have hslots : ∀ slots, Separated ',' Parameter.Slot s slots ↔
      slots = ((splitOn ',' s).map trim).map Parameter.read? ∧
        ((parameterTexts s).filter fun t => (Parameter.read? t).isNone).isEmpty := by
    intro slots
    rw [separated_iff_splitOn fun _ _ h => h.notMem (by decide), forall₂_slot_iff, hall]
  simp only [hslots]
  simp only [readMove, Move.ofParameters, filterMap_parameterTexts]
  constructor
  · intro h
    split_ifs at h with h₁ h₂
    refine ⟨_, ⟨rfl, ?_⟩, ?_, (Except.ok.inj h).symm⟩
    · simpa using h₁
    · simpa using h₂
  · rintro ⟨slots, ⟨rfl, h₁⟩, h₂, rfl⟩
    rw [if_neg (by simpa using h₁), if_neg (by simpa using h₂)]

theorem severe_of_readMove {axis : Axis} {s : List Char} {ps : List Problem}
    (h : readMove axis s = .error ps) : Severe ps := by
  unfold readMove at h
  simp only at h
  split_ifs at h with h₁ h₂
  · cases h
    refine ⟨by simpa using h₁, fun p hp => ?_⟩
    obtain ⟨t, -, rfl⟩ := List.mem_map.1 hp
    rfl
  · cases h
    refine ⟨List.cons_ne_nil _ _, fun p hp => ?_⟩
    rw [List.mem_singleton.1 hp]
    rfl

theorem parenthesized?_eq_some {s inner : List Char} :
    parenthesized? s = some inner ↔ Enclosed [] inner s := by
  constructor
  · intro h
    unfold parenthesized? at h
    split at h
    · next r hr =>
      split at h
      · next hlast =>
        cases h
        refine ⟨s.takeWhile isBlank, blank_takeWhile s, ?_⟩
        rw [List.nil_append, List.dropLast_append_getLast? _ hlast, ← hr, trimStart,
          List.takeWhile_append_dropWhile]
      · cases h
    · cases h
  · rintro ⟨ws, hws, rfl⟩
    have hstart : trimStart (ws ++ '(' :: (inner ++ [')'])) = '(' :: (inner ++ [')']) := by
      rw [trimStart_append hws]
      exact trimStart_eq_self rfl
    simp [parenthesized?, hstart]

/-- The letter of an axis, then parentheses. -/
theorem ofText?_axis {s params : List Char} {axis : Axis} :
    (∃ call, AxisCall.ofText? s = some call ∧ Axis.ofName? call.name = some axis ∧
      call.parameters = params) ↔ Enclosed [axis.letter] params s := by
  constructor
  · rintro ⟨call, hcall, hname, rfl⟩
    unfold AxisCall.ofText? at hcall
    split at hcall
    · cases hcall
    · next c r =>
      split at hcall
      · obtain ⟨params, hp, rfl⟩ := Option.map_eq_some_iff.1 hcall
        obtain ⟨ws, hws, hdrop⟩ := parenthesized?_eq_some.1 hp
        refine ⟨ws, hws, ?_⟩
        have htake : (c :: r).takeWhile isNameChar = [axis.letter] := Axis.ofName?_eq_some.1 hname
        rw [← List.takeWhile_append_dropWhile (p := isNameChar) (l := c :: r), htake, hdrop]
        rfl
      · cases hcall
  · rintro ⟨ws, hws, rfl⟩
    -- After the letter comes a blank or the parenthesis, which end the name.
    have hrest : (ws ++ '(' :: (params ++ [')'])).takeWhile isNameChar = [] ∧
        (ws ++ '(' :: (params ++ [')'])).dropWhile isNameChar = ws ++ '(' :: (params ++ [')']) := by
      cases ws with
      | nil => exact ⟨rfl, rfl⟩
      | cons w ws =>
        have hw := isNameChar_eq_false_of_isBlank (hws w (List.mem_cons_self ..))
        simp [hw]
    have hletter : axis.letter.isAlpha = true ∧ isNameChar axis.letter = true := by
      cases axis <;> decide
    have hparams : parenthesized? (ws ++ '(' :: (params ++ [')'])) = some params :=
      parenthesized?_eq_some.2 ⟨ws, hws, rfl⟩
    refine ⟨⟨[axis.letter], params⟩, ?_, Axis.ofName?_letter axis, rfl⟩
    rw [List.singleton_append]
    unfold AxisCall.ofText?
    simp only [hletter.1, if_true, List.takeWhile_cons, List.dropWhile_cons, hletter.2, hrest.1,
      hrest.2, hparams, Option.map_some]

/-- An axis command is read as the move that it writes. -/
theorem move_eq_ok {s : List Char} {m : Move} :
    (∃ call, AxisCall.ofText? s = some call ∧ call.move = .ok m) ↔ m.Written s := by
  constructor
  · rintro ⟨call, hcall, hm⟩
    unfold AxisCall.move at hm
    split at hm
    · next axis hname =>
      have henc := ofText?_axis.1 ⟨call, hcall, hname, rfl⟩
      obtain ⟨slots, hsep, hne, rfl⟩ := readMove_eq_ok.1 hm
      exact .intro henc hsep hne
    · cases hm
  · intro h
    cases h with
    | intro henc hsep hne =>
      obtain ⟨call, hcall, hname, hparams⟩ := ofText?_axis.2 henc
      refine ⟨call, hcall, ?_⟩
      simp only [AxisCall.move, hname, hparams]
      exact readMove_eq_ok.2 ⟨_, hsep, hne, rfl⟩

theorem severe_of_move {call : AxisCall} {ps : List Problem} (h : call.move = .error ps) :
    Severe ps := by
  unfold AxisCall.move at h
  split at h
  · exact severe_of_readMove h
  · cases h
    refine ⟨List.cons_ne_nil _ _, fun p hp => ?_⟩
    rw [List.mem_singleton.1 hp]
    rfl

/-! ## Lists of moves -/

theorem Separated.notMem_slot {s : List Char} {slots : List (Option Parameter)}
    (h : Separated ',' Parameter.Slot s slots) {d : Char} (hd : d ∈ [';', '(', ')']) : d ∉ s := by
  obtain ⟨parts, -, rfl, hf⟩ := h
  have hparts : ∀ p ∈ parts, d ∉ p :=
    forall_mem_of_forall₂ (fun _ _ h => h.notMem (List.mem_cons_of_mem _ hd)) hf
  intro hm
  rcases mem_intercalate hm with rfl | ⟨p, hp, hmem⟩
  · exact absurd hd (by decide)
  · exact hparts p hp hmem

theorem Axis.letter_plain (a : Axis) : a.letter ≠ '(' ∧ a.letter ≠ ')' ∧ a.letter ≠ ',' := by
  cases a <;> decide

theorem Blank.plain {s : List Char} (h : Blank s) : ∀ c ∈ s, c ≠ '(' ∧ c ≠ ')' ∧ c ≠ ',' := by
  intro c hc
  have hb := h c hc
  refine ⟨?_, ?_, ?_⟩ <;> rintro rfl <;> exact absurd hb (by decide)

theorem Move.Written.closed {s : List Char} {m : Move} (h : m.Written s) : Closed ',' s := by
  cases h with
  | @intro axis s inner slots henc hsep hne =>
    obtain ⟨ws, hws, rfl⟩ := henc
    have hletter : Closed ',' [axis.letter] :=
      closed_of_plain (by simpa using axis.letter_plain)
    have hinner : Closed ',' ('(' :: (inner ++ [')'])) := by
      refine closed_parentheses fun c hc => ⟨?_, ?_⟩ <;> rintro rfl
      · exact hsep.notMem_slot (by decide) hc
      · exact hsep.notMem_slot (by decide) hc
    exact hletter.append ((closed_of_plain hws.plain).append hinner)

theorem Move.Written.trimmed {s : List Char} {m : Move} (h : m.Written s) : Trimmed s := by
  cases h with
  | @intro axis s inner slots henc hsep hne =>
    obtain ⟨ws, hws, rfl⟩ := henc
    constructor
    · intro c hc
      cases hc
      cases axis <;> rfl
    · intro c hc
      have : ([axis.letter] ++ (ws ++ '(' :: (inner ++ [')']))).getLast? = some ')' := by
        rw [← List.cons_append, ← List.append_assoc, ← List.append_assoc, List.getLast?_concat]
      rw [this] at hc
      cases hc
      rfl

theorem padded_written_iff {s : List Char} {m : Move} :
    (∃ t, Padded s t ∧ m.Written t) ↔ m.Written (trim s) := by
  constructor
  · rintro ⟨t, hp, hw⟩
    rwa [trim_of_padded hp hw.trimmed]
  · intro h
    exact ⟨_, padded_trim s, h⟩

theorem padded_written_closed {s : List Char} {m : Move} (h : ∃ t, Padded s t ∧ m.Written t) :
    Closed ',' s := by
  obtain ⟨t, ⟨b, e, hb, he, rfl⟩, hw⟩ := h
  exact (closed_of_plain hb.plain).append (hw.closed.append (closed_of_plain he.plain))

theorem mapM_eq_some {α β : Type} {f : α → Option β} {l : List α} {bs : List β} :
    l.mapM f = some bs ↔ List.Forall₂ (fun a b => f a = some b) l bs := by
  induction l generalizing bs with
  | nil =>
    rw [List.forall₂_nil_left_iff, List.mapM_nil]
    exact ⟨fun h => (Option.some.inj h).symm, fun h => congrArg some h.symm⟩
  | cons a l ih =>
    rw [List.forall₂_cons_left_iff, List.mapM_cons]
    simp only [Option.bind_eq_bind, Option.bind_eq_some_iff, Option.pure_def, Option.some.injEq, ih]
    constructor
    · rintro ⟨b, hb, bs, hbs, rfl⟩
      exact ⟨b, bs, hb, hbs, rfl⟩
    · rintro ⟨b, bs, hb, hbs, rfl⟩
      exact ⟨b, hb, bs, hbs, rfl⟩

theorem problemsOf_eq_nil {call : AxisCall} :
    problemsOf call.move = [] ↔ ∃ m, call.move = .ok m := by
  cases h : call.move with
  | ok m => simp [problemsOf]
  | error ps => simpa [problemsOf] using (severe_of_move h).1

theorem readMoves_ok_iff {calls : List AxisCall} {ms : List Move} :
    readMoves calls = .ok ms ↔
      List.Forall₂ (fun call m => AxisCall.move call = .ok m) calls ms := by
  -- The moves are those of the single commands, as soon as none of these has a problem.
  have key : ∀ calls ms, List.Forall₂ (fun call m => AxisCall.move call = .ok m) calls ms ↔
      (calls.map AxisCall.move).flatMap problemsOf = [] ∧
        (calls.map AxisCall.move).filterMap Except.toOption = ms := by
    intro calls
    induction calls with
    | nil =>
      intro ms
      rw [List.forall₂_nil_left_iff]
      exact ⟨fun h => ⟨rfl, h.symm⟩, fun h => h.2.symm⟩
    | cons call calls ih =>
      intro ms
      rw [List.forall₂_cons_left_iff]
      simp only [ih, List.map_cons, List.flatMap_cons, List.append_eq_nil_iff, problemsOf_eq_nil]
      constructor
      · rintro ⟨m, ms, hm, ⟨hnil, rfl⟩, rfl⟩
        exact ⟨⟨⟨m, hm⟩, hnil⟩, by rw [List.filterMap_cons, hm]; rfl⟩
      · rintro ⟨⟨⟨m, hm⟩, hnil⟩, rfl⟩
        exact ⟨m, _, hm, ⟨hnil, rfl⟩, by rw [List.filterMap_cons, hm]; rfl⟩
  rw [key, readMoves]
  simp only [List.isEmpty_iff]
  split_ifs with h
  · simp [h]
  · simp [h]

/-- A list of axis commands is read as the moves that it writes. -/
theorem readMoves_eq_ok {s : List Char} {ms : List Move} :
    (∃ calls, axisCalls? s = some calls ∧ readMoves calls = .ok ms) ↔ Moves.Written s ms := by
  rw [Moves.Written, separated_iff_splitOutside (by decide) (by decide)
    fun _ _ => padded_written_closed]
  simp only [padded_written_iff]
  simp only [← move_eq_ok, axisCalls?, mapM_eq_some, readMoves_ok_iff, List.forall₂_map_left_iff]
  generalize splitOutside ',' s = parts
  constructor
  · rintro ⟨calls, hc, hm⟩
    induction hc generalizing ms with
    | nil =>
      rw [List.forall₂_nil_left_iff] at hm
      exact hm ▸ .nil
    | cons hp _ ih =>
      obtain ⟨m, ms, hmove, hmoves, rfl⟩ := List.forall₂_cons_left_iff.1 hm
      exact .cons ⟨_, hp, hmove⟩ (ih hmoves)
  · intro h
    induction h with
    | nil => exact ⟨[], .nil, .nil⟩
    | cons hp _ ih =>
      obtain ⟨call, hc, hm⟩ := hp
      obtain ⟨calls, hcs, hms⟩ := ih
      exact ⟨call :: calls, .cons hc hcs, .cons hm hms⟩

theorem severe_of_readMoves {calls : List AxisCall} {ps : List Problem}
    (h : readMoves calls = .error ps) : Severe ps := by
  unfold readMoves at h
  simp only [List.isEmpty_iff] at h
  split_ifs at h with hne
  cases h
  refine ⟨hne, fun p hp => ?_⟩
  obtain ⟨r, hr, hp⟩ := List.mem_flatMap.1 hp
  obtain ⟨call, -, rfl⟩ := List.mem_map.1 hr
  cases hm : call.move with
  | ok m =>
    rw [hm] at hp
    cases hp
  | error qs =>
    rw [hm] at hp
    exact (severe_of_move hm).2 p hp

end MotionScript
