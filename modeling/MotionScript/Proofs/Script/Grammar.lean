import MotionScript.Proofs.Script.MoveGrammar
import MotionScript.Script.Program

/-!
# The statement grammar

* `Instruction.Written`: how each kind of statement is written.
* `enclosed?_eq_some`, `named?_eq_some`: what stands between the parentheses after a keyword.
* `read_eq_ok`: an instruction is read exactly from the texts that write it.
* `unrecognized_or_severe`: what is not read is reported, with one warning or with errors.
* `Accepts`, **`ofStatement_accepts`**: a statement is accepted exactly if the grammar has it and
  its estimate fits a word.
* `longestDelay_not_accepts`: a move that the grammar has, with an estimate that does not fit.
-/

namespace MotionScript

/-- How an instruction is written. -/
inductive Instruction.Written : List Char → Instruction → Prop where
  | group {s inner : List Char} {ms : List Move} :
    Enclosed groupKeyword inner s → Moves.Written inner ms → Written s (.group ms)
  | speed {s t : List Char} {v : Nat} :
    Padded s t → Unsigned t v → v ≤ word32Max → Written (speedKeyword ++ ';' :: s) (.speed none v)
  | axisSpeed {a s t : List Char} {axis : Axis} {v : Nat} :
    Padded a [axis.letter] → Padded s t → Unsigned t v → v ≤ word32Max →
    Written (speedKeyword ++ ';' :: (a ++ ';' :: s)) (.speed (some axis) v)
  | system (w : SystemWord) : Written w.text.toList (.system w)
  | sync {s inner t : List Char} {v : Nat} :
    Enclosed setKeyword inner s → Padded inner t → Unsigned t v → v ≤ byteMax → Written s (.sync v)
  | wait : Written waitWord .wait
  | detect : Written detectWord .detect
  | call {s inner name : List Char} :
    Enclosed callKeyword inner s → Padded inner name → Trimmed name → name ≠ [] →
    (∀ c ∈ name, isParenthesis c = false) → Written s (.call (String.ofList name))
  | movement {s : List Char} {ms : List Move} : Moves.Written s ms → Written s (.movement ms)

/-- The estimate for an instruction is a 64-bit word. -/
def Instruction.EstimateFits (i : Instruction) : Prop := i.estimate ≤ word64Max

instance (i : Instruction) : Decidable i.EstimateFits := inferInstanceAs (Decidable (_ ≤ _))

/-- What becomes of a statement at a line, if of the instructions that are written some fit. -/
structure Accepts (Fits : Instruction → Prop) (s : List Char) (line : Nat) : Prop where
  /-- It is a command exactly if the grammar has it with an instruction that fits. -/
  command : ∀ c, Command.ofStatement s line = .ok (.ok c) ↔
    ∃ i : Instruction, i.Written s ∧ Fits i ∧ c = ⟨i, String.ofList s, line, i.estimate, []⟩
  /-- With an instruction that does not fit there is neither a command nor a report. -/
  overflow : ∀ operation, Command.ofStatement s line = .error operation ↔
    operation = .addition ∧ ∃ i : Instruction, i.Written s ∧ ¬ Fits i
  /-- The grammar has it in one way at most. -/
  unique : ∀ i j : Instruction, i.Written s → j.Written s → i = j
  /-- It is refused exactly if the grammar does not have it. -/
  outside : (∃ ps, Command.ofStatement s line = .ok (.error ps)) ↔
    ∀ i : Instruction, ¬ i.Written s
  silent : ∀ r, Command.ofStatement s line = .ok r → (problemsOf r = [] ↔ ∃ c, r = .ok c)
  /-- What is refused is reported, with one warning that shows it or with errors. -/
  refused : ∀ ps, Command.ofStatement s line = .ok (.error ps) →
    ps = [.unrecognized (String.ofList s)] ∨ Severe ps

/-! ## Keywords -/

section Keywords

variable {keyword s inner : List Char}

theorem enclosed?_eq_some : enclosed? keyword s = some inner ↔ Enclosed keyword inner s := by
  unfold enclosed?
  constructor
  · intro h
    split_ifs at h with hp
    obtain ⟨r, rfl⟩ := List.isPrefixOf_iff_prefix.1 hp
    rw [List.drop_left] at h
    obtain ⟨ws, hws, rfl⟩ := parenthesized?_eq_some.1 h
    exact ⟨ws, hws, rfl⟩
  · rintro ⟨ws, hws, rfl⟩
    rw [if_pos (List.isPrefixOf_iff_prefix.2 (List.prefix_append ..)), List.drop_left]
    exact parenthesized?_eq_some.2 ⟨ws, hws, rfl⟩

theorem enclosed?_eq_none (h : ¬ keyword <+: s) : enclosed? keyword s = none := by
  rw [enclosed?, if_neg]
  rwa [List.isPrefixOf_iff_prefix]

theorem named?_eq_none (h : ¬ keyword <+: s) : named? keyword s = none := by
  rw [named?, enclosed?_eq_none h]

-- A parenthesis is no blank, so that the text has one exactly if the name in it has one.
theorem any_isParenthesis_of_padded {name : List Char} (h : Padded inner name) :
    inner.any isParenthesis = name.any isParenthesis := by
  obtain ⟨b, e, hb, he, rfl⟩ := h
  have hblank : ∀ {s : List Char}, Blank s → s.any isParenthesis = false := by
    intro s hs
    rw [List.any_eq_false]
    intro c hc
    obtain ⟨h₁, h₂, -⟩ := hs.plain c hc
    simp [isParenthesis, h₁, h₂]
  simp [List.any_append, hblank hb, hblank he]

theorem named?_eq_some {name : List Char} : named? keyword s = some name ↔
    ∃ inner, Enclosed keyword inner s ∧ Padded inner name ∧ Trimmed name ∧
      ∀ c ∈ name, isParenthesis c = false := by
  have hname : ∀ inner, inner.any isParenthesis = false ∧ trim inner = name ↔
      Padded inner name ∧ Trimmed name ∧ ∀ c ∈ name, isParenthesis c = false := by
    intro inner
    rw [trim_eq_iff]
    constructor
    · rintro ⟨hany, hp, ht⟩
      rw [any_isParenthesis_of_padded hp, List.any_eq_false] at hany
      exact ⟨hp, ht, fun c hc => by simpa using hany c hc⟩
    · rintro ⟨hp, ht, hall⟩
      refine ⟨?_, hp, ht⟩
      rw [any_isParenthesis_of_padded hp, List.any_eq_false]
      exact fun c hc => by simpa using hall c hc
  simp only [← enclosed?_eq_some, ← hname]
  unfold named?
  cases enclosed? keyword s with
  | none => simp
  | some inner =>
    cases hany : inner.any isParenthesis with
    | true => simp only [hany, Option.some.injEq, exists_eq_left', if_true, reduceCtorEq, false_and]
    | false =>
      simp only [hany, Option.some.injEq, exists_eq_left', Bool.false_eq_true, if_false, true_and]

theorem Enclosed.starts (h : Enclosed keyword inner s) : keyword <+: s := by
  obtain ⟨ws, -, rfl⟩ := h
  exact List.prefix_append ..

/-- Of two keywords of which none begins with the other a text begins with one at most. -/
theorem not_starts_of_starts {k l : List Char} (hs : k <+: s) (hkl : ¬ k <+: l)
    (hlk : ¬ l <+: k) : ¬ l <+: s := by
  intro h
  rcases List.prefix_or_prefix_of_prefix hs h with h | h
  · exact hkl h
  · exact hlk h

theorem ofText?_eq_none (h : ∀ w : SystemWord, ¬ w.text.toList <+: s) :
    SystemWord.ofText? s = none := by
  refine Option.eq_none_iff_forall_ne_some.2 fun w hw => h w ?_
  exact SystemWord.ofText?_eq_some.1 hw ▸ List.prefix_refl _

theorem isSpeedStatement_iff :
    isSpeedStatement s ↔ s = speedKeyword ∨ ∃ r, s = speedKeyword ++ ';' :: r := by
  rw [isSpeedStatement, Bool.or_eq_true, decide_eq_true_iff, List.isPrefixOf_iff_prefix]
  refine or_congr Iff.rfl ⟨?_, ?_⟩
  · rintro ⟨r, rfl⟩
    exact ⟨r, by simp⟩
  · rintro ⟨r, rfl⟩
    exact ⟨r, by simp⟩

theorem isSpeedStatement_eq_false (h : ¬ speedKeyword <+: s) : isSpeedStatement s = false := by
  rw [← Bool.not_eq_true, isSpeedStatement_iff]
  rintro (rfl | ⟨r, rfl⟩)
  · exact h (List.prefix_refl _)
  · exact h (List.prefix_append ..)

end Keywords

/-! ## The kinds of statements -/

section Kinds

variable {s : List Char} {i : Instruction}

theorem map_eq_ok {ε α β : Type} {r : Except ε α} {f : α → β} {b : β} :
    r.map f = .ok b ↔ ∃ a, r = .ok a ∧ b = f a := by
  cases r <;> simp [Except.map, eq_comm]

theorem match_axisCalls_eq_ok {f : List Move → Instruction} {ps : List Problem} :
    (match axisCalls? s with
      | some calls => (readMoves calls).map f
      | none => .error ps) = .ok i ↔ ∃ ms, Moves.Written s ms ∧ i = f ms := by
  simp only [← readMoves_eq_ok]
  cases axisCalls? s with
  | none => simp
  | some calls => simp [map_eq_ok]

theorem readGroup_eq_ok : readGroup s = .ok i ↔ ∃ ms, Moves.Written s ms ∧ i = .group ms :=
  match_axisCalls_eq_ok

theorem readMovement_eq_ok :
    readMovement s = .ok i ↔ ∃ ms, Moves.Written s ms ∧ i = .movement ms :=
  match_axisCalls_eq_ok

theorem readSpeedValue_eq_ok {axis : Option Axis} :
    readSpeedValue axis s = .ok i ↔ ∃ v, Unsigned s v ∧ v ≤ word32Max ∧ i = .speed axis v := by
  simp only [← and_assoc, ← readNat_eq_some]
  unfold readSpeedValue
  cases readNat word32Max s <;> simp [eq_comm]

theorem readSignal_eq_ok :
    readSignal s = .ok i ↔ ∃ v, Unsigned s v ∧ v ≤ byteMax ∧ i = .sync v := by
  simp only [← and_assoc, ← readNat_eq_some]
  unfold readSignal
  cases readNat byteMax s <;> simp [eq_comm]

theorem splitOn_speed (r : List Char) :
    splitOn ';' (speedKeyword ++ ';' :: r) = speedKeyword :: splitOn ';' r := by
  simp [speedKeyword, splitOn_cons, consLine]

theorem Unsigned.trimmed {t : List Char} {v : Nat} (h : Unsigned t v) : Trimmed t :=
  trimmed_of_forall fun c hc => (h.isNumeric c hc).isBlank_eq

theorem Unsigned.semicolon_notMem {t : List Char} {v : Nat} (h : Unsigned t v) : ';' ∉ t :=
  fun hm => (h.isNumeric _ hm).ne (by decide) rfl

theorem Unsigned.not_isParenthesis {t : List Char} {v : Nat} (h : Unsigned t v) :
    ∀ c ∈ t, isParenthesis c = false := by
  intro c hc
  have hn := h.isNumeric c hc
  have h₁ : c ≠ '(' := hn.ne (by decide)
  have h₂ : c ≠ ')' := hn.ne (by decide)
  simp [isParenthesis, h₁, h₂]

theorem trimmed_letter (a : Axis) : Trimmed [a.letter] :=
  trimmed_of_forall fun c hc => by
    rw [List.mem_singleton.1 hc]
    cases a <;> rfl

theorem readSpeed_keyword : readSpeed speedKeyword =
    .error [.malformedSpeed (String.ofList speedKeyword)] := rfl

theorem written_of_readSpeed (hs : isSpeedStatement s) (h : readSpeed s = .ok i) : i.Written s := by
  obtain rfl | ⟨r, rfl⟩ := isSpeedStatement_iff.1 hs
  · rw [readSpeed_keyword] at h
    cases h
  · unfold readSpeed at h
    rw [splitOn_speed] at h
    -- The cases are those of the number of fields after the keyword.
    rcases hr : splitOn ';' r with _ | ⟨p, _ | ⟨q, _ | ⟨x, ps⟩⟩⟩ <;> rw [hr] at h
    · exact absurd hr (splitOn_ne_nil ';' r)
    · obtain ⟨-, rfl, -⟩ := splitOn_eq_iff.1 hr
      obtain ⟨v, hv, hle, rfl⟩ := readSpeedValue_eq_ok.1 h
      rw [List.intercalate_singleton]
      exact .speed (padded_trim p) hv hle
    · obtain ⟨-, rfl, -⟩ := splitOn_eq_iff.1 hr
      simp only [List.map_cons, List.map_nil] at h
      split at h
      · next a ha =>
        obtain ⟨v, hv, hle, rfl⟩ := readSpeedValue_eq_ok.1 h
        rw [List.intercalate_cons_cons, List.intercalate_singleton, List.append_assoc]
        refine .axisSpeed ?_ (padded_trim q) hv hle
        rw [← Axis.ofName?_eq_some.1 ha]
        exact padded_trim p
      · cases h
    · cases h

theorem readSpeed_speed {t : List Char} {v : Nat} (hp : Padded s t) (hv : Unsigned t v)
    (hle : v ≤ word32Max) : readSpeed (speedKeyword ++ ';' :: s) = .ok (.speed none v) := by
  have hs : ';' ∉ s := hp.notMem rfl hv.semicolon_notMem
  have hsplit : splitOn ';' s = [s] := splitOn_eq_iff.2 (by simpa using hs)
  unfold readSpeed
  rw [splitOn_speed, hsplit]
  exact readSpeedValue_eq_ok.2 ⟨v, by rwa [trim_of_padded hp hv.trimmed], hle, rfl⟩

theorem readSpeed_axisSpeed {a t : List Char} {axis : Axis} {v : Nat}
    (ha : Padded a [axis.letter]) (hp : Padded s t) (hv : Unsigned t v) (hle : v ≤ word32Max) :
    readSpeed (speedKeyword ++ ';' :: (a ++ ';' :: s)) = .ok (.speed (some axis) v) := by
  have hs : ';' ∉ s := hp.notMem rfl hv.semicolon_notMem
  have hna : ';' ∉ a := ha.notMem rfl (by cases axis <;> decide)
  have hsplit : splitOn ';' (a ++ ';' :: s) = [a, s] :=
    splitOn_eq_iff.2 ⟨by simp, by simp [List.intercalate_cons_cons], by simp [hna, hs]⟩
  unfold readSpeed
  rw [splitOn_speed, hsplit]
  simp only [List.map_cons, List.map_nil, trim_of_padded ha (trimmed_letter axis),
    Axis.ofName?_letter]
  exact readSpeedValue_eq_ok.2 ⟨v, by rwa [trim_of_padded hp hv.trimmed], hle, rfl⟩

end Kinds

/-! ## All statements -/

section Statements

variable {s : List Char} {i : Instruction}

theorem written_of_read (h : Instruction.read s = .ok i) : i.Written s := by
  unfold Instruction.read at h
  split at h
  · next inner henc =>
    obtain ⟨ms, hms, rfl⟩ := readGroup_eq_ok.1 h
    exact .group (enclosed?_eq_some.1 henc) hms
  · split at h
    · next hspeed => exact written_of_readSpeed hspeed h
    · split at h
      · next w hw =>
        cases h
        rw [SystemWord.ofText?_eq_some.1 hw]
        exact .system w
      · split at h
        · next value hvalue =>
          obtain ⟨inner, henc, hp, -, -⟩ := named?_eq_some.1 hvalue
          obtain ⟨v, hv, hle, rfl⟩ := readSignal_eq_ok.1 h
          exact .sync henc hp hv hle
        · split_ifs at h with hwait hdetect
          · cases h
            exact hwait ▸ .wait
          · cases h
            exact hdetect ▸ .detect
          · split at h
            · next name hname =>
              obtain ⟨inner, henc, hp, ht, hall⟩ := named?_eq_some.1 hname
              unfold readCall at h
              split_ifs at h with hne
              cases h
              exact .call henc hp ht (by simpa using hne) hall
            · obtain ⟨ms, hms, rfl⟩ := readMovement_eq_ok.1 h
              exact .movement hms

/-- The beginning of a list of moves: a blank, or the letter of an axis before a blank or a
parenthesis. So it begins with none of the keywords. -/
theorem Moves.Written.not_starts {ms : List Move} (h : Moves.Written s ms) {a b : Char}
    {k : List Char} (ha : isBlank a = false) (hb : isBlank b = false) (hp : b ≠ '(') :
    ¬ a :: b :: k <+: s := by
  obtain ⟨p, m, rest, ⟨t, ⟨bl, e, hbl, -, rfl⟩, hw⟩, rfl⟩ := Separated.head h
  rintro ⟨r, hr⟩
  cases bl with
  | cons c bl =>
    obtain ⟨rfl, -⟩ := List.cons.inj hr
    exact absurd (hbl a (List.mem_cons_self ..)) (by simp [ha])
  | nil =>
    cases hw with
    | intro henc _ _ =>
      obtain ⟨ws, hws, rfl⟩ := henc
      cases ws with
      | nil =>
        obtain ⟨-, hr⟩ := List.cons.inj hr
        exact hp (List.cons.inj hr).1
      | cons w ws =>
        obtain ⟨-, hr⟩ := List.cons.inj hr
        obtain ⟨rfl, -⟩ := List.cons.inj hr
        exact absurd (hws b (List.mem_cons_self ..)) (by simp [hb])

/-- Of the keywords before the one that a text begins with none is taken for its own. -/
theorem ofText?_eq_none_of_prefix {k : List Char} (hs : k <+: s)
    (hk : k = setKeyword ∨ k = callKeyword) : SystemWord.ofText? s = none := by
  refine ofText?_eq_none fun w => not_starts_of_starts hs ?_ ?_ <;>
    rcases hk with rfl | rfl <;> cases w <;> decide

theorem Moves.Written.not_keyword {ms : List Move} (h : Moves.Written s ms) {k : List Char}
    (hk : k ∈ [groupKeyword, speedKeyword, setKeyword, callKeyword, waitWord, detectWord]) :
    ¬ k <+: s := by
  simp only [List.mem_cons, List.not_mem_nil, or_false] at hk
  rcases hk with rfl | rfl | rfl | rfl | rfl | rfl <;> exact h.not_starts rfl rfl (by decide)

theorem Moves.Written.ofText?_eq_none {ms : List Move} (h : Moves.Written s ms) :
    SystemWord.ofText? s = none := by
  refine MotionScript.ofText?_eq_none fun w => ?_
  cases w <;> exact h.not_starts rfl rfl (by decide)

theorem read_sync {inner t : List Char} {v : Nat} (henc : Enclosed setKeyword inner s)
    (hp : Padded inner t) (hv : Unsigned t v) (hle : v ≤ byteMax) :
    Instruction.read s = .ok (.sync v) := by
  have hs := henc.starts
  have hname := named?_eq_some.2 ⟨_, henc, hp, hv.trimmed, hv.not_isParenthesis⟩
  unfold Instruction.read
  rw [enclosed?_eq_none (not_starts_of_starts hs (by decide) (by decide)),
    isSpeedStatement_eq_false (not_starts_of_starts hs (by decide) (by decide)),
    ofText?_eq_none_of_prefix hs (.inl rfl)]
  simp only [hname, Bool.false_eq_true, if_false]
  exact readSignal_eq_ok.2 ⟨_, hv, hle, rfl⟩

theorem read_call {inner name : List Char} (henc : Enclosed callKeyword inner s)
    (hp : Padded inner name) (ht : Trimmed name) (hne : name ≠ [])
    (hall : ∀ c ∈ name, isParenthesis c = false) :
    Instruction.read s = .ok (.call (String.ofList name)) := by
  have hs := henc.starts
  have hname := named?_eq_some.2 ⟨_, henc, hp, ht, hall⟩
  have hword : ∀ {w}, ¬ callKeyword <+: w → s ≠ w := by
    rintro w hw rfl
    exact hw hs
  unfold Instruction.read
  rw [enclosed?_eq_none (not_starts_of_starts hs (by decide) (by decide)),
    isSpeedStatement_eq_false (not_starts_of_starts hs (by decide) (by decide)),
    ofText?_eq_none_of_prefix hs (.inr rfl),
    named?_eq_none (not_starts_of_starts hs (by decide) (by decide))]
  simp only [hname, if_neg (hword (w := waitWord) (by decide)),
    if_neg (hword (w := detectWord) (by decide)), Bool.false_eq_true, if_false]
  rw [readCall, if_neg (by simpa using hne)]

theorem read_movement {ms : List Move} (hms : Moves.Written s ms) :
    Instruction.read s = .ok (.movement ms) := by
  have hwait : s ≠ waitWord := by
    rintro rfl
    exact hms.not_keyword (by decide) (List.prefix_refl _)
  have hdetect : s ≠ detectWord := by
    rintro rfl
    exact hms.not_keyword (by decide) (List.prefix_refl _)
  unfold Instruction.read
  rw [enclosed?_eq_none (hms.not_keyword (by decide)),
    isSpeedStatement_eq_false (hms.not_keyword (by decide)), hms.ofText?_eq_none,
    named?_eq_none (hms.not_keyword (by decide)), named?_eq_none (hms.not_keyword (by decide))]
  simp only [Bool.false_eq_true, if_neg hwait, if_neg hdetect, if_false]
  exact readMovement_eq_ok.2 ⟨_, hms, rfl⟩

theorem read_of_written (h : i.Written s) : Instruction.read s = .ok i := by
  cases h with
  | group henc hms =>
    rw [Instruction.read, enclosed?_eq_some.2 henc]
    exact readGroup_eq_ok.2 ⟨_, hms, rfl⟩
  | speed hp hv hle =>
    rw [Instruction.read,
      enclosed?_eq_none (not_starts_of_starts (List.prefix_append ..) (by decide) (by decide))]
    simp only [isSpeedStatement_iff.2 (.inr ⟨_, rfl⟩), if_true]
    exact readSpeed_speed hp hv hle
  | axisSpeed ha hp hv hle =>
    rw [Instruction.read,
      enclosed?_eq_none (not_starts_of_starts (List.prefix_append ..) (by decide) (by decide))]
    simp only [isSpeedStatement_iff.2 (.inr ⟨_, rfl⟩), if_true]
    exact readSpeed_axisSpeed ha hp hv hle
  | system w => cases w <;> rfl
  | wait => rfl
  | detect => rfl
  | sync henc hp hv hle => exact read_sync henc hp hv hle
  | call henc hp ht hne hall => exact read_call henc hp ht hne hall
  | movement hms => exact read_movement hms

/-- An instruction is read exactly from the texts that write it. -/
theorem read_eq_ok : Instruction.read s = .ok i ↔ i.Written s :=
  ⟨written_of_read, read_of_written⟩

theorem severe_singleton {p : Problem} (h : p.severity = .error) : Severe [p] :=
  ⟨List.cons_ne_nil _ _, fun q hq => by rwa [List.mem_singleton.1 hq]⟩

theorem severe_of_readSpeedValue {axis : Option Axis} {ps : List Problem}
    (h : readSpeedValue axis s = .error ps) : Severe ps := by
  unfold readSpeedValue at h
  split at h
  · cases h
  · cases h
    exact severe_singleton rfl

theorem severe_of_readSpeed {ps : List Problem} (h : readSpeed s = .error ps) : Severe ps := by
  unfold readSpeed at h
  split at h
  · exact severe_of_readSpeedValue h
  · split at h
    · exact severe_of_readSpeedValue h
    · cases h
      exact severe_singleton rfl
  · cases h
    exact severe_singleton rfl

theorem map_eq_error {ε α β : Type} {r : Except ε α} {f : α → β} {e : ε} :
    r.map f = .error e ↔ r = .error e := by
  cases r <;> simp [Except.map]

theorem unrecognized_or_severe {ps : List Problem} (h : Instruction.read s = .error ps) :
    ps = [.unrecognized (String.ofList s)] ∨ Severe ps := by
  unfold Instruction.read at h
  split at h
  · right
    unfold readGroup at h
    split at h
    · exact severe_of_readMoves (map_eq_error.1 h)
    · cases h
      exact severe_singleton rfl
  · split at h
    · exact .inr (severe_of_readSpeed h)
    · split at h
      · cases h
      · split at h
        · right
          unfold readSignal at h
          split at h
          · cases h
          · cases h
            exact severe_singleton rfl
        · split_ifs at h
          split at h
          · right
            unfold readCall at h
            split_ifs at h
            cases h
            exact severe_singleton rfl
          · unfold readMovement at h
            split at h
            · exact .inr (severe_of_readMoves (map_eq_error.1 h))
            · cases h
              exact .inl rfl

theorem Instruction.Written.unique {j : Instruction} (hi : i.Written s) (hj : j.Written s) :
    i = j := by
  have h : Except.ok i = Except.ok j := (read_eq_ok.2 hi).symm.trans (read_eq_ok.2 hj)
  exact Except.ok.inj h

section Outcomes

variable {line : Nat}

theorem Command.ofStatement_of_fits (h : Instruction.read s = .ok i) : ofStatement s line =
    if i.EstimateFits then .ok (.ok ⟨i, String.ofList s, line, i.estimate, []⟩)
    else .error .addition :=
  ofStatement_of_read h line

theorem ofStatement_eq_command {c : Command} : Command.ofStatement s line = .ok (.ok c) ↔
    ∃ i : Instruction, i.Written s ∧ i.EstimateFits ∧
      c = ⟨i, String.ofList s, line, i.estimate, []⟩ := by
  simp only [← read_eq_ok]
  cases hread : Instruction.read s with
  | error ps => simp [Command.ofStatement_of_error hread]
  | ok i =>
    rw [Command.ofStatement_of_fits hread]
    by_cases hfit : i.EstimateFits <;> simp [hfit, eq_comm]

theorem ofStatement_eq_overflow {operation : Overflow} :
    Command.ofStatement s line = .error operation ↔
      operation = .addition ∧ ∃ i : Instruction, i.Written s ∧ ¬ i.EstimateFits := by
  simp only [← read_eq_ok]
  cases hread : Instruction.read s with
  | error ps => simp [Command.ofStatement_of_error hread]
  | ok i =>
    rw [Command.ofStatement_of_fits hread]
    by_cases hfit : i.EstimateFits <;> simp [hfit, eq_comm]

theorem ofStatement_eq_refused {ps : List Problem} :
    Command.ofStatement s line = .ok (.error ps) ↔ Instruction.read s = .error ps := by
  cases hread : Instruction.read s with
  | error ps => simp [Command.ofStatement_of_error hread]
  | ok i =>
    rw [Command.ofStatement_of_read hread]
    split <;> simp

theorem problems_ne_nil_of_read {ps : List Problem} (h : Instruction.read s = .error ps) :
    ps ≠ [] := by
  rcases unrecognized_or_severe h with rfl | hs
  · exact List.cons_ne_nil _ _
  · exact hs.1

theorem accepts_fits (s : List Char) (line : Nat) : Accepts Instruction.EstimateFits s line where
  command _ := ofStatement_eq_command
  overflow _ := ofStatement_eq_overflow
  unique _ _ := Instruction.Written.unique
  outside := by
    simp only [ofStatement_eq_refused, ← read_eq_ok]
    cases Instruction.read s <;> simp
  silent r hr := by
    cases r with
    | ok c => simp [problemsOf]
    | error ps => simpa [problemsOf] using problems_ne_nil_of_read (ofStatement_eq_refused.1 hr)
  refused _ hps := unrecognized_or_severe (ofStatement_eq_refused.1 hps)

end Outcomes

/-- **A statement is accepted exactly if the grammar has it and its estimate fits.** What the
grammar has is accepted whatever the estimate if and only if there is no estimate that does not
fit. -/
theorem ofStatement_accepts (s : List Char) (line : Nat) :
    Accepts Instruction.EstimateFits s line ∧
      (Accepts (fun _ => True) s line ↔ ∀ i : Instruction, i.Written s → i.EstimateFits) := by
  have h := accepts_fits s line
  refine ⟨h, fun hall i hi => ?_, fun hfits => ?_⟩
  · obtain ⟨j, hj, hfit, -⟩ := (h.command _).1 ((hall.command _).2 ⟨i, hi, trivial, rfl⟩)
    exact hi.unique hj ▸ hfit
  · have htrue {i : Instruction} (hi : i.Written s) : True ↔ i.EstimateFits :=
      iff_of_true trivial (hfits i hi)
    exact
      { h with
        command c := (h.command c).trans
          (exists_congr fun i => and_congr_right fun hi => by rw [htrue hi])
        overflow o := (h.overflow o).trans <| and_congr_right fun _ =>
          exists_congr fun i => and_congr_right fun hi => by rw [htrue hi] }

/-- A move of X with the longest delay there is. -/
def longestDelay : Move := ⟨.x, [1], [word64Max], []⟩

/-- The grammar has it, but it is no command. -/
theorem longestDelay_not_accepts :
    (Instruction.movement [longestDelay]).Written "X(1,d18446744073709551615)".toList ∧
    Command.ofStatement "X(1,d18446744073709551615)".toList 1 = .error .addition ∧
    ¬ Accepts (fun _ => True) "X(1,d18446744073709551615)".toList 1 := by
  have hread : Instruction.read "X(1,d18446744073709551615)".toList =
      .ok (.movement [longestDelay]) := by
    rfl
  have hwritten := read_eq_ok.1 hread
  have hoverflow : Command.ofStatement "X(1,d18446744073709551615)".toList 1 = .error .addition :=
    ofStatement_eq_overflow.2 ⟨rfl, _, hwritten, by decide⟩
  refine ⟨hwritten, hoverflow, fun h => ?_⟩
  obtain ⟨-, i, -, hi⟩ := (h.overflow .addition).1 hoverflow
  exact hi trivial

end Statements

end MotionScript
