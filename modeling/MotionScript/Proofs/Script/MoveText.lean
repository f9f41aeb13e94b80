import MotionScript.Proofs.Script.Limits
import MotionScript.Proofs.Script.Normal

/-!
# Moves are read as they are printed

* `Parameter.text`, `Move.parameters`: what a move is printed from, leg by leg.
* `Move.Parallel`, `Move.Printable`: no more delays or speeds than positions; besides, a position at
  least and numbers that fit their words.
* `Instruction.printed?`: the text of a movement or a group. `Instruction.written_printed`: the
  grammar of statements takes it for the instruction it is printed from.
* `Instruction.sound_printed`: no character of it ends a statement or a line, and its parentheses
  match, so it is read as one statement.
* `compile_printed`: what it is compiled to by itself.
-/

namespace MotionScript

/-! ## Parameters -/

namespace Parameter

/-- A parameter as it is printed. -/
def text : Parameter → List Char
  | target p => (toString p).toList
  | delay d => 'd' :: (toString d).toList
  | speed v => 's' :: (toString v).toList

/-- The number of the parameter fits its word. -/
def InRange : Parameter → Prop
  | target p => InInt64 p
  | delay d => d ≤ word64Max
  | speed v => v ≤ word32Max

theorem digits_toString (n : Nat) : Digits (toString n).toList n where
  ne_nil := by simp [Nat.toDigits_ne_nil]
  isDigit c hc := by
    rw [Nat.toString_eq_repr, Nat.toList_repr] at hc
    exact Nat.isDigit_of_mem_toDigits (by decide) (by decide) hc
  value := by simp [Nat.ofDigitChars_ten_toDigits]

theorem toList_toString_negSucc (n : Nat) :
    (toString (Int.negSucc n)).toList = '-' :: (toString (n + 1)).toList := by
  simp [Int.toString_eq_repr, Int.repr]

theorem signed_toString (p : Int) : Signed (toString p).toList p := by
  cases p with
  | ofNat n => exact .unsigned (.plain (digits_toString n))
  | negSucc n =>
    rw [toList_toString_negSucc, Int.negSucc_eq]
    exact .minus (digits_toString (n + 1))

theorem written_text {q : Parameter} (h : q.InRange) : q.Written q.text := by
  cases q with
  | target p => exact .target (signed_toString p) h
  | delay d => exact .delay (.plain (digits_toString d)) h
  | speed v => exact .speed (.plain (digits_toString v)) h

end Parameter

/-! ## Moves -/

/-- The parameters of a leg. -/
def Leg.parameters (l : Leg) : List Parameter :=
  .target l.target :: (l.delay?.map .delay).toList ++ (l.speed?.map .speed).toList

/-- The parameters of a move, leg by leg. -/
def Move.parameters (m : Move) : List Parameter := m.legs.flatMap Leg.parameters

/-- All delays and speeds of a move have positions to belong to. -/
structure Move.Parallel (m : Move) : Prop where
  delays_le : m.delays.length ≤ m.positions.length
  speeds_le : m.speeds.length ≤ m.positions.length

/-- A move that can be written. -/
structure Move.Printable (m : Move) : Prop extends m.Parallel where
  positions_ne : m.positions ≠ []
  positions : ∀ p ∈ m.positions, InInt64 p
  delays : ∀ d ∈ m.delays, d ≤ word64Max
  speeds : ∀ v ∈ m.speeds, v ≤ word32Max

section Parameters

theorem Move.legParameters_eq (l : Leg) :
    legParameters l = l.parameters.map fun q => String.ofList q.text := by
  obtain ⟨p, d, v⟩ := l
  cases d <;> cases v <;>
    simp [legParameters, Leg.parameters, Parameter.text, Nat.repr_eq_ofList_toDigits]

theorem target?_legs (ps : List Int) (ds ss : List Nat) :
    ((Move.legsOnto [] ps ds ss).flatMap Leg.parameters).filterMap Parameter.target? = ps := by
  induction ps generalizing ds ss with
  | nil => rfl
  | cons p ps ih =>
    rw [Move.legsOnto_cons, List.flatMap_cons, List.filterMap_append, ih]
    cases ds <;> cases ss <;> rfl

theorem delay?_legs {ps : List Int} {ds : List Nat} (ss : List Nat) (h : ds.length ≤ ps.length) :
    ((Move.legsOnto [] ps ds ss).flatMap Leg.parameters).filterMap Parameter.delay? = ds := by
  induction ps generalizing ds ss with
  | nil =>
    rw [List.length_eq_zero_iff.1 (Nat.le_zero.1 h)]
    rfl
  | cons p ps ih =>
    have htail : ds.tail.length ≤ ps.length := by
      rw [List.length_tail]
      simp only [List.length_cons] at h
      omega
    rw [Move.legsOnto_cons, List.flatMap_cons, List.filterMap_append, ih _ htail]
    cases ds <;> cases ss <;> rfl

theorem speed?_legs {ps : List Int} (ds : List Nat) {ss : List Nat} (h : ss.length ≤ ps.length) :
    ((Move.legsOnto [] ps ds ss).flatMap Leg.parameters).filterMap Parameter.speed? = ss := by
  induction ps generalizing ds ss with
  | nil =>
    rw [List.length_eq_zero_iff.1 (Nat.le_zero.1 h)]
    rfl
  | cons p ps ih =>
    have htail : ss.tail.length ≤ ps.length := by
      rw [List.length_tail]
      simp only [List.length_cons] at h
      omega
    rw [Move.legsOnto_cons, List.flatMap_cons, List.filterMap_append, ih _ htail]
    cases ds <;> cases ss <;> rfl

/-- The lists of a move are found again among its parameters. -/
theorem Move.ofParameters_parameters {m : Move} (h : m.Parallel) :
    ofParameters m.axis m.parameters = m := by
  obtain ⟨axis, ps, ds, ss⟩ := m
  unfold ofParameters parameters legs
  rw [target?_legs, delay?_legs _ h.delays_le, speed?_legs _ h.speeds_le]

end Parameters

/-! ## Texts -/

/-- The texts of moves with commas between them. -/
def movesText (ms : List Move) : String := ",".intercalate (ms.map Move.text)

/-- A movement or a group as it is printed. -/
def Instruction.printed? : Instruction → Option String
  | movement ms => some (movesText ms)
  | group ms => some ("GROUP(" ++ movesText ms ++ ")")
  | _ => none

/-- Moves that can be written, one at least. -/
structure Instruction.Printable (i : Instruction) : Prop where
  moves_ne : i.moves ≠ []
  moves : ∀ m ∈ i.moves, m.Printable

theorem toList_movesText (ms : List Move) :
    (movesText ms).toList = [','].intercalate (ms.map fun m => m.text.toList) := by
  rw [movesText, String.toList_intercalate, List.map_map]
  rfl

namespace Move

theorem toList_text (m : Move) : m.text.toList =
    m.axis.letter :: '(' :: ([','].intercalate (m.parameters.map Parameter.text) ++ [')']) := by
  have hlegs : (m.legs.flatMap legParameters).map String.toList =
      m.parameters.map Parameter.text := by
    rw [parameters, List.map_flatMap, List.map_flatMap]
    refine List.flatMap_congr fun l _ => ?_
    simp [legParameters_eq]
  rw [text, String.toList_append, String.toList_append, String.toList_append,
    String.toList_intercalate, hlegs, Axis.name, String.toList_singleton]
  rfl

theorem parameters_ne_nil {m : Move} (h : m.positions ≠ []) : m.parameters ≠ [] := by
  intro hnil
  have htarget := target?_legs m.positions m.delays m.speeds
  rw [← legs, ← parameters, hnil] at htarget
  exact h htarget.symm

theorem Printable.inRange {m : Move} (h : m.Printable) : ∀ q ∈ m.parameters, q.InRange := by
  have hsplit := ofParameters_parameters h.toParallel
  intro q hq
  cases q with
  | target p =>
    refine h.positions p ?_
    rw [← hsplit]
    exact List.mem_filterMap.2 ⟨_, hq, rfl⟩
  | delay d =>
    refine h.delays d ?_
    rw [← hsplit]
    exact List.mem_filterMap.2 ⟨_, hq, rfl⟩
  | speed v =>
    refine h.speeds v ?_
    rw [← hsplit]
    exact List.mem_filterMap.2 ⟨_, hq, rfl⟩

theorem separated_text {m : Move} (h : m.Printable) : Separated ',' Parameter.Slot
    ([','].intercalate (m.parameters.map Parameter.text)) (m.parameters.map some) := by
  refine ⟨_, ?_, rfl, ?_⟩
  · simpa using parameters_ne_nil h.positions_ne
  · rw [List.forall₂_map_left_iff, List.forall₂_map_right_iff, List.forall₂_same]
    intro q hq
    exact .parameter ⟨[], [], by simp [Blank], by simp [Blank], by simp⟩
      (Parameter.written_text (h.inRange q hq))

/-- A move is written by its text. -/
theorem written_text {m : Move} (h : m.Printable) : m.Written m.text.toList := by
  have hslots : (m.parameters.map some).reduceOption = m.parameters := by
    simp [List.reduceOption, List.filterMap_map]
  have hmove : ofParameters m.axis (m.parameters.map some).reduceOption = m := by
    rw [hslots, ofParameters_parameters h.toParallel]
  have henclosed : Enclosed [m.axis.letter]
      ([','].intercalate (m.parameters.map Parameter.text)) m.text.toList :=
    ⟨[], by simp [Blank], m.toList_text⟩
  have hwritten := Written.intro henclosed (separated_text h) (by rw [hmove]; exact h.positions_ne)
  rwa [hmove] at hwritten

end Move

theorem Moves.written_text {ms : List Move} (hne : ms ≠ []) (h : ∀ m ∈ ms, m.Printable) :
    Moves.Written (movesText ms).toList ms := by
  refine ⟨_, ?_, toList_movesText ms, ?_⟩
  · simpa using hne
  · rw [List.forall₂_map_left_iff, List.forall₂_same]
    exact fun m hm => ⟨_, ⟨[], [], by simp [Blank], by simp [Blank], by simp⟩,
      Move.written_text (h m hm)⟩

theorem Moves.Written.text_ne_nil {s : List Char} {ms : List Move} (h : Moves.Written s ms) :
    s ≠ [] := by
  obtain ⟨p, m, rest, ⟨t, ⟨b, e, -, -, rfl⟩, hw⟩, rfl⟩ := Separated.head h
  cases hw with
  | intro henclosed _ _ =>
    obtain ⟨ws, -, rfl⟩ := henclosed
    simp

/-- An instruction is written by the text it is printed as. -/
theorem Instruction.written_printed {i : Instruction} {text : String} (h : i.Printable)
    (ht : i.printed? = some text) : i.Written text.toList := by
  cases i with
  | movement ms =>
    cases ht
    exact .movement (Moves.written_text h.moves_ne h.moves)
  | group ms =>
    cases ht
    refine .group ⟨[], by simp [Blank], ?_⟩ (Moves.written_text h.moves_ne h.moves)
    simp [groupKeyword]
  | _ => cases ht

/-! ## The characters of a text -/

/-- What moves are printed with apart from their numbers. -/
def moveLetters : List Char :=
  ['d', 's', ',', '(', ')', 'X', 'Y', 'Z', 'T', 'G', 'R', 'O', 'U', 'P']

/-- A character that moves are printed with. -/
def IsMoveChar (c : Char) : Prop := IsNumeric c ∨ c ∈ moveLetters

instance : DecidablePred IsMoveChar := fun c =>
  inferInstanceAs (Decidable (IsNumeric c ∨ c ∈ moveLetters))

section Characters

variable {c : Char} {s : List Char}

theorem IsMoveChar.isBlank_eq (h : IsMoveChar c) : isBlank c = false := by
  rcases h with h | h
  · exact h.isBlank_eq
  · simp only [moveLetters, List.mem_cons, List.not_mem_nil, or_false] at h
    rcases h with rfl | rfl | rfl | rfl | rfl | rfl | rfl | rfl | rfl | rfl | rfl | rfl | rfl | rfl
      <;> rfl

theorem IsMoveChar.notMem (h : IsMoveChar c) : c ∉ ['\n', '/', ';', '\x7b', '\x7d'] := by
  intro hc
  simp only [List.mem_cons, List.not_mem_nil, or_false] at hc
  rcases hc with rfl | rfl | rfl | rfl | rfl <;> exact absurd h (by decide)

theorem piece_of_isMoveChar (hne : s ≠ []) (hs : Balanced s) (h : ∀ c ∈ s, IsMoveChar c) :
    Piece s where
  ne_nil := hne
  trimmed := trimmed_of_forall fun c hc => (h c hc).isBlank_eq
  balanced := hs
  plain c hc hout := (h c hout.mem).notMem (List.mem_cons_of_mem _ (List.mem_cons_of_mem _ hc))

theorem inLine_of_isMoveChar (h : ∀ c ∈ s, IsMoveChar c) : InLine s where
  unbroken hm := (h _ hm).notMem (by decide)
  uncommented hm := (h '/' (hm.subset (by decide))).notMem (by decide)

theorem balanced_of_plain (h : ∀ c ∈ s, c ≠ '(' ∧ c ≠ ')') : Balanced s := openParens?_of_plain h 0

theorem balanced_intercalate {parts : List (List Char)} {sep : Char} (h₁ : sep ≠ '(')
    (h₂ : sep ≠ ')') (h : ∀ p ∈ parts, Balanced p) : Balanced ([sep].intercalate parts) := by
  induction parts with
  | nil => rfl
  | cons p parts ih =>
    obtain ⟨hp, hparts⟩ := List.forall_mem_cons.1 h
    cases parts with
    | nil => simpa using hp
    | cons q parts =>
      rw [List.intercalate_cons_cons]
      exact (hp.append (balanced_of_plain (by simp [h₁, h₂]))).append (ih hparts)

/-- Open parentheses around a text stay open in it. -/
theorem openParens?_add {n m : Nat} (h : openParens? n s = some m) (k : Nat) :
    openParens? (n + k) s = some (m + k) := by
  induction s generalizing n with
  | nil =>
    cases h
    rfl
  | cons c s ih =>
    rw [openParens?_cons] at h ⊢
    obtain ⟨l, hl, hs⟩ := Option.bind_eq_some_iff.1 h
    have hadd : openAfter? (n + k) c = some (l + k) := by
      unfold openAfter? at hl ⊢
      grind
    rw [hadd]
    exact ih hs

theorem Balanced.parenthesized (h : Balanced s) : Balanced ('(' :: (s ++ [')'])) := by
  have hinner : openParens? 1 s = some 1 := openParens?_add h 1
  calc openParens? 0 ('(' :: (s ++ [')']))
      = openParens? 1 (s ++ [')']) := rfl
    _ = (openParens? 1 s).bind (openParens? · [')']) := openParens?_append ..
    _ = some 0 := by rw [hinner]; rfl

end Characters

theorem Parameter.isMoveChar_text {q : Parameter} (h : q.InRange) :
    ∀ c ∈ q.text, IsMoveChar c := by
  intro c hc
  rcases (written_text h).mem hc with hn | rfl | rfl
  · exact .inl hn
  · decide
  · decide

theorem Parameter.balanced_text {q : Parameter} (h : q.InRange) : Balanced q.text := by
  refine balanced_of_plain fun c hc => ⟨?_, ?_⟩ <;> rintro rfl
  · exact (written_text h).notMem (by decide) hc
  · exact (written_text h).notMem (by decide) hc

theorem Move.isMoveChar_text {m : Move} (h : m.Printable) : ∀ c ∈ m.text.toList, IsMoveChar c := by
  intro c hc
  rw [m.toList_text] at hc
  simp only [List.mem_cons, List.mem_append, List.not_mem_nil, or_false] at hc
  rcases hc with rfl | rfl | hc | rfl
  · cases m.axis <;> decide
  · decide
  · rcases mem_intercalate hc with rfl | ⟨p, hp, hm⟩
    · decide
    · obtain ⟨q, hq, rfl⟩ := List.mem_map.1 hp
      exact Parameter.isMoveChar_text (h.inRange q hq) c hm
  · decide

theorem Move.balanced_text {m : Move} (h : m.Printable) : Balanced m.text.toList := by
  have hparameters : Balanced ([','].intercalate (m.parameters.map Parameter.text)) := by
    refine balanced_intercalate (by decide) (by decide) fun p hp => ?_
    obtain ⟨q, hq, rfl⟩ := List.mem_map.1 hp
    exact Parameter.balanced_text (h.inRange q hq)
  have hletter : Balanced [m.axis.letter] :=
    balanced_of_plain (by cases m.axis <;> simp [Axis.letter])
  rw [m.toList_text]
  exact hletter.append hparameters.parenthesized

theorem isMoveChar_movesText {ms : List Move} (h : ∀ m ∈ ms, m.Printable) :
    ∀ c ∈ (movesText ms).toList, IsMoveChar c := by
  intro c hc
  rw [toList_movesText] at hc
  rcases mem_intercalate hc with rfl | ⟨p, hp, hm⟩
  · decide
  · obtain ⟨m, hmem, rfl⟩ := List.mem_map.1 hp
    exact Move.isMoveChar_text (h m hmem) c hm

theorem balanced_movesText {ms : List Move} (h : ∀ m ∈ ms, m.Printable) :
    Balanced (movesText ms).toList := by
  rw [toList_movesText]
  refine balanced_intercalate (by decide) (by decide) fun p hp => ?_
  obtain ⟨m, hm, rfl⟩ := List.mem_map.1 hp
  exact Move.balanced_text (h m hm)

theorem toList_group (ms : List Move) : ("GROUP(" ++ movesText ms ++ ")").toList =
    groupKeyword ++ '(' :: ((movesText ms).toList ++ [')']) := by
  simp [groupKeyword]

theorem Instruction.isMoveChar_printed {i : Instruction} {text : String} (h : i.Printable)
    (ht : i.printed? = some text) : ∀ c ∈ text.toList, IsMoveChar c := by
  cases i with
  | movement ms =>
    cases ht
    exact isMoveChar_movesText h.moves
  | group ms =>
    cases ht
    intro c hc
    rw [toList_group] at hc
    simp only [List.mem_append, List.mem_cons, List.not_mem_nil, or_false] at hc
    rcases hc with hc | rfl | hc | rfl
    · exact .inr ((by decide : groupKeyword ⊆ moveLetters) hc)
    · decide
    · exact isMoveChar_movesText h.moves c hc
    · decide
  | _ => cases ht

/-- The printed text is a statement of its own. -/
theorem Instruction.sound_printed {i : Instruction} {text : String} (h : i.Printable)
    (ht : i.printed? = some text) : (Lexeme.statement text.toList).Sound := by
  have hchars := isMoveChar_printed h ht
  have hline := inLine_of_isMoveChar hchars
  cases i with
  | movement ms =>
    cases ht
    have hwritten := Moves.written_text h.moves_ne h.moves
    exact .statement
      (piece_of_isMoveChar hwritten.text_ne_nil (balanced_movesText h.moves) hchars) hline
      fun hs => hwritten.not_keyword (k := speedKeyword) (by decide) (hs ▸ List.prefix_refl _)
  | group ms =>
    cases ht
    have hbalanced : Balanced ("GROUP(" ++ movesText ms ++ ")").toList := by
      rw [toList_group]
      exact Balanced.append (balanced_of_plain (by simp [groupKeyword]))
        (balanced_movesText h.moves).parenthesized
    exact .statement (piece_of_isMoveChar (by simp) hbalanced hchars) hline
      (by simp [speedKeyword])
  | _ => cases ht

/-! ## Compiling one statement -/

theorem tokenize_statement {s : List Char} (h : (Lexeme.statement s).Sound) :
    tokenize (s ++ [';']) = ([⟨.statement s, 1⟩], []) := by
  have hlines : lines (s ++ [';']) = [s ++ [';']] :=
    lines_of_unbroken (unbroken_line h) (by simp)
  have hscan := scanLine_line h
  rw [Lexeme.line] at hscan
  refine Prod.ext ?_ ?_
  · rw [tokenize_fst, hlines]
    simp [lineTokens, hscan]
  · rw [tokenize_snd, hlines]
    simp [hscan]

/-- The command of the only statement of a source. -/
def soleCommand (i : Instruction) (text : String) : Command := ⟨i, text, 1, i.estimate, []⟩

/-- What a source is compiled to whose only statement is a movement or a group. -/
def soleCompilation (callDepth : Nat) (i : Instruction) (text : String) : Compilation where
  program := ⟨[soleCommand i text], []⟩
  diagnostics := i.violations.map (.onLine 1)
  callDepth := callDepth

theorem scanned_statement {s : List Char} {i : Instruction} (hheader : headerName? s = none)
    (hread : Instruction.read s = .ok i) : Program.scanned [⟨.statement s, 1⟩] =
      (⟨[soleCommand i (String.ofList s)], []⟩, []) := by
  have hreading : Token.reading ⟨.statement s, 1⟩ =
      .command (soleCommand i (String.ofList s)) := by
    simp only [Token.reading, hheader, hread]
    rfl
  simp [Program.scanned, ProgramScan.readToken, ProgramScan.take, ProgramScan.start,
    ProgramScan.takeOutside, hreading, ProgramScan.finish, ProgramScan.result]

theorem compileTokens_statement (callDepth : Nat) {s : List Char} {i : Instruction}
    (hheader : headerName? s = none) (hread : Instruction.read s = .ok i)
    (hcallee : i.callee? = none) (hsync : i.isSyncPoint = false) :
    compileTokens callDepth [⟨.statement s, 1⟩] [] =
      soleCompilation callDepth i (String.ofList s) := by
  rw [compileTokens_eq, scanned_statement hheader hread, Program.resolve_eq]
  simp [soleCompilation, soleCommand, Command.resolve, Command.durationWith, hcallee,
    Program.diagnostics, Program.allCommands, Program.commandDiagnostics, Program.callProblems,
    Program.wholeProblems, Program.syncPoints, hsync, syncPointThreshold]

theorem compile_printed (callDepth : Nat) {i : Instruction} {text : String} (h : i.Printable)
    (ht : i.printed? = some text) (hsize : (text ++ ";").utf8ByteSize ≤ sourceLimit) :
    compile callDepth (text ++ ";") =
      if i.estimate ≤ word64Max then .ok (soleCompilation callDepth i text)
      else .error (.overflow .addition) := by
  have htokens : tokenize (text ++ ";").toList = ([⟨.statement text.toList, 1⟩], []) := by
    rw [String.toList_append]
    exact tokenize_statement (Instruction.sound_printed h ht)
  have hread : Instruction.read text.toList = .ok i :=
    read_of_written (Instruction.written_printed h ht)
  have hheader : headerName? text.toList = none := by
    refine named?_eq_none fun hfunc => ?_
    cases i with
    | movement ms =>
      cases ht
      exact (Moves.written_text h.moves_ne h.moves).not_starts rfl rfl (by decide) hfunc
    | group ms =>
      cases ht
      rw [toList_group] at hfunc
      cases (List.cons_prefix_cons.1 hfunc).1
    | _ => cases ht
  have hcompiled : compileTokens callDepth [⟨.statement text.toList, 1⟩] [] =
      soleCompilation callDepth i text := by
    rw [compileTokens_statement callDepth hheader hread, String.ofList_toList]
    · cases i <;> first | rfl | cases ht
    · cases i <;> first | rfl | cases ht
  have hfit : estimatesFit [⟨.statement text.toList, 1⟩] (soleCompilation callDepth i text) =
      decide (i.estimate ≤ word64Max) := by
    simp [estimatesFit, Token.fits, Token.reading, hheader, hread, Compilation.fits,
      soleCompilation, soleCommand, Compilation.totalDuration]
  rw [compile_of_size_le callDepth hsize, htokens]
  simp only [hcompiled, hfit, decide_eq_true_eq]

end MotionScript
