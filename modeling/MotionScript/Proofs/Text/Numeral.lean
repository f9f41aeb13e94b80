import MotionScript.Text.Integer

/-!
# Numerals

How integers are written, apart from how they are read.

* `Digits`, `Unsigned`, `Signed`: a run of decimal digits, an unsigned and a signed numeral, with
  their values.
* `readNat_eq_some`, `readInt64_eq_some`: what is read are the numerals in range.
* `Unsigned.isNumeric`: the characters of a numeral.
-/

namespace MotionScript

/-- A run of decimal digits and its value. -/
structure Digits (s : List Char) (n : Nat) : Prop where
  ne_nil : s ≠ []
  isDigit : ∀ c ∈ s, c.isDigit
  value : n = Nat.ofDigitChars 10 s 0

/-- An unsigned numeral: digits, after a `+` or not. -/
inductive Unsigned : List Char → Nat → Prop where
  | plain {s : List Char} {n : Nat} : Digits s n → Unsigned s n
  | plus {s : List Char} {n : Nat} : Digits s n → Unsigned ('+' :: s) n

/-- A signed numeral. -/
inductive Signed : List Char → Int → Prop where
  | unsigned {s : List Char} {n : Nat} : Unsigned s n → Signed s n
  | minus {s : List Char} {n : Nat} : Digits s n → Signed ('-' :: s) (-n)

/-! ## Reading digits -/

theorem le_ofDigitChars (s : List Char) (m : Nat) : m ≤ Nat.ofDigitChars 10 s m := by
  induction s generalizing m with
  | nil => exact Nat.le_refl m
  | cons c s ih =>
    calc m ≤ 10 * m + (c.toNat - '0'.toNat) := by omega
      _ ≤ Nat.ofDigitChars 10 (c :: s) m := ih _

-- The range is checked at every digit. That is the same as a check at the end, since the value only
-- grows with each further digit.
theorem foldlM_pushDigit_eq_some {max m n : Nat} {s : List Char} (hm : m ≤ max) :
    s.foldlM (pushDigit max) m = some n ↔
      (∀ c ∈ s, c.isDigit) ∧ n = Nat.ofDigitChars 10 s m ∧ n ≤ max := by
  induction s generalizing m with
  | nil =>
    simp only [List.foldlM_nil, Option.pure_def, Option.some.injEq, List.not_mem_nil,
      false_implies, implies_true, true_and, Nat.ofDigitChars, List.foldl_nil]
    constructor
    · rintro rfl
      exact ⟨rfl, hm⟩
    · rintro ⟨rfl, -⟩
      rfl
  | cons c s ih =>
    have hval : Nat.ofDigitChars 10 (c :: s) m =
        Nat.ofDigitChars 10 s (10 * m + digitValue c) := rfl
    rw [List.foldlM_cons, hval, pushDigit]
    by_cases hc : c.isDigit ∧ 10 * m + digitValue c ≤ max
    · rw [if_pos hc]
      change s.foldlM (pushDigit max) (10 * m + digitValue c) = some n ↔ _
      rw [ih hc.2]
      simp [hc.1]
    · rw [if_neg hc]
      constructor
      · intro h
        cases h
      · rintro ⟨hall, rfl, hle⟩
        have := le_ofDigitChars s (10 * m + digitValue c)
        exact absurd ⟨hall c (List.mem_cons_self ..), by omega⟩ hc

theorem readDigits_eq_some {max n : Nat} {s : List Char} :
    readDigits max s = some n ↔ Digits s n ∧ n ≤ max := by
  cases s with
  | nil =>
    constructor
    · intro h
      cases h
    · rintro ⟨h, -⟩
      exact absurd rfl h.ne_nil
  | cons c s =>
    rw [readDigits, foldlM_pushDigit_eq_some (Nat.zero_le max)]
    constructor
    · rintro ⟨hall, hn, hle⟩
      exact ⟨⟨List.cons_ne_nil c s, hall, hn⟩, hle⟩
    · rintro ⟨⟨-, hall, hn⟩, hle⟩
      exact ⟨hall, hn, hle⟩

theorem Digits.ne_cons {c : Char} {s : List Char} {n : Nat} (h : Digits (c :: s) n) :
    c ≠ '+' ∧ c ≠ '-' := by
  have hc := h.isDigit c (List.mem_cons_self ..)
  constructor <;> rintro rfl <;> exact absurd hc (by decide)

/-! ## Reading numerals -/

theorem unsigned_iff_of_ne {s : List Char} {n : Nat} (h : ∀ r, s ≠ '+' :: r) :
    Unsigned s n ↔ Digits s n := by
  constructor
  · intro hu
    cases hu with
    | plain hd => exact hd
    | plus => exact absurd rfl (h _)
  · exact .plain

theorem unsigned_plus_iff {s : List Char} {n : Nat} : Unsigned ('+' :: s) n ↔ Digits s n := by
  constructor
  · intro hu
    cases hu with
    | plain hd => exact absurd rfl hd.ne_cons.1
    | plus hd => exact hd
  · exact .plus

theorem readNat_eq_some {max n : Nat} {s : List Char} :
    readNat max s = some n ↔ Unsigned s n ∧ n ≤ max := by
  fun_cases readNat max s with
  | case1 r => rw [readDigits_eq_some, unsigned_plus_iff]
  | case2 s hne => rw [readDigits_eq_some, unsigned_iff_of_ne hne]

theorem signed_minus_iff {s : List Char} {p : Int} :
    Signed ('-' :: s) p ↔ ∃ n : Nat, Digits s n ∧ p = -n := by
  constructor
  · intro h
    cases h with
    | unsigned hu =>
      cases hu with
      | plain hd => exact absurd rfl hd.ne_cons.2
    | minus hd => exact ⟨_, hd, rfl⟩
  · rintro ⟨n, hd, rfl⟩
    exact .minus hd

theorem signed_iff_of_ne {s : List Char} {p : Int} (h : ∀ r, s ≠ '-' :: r) :
    Signed s p ↔ ∃ n : Nat, Unsigned s n ∧ p = n := by
  constructor
  · intro hs
    cases hs with
    | unsigned hu => exact ⟨_, hu, rfl⟩
    | minus => exact absurd rfl (h _)
  · rintro ⟨n, hu, rfl⟩
    exact .unsigned hu

/-- The signed 64-bit numbers. -/
def InInt64 (p : Int) : Prop := -(int64Max + 1) ≤ p ∧ p ≤ int64Max

theorem readInt64_eq_some {s : List Char} {p : Int} :
    readInt64 s = some p ↔ Signed s p ∧ InInt64 p := by
  unfold InInt64
  fun_cases readInt64 s with
  | case1 r =>
    simp only [Option.map_eq_some_iff, Option.bind_eq_bind, Option.bind_eq_some_iff,
      Option.pure_def, Option.some.injEq, readDigits_eq_some, signed_minus_iff]
    constructor
    · rintro ⟨-, ⟨n, ⟨hd, hle⟩, rfl⟩, rfl⟩
      exact ⟨⟨n, hd, rfl⟩, by omega, by omega⟩
    · rintro ⟨⟨n, hd, rfl⟩, hge, -⟩
      exact ⟨n, ⟨n, ⟨hd, by omega⟩, rfl⟩, rfl⟩
  | case2 r =>
    rw [signed_iff_of_ne (by simp)]
    simp only [Option.map_eq_some_iff, readDigits_eq_some, unsigned_plus_iff, Int.ofNat_eq_natCast]
    constructor
    · rintro ⟨n, ⟨hd, hle⟩, rfl⟩
      exact ⟨⟨n, hd, rfl⟩, by omega, by omega⟩
    · rintro ⟨⟨n, hd, rfl⟩, -, hle⟩
      exact ⟨n, ⟨hd, by omega⟩, rfl⟩
  | case3 s hminus hplus =>
    rw [signed_iff_of_ne hminus]
    simp only [Option.map_eq_some_iff, readDigits_eq_some, unsigned_iff_of_ne hplus,
      Int.ofNat_eq_natCast]
    constructor
    · rintro ⟨n, ⟨hd, hle⟩, rfl⟩
      exact ⟨⟨n, hd, rfl⟩, by omega, by omega⟩
    · rintro ⟨⟨n, hd, rfl⟩, -, hle⟩
      exact ⟨n, ⟨hd, by omega⟩, rfl⟩

/-! ## The characters of a numeral -/

/-- A character that numerals consist of. -/
def IsNumeric (c : Char) : Prop := c.isDigit ∨ c = '+' ∨ c = '-'

instance : DecidablePred IsNumeric := fun c =>
  inferInstanceAs (Decidable (c.isDigit ∨ c = '+' ∨ c = '-'))

theorem Unsigned.isNumeric {s : List Char} {n : Nat} (h : Unsigned s n) : ∀ c ∈ s, IsNumeric c := by
  cases h with
  | plain hd => exact fun c hc => .inl (hd.isDigit c hc)
  | plus hd =>
    intro c hc
    rcases List.mem_cons.1 hc with rfl | hc
    · exact .inr (.inl rfl)
    · exact .inl (hd.isDigit c hc)

theorem Signed.isNumeric {s : List Char} {p : Int} (h : Signed s p) : ∀ c ∈ s, IsNumeric c := by
  cases h with
  | unsigned hu => exact hu.isNumeric
  | minus hd =>
    intro c hc
    rcases List.mem_cons.1 hc with rfl | hc
    · exact .inr (.inr rfl)
    · exact .inl (hd.isDigit c hc)

theorem Unsigned.ne_nil {s : List Char} {n : Nat} (h : Unsigned s n) : s ≠ [] := by
  cases h with
  | plain hd => exact hd.ne_nil
  | plus => exact List.cons_ne_nil _ _

end MotionScript
