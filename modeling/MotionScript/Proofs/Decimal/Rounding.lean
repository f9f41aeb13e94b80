import Mathlib.Algebra.Order.Field.Power
import Mathlib.Algebra.Order.Floor.Semifield
import Mathlib.Algebra.Order.Round
import Mathlib.Data.Rat.Floor
import Mathlib.Tactic.FieldSimp
import Mathlib.Tactic.Linarith
import Mathlib.Tactic.Positivity
import MotionScript.Decimal.Binary64

/-!
# The rounding of quotients to doubles

The value of a double is a rational number, and a quotient is rounded to one on a scale where it
has 53 binary digits.

* `Magnitude.toRat`, `Magnitude.rounded_eq`: the value of a double, and its nearest whole number.
* `quotientScale_spec`: the scale on which a quotient is rounded.
* `Magnitude.nearest_within`: a quotient is rounded with a relative error of `2 ^ -53`.
* `Magnitude.toRat_nearest`: a quotient with 53 binary digits is not changed.
* **`Magnitude.nearest_mono`**: the rounding is monotone, across scales, too.
-/

namespace MotionScript

/-! ## Rounding to a natural number -/

section Quotient

variable {a b c d : Nat}

theorem roundQuotient_mono_left (hb : 0 < b) (h : a ≤ c) :
    roundQuotient a b ≤ roundQuotient c b := by
  rcases h.eq_or_lt with rfl | hlt
  · exact Nat.le_refl _
  · have ha := (roundQuotient_within (a := a) hb).2
    have hc := (roundQuotient_within (a := c) hb).1
    by_contra hn
    have hstep : (2 * (roundQuotient c b + 1)) * b ≤ 2 * roundQuotient a b * b :=
      Nat.mul_le_mul_right b (by omega)
    grind

/-- A quotient is rounded the same however it is written as a fraction. -/
theorem roundQuotient_mul_mul (hd : 0 < d) :
    roundQuotient (a * d) (b * d) = roundQuotient a b := by
  have hlt : 2 * (a % b * d) < b * d ↔ 2 * (a % b) < b := by
    rw [← Nat.mul_assoc, Nat.mul_lt_mul_right hd]
  have heq : 2 * (a % b * d) = b * d ↔ 2 * (a % b) = b := by
    rw [← Nat.mul_assoc, Nat.mul_left_inj hd.ne']
  simp only [roundQuotient, Nat.mul_div_mul_right _ _ hd, Nat.mul_mod_mul_right, hlt, heq]

theorem roundQuotient_mono (hb : 0 < b) (hd : 0 < d) (h : a * d ≤ c * b) :
    roundQuotient a b ≤ roundQuotient c d := by
  calc roundQuotient a b
      = roundQuotient (a * d) (b * d) := (roundQuotient_mul_mul hd).symm
    _ ≤ roundQuotient (c * b) (b * d) := roundQuotient_mono_left (Nat.mul_pos hb hd) h
    _ = roundQuotient c d := by rw [Nat.mul_comm b d, roundQuotient_mul_mul hb]

theorem abs_roundQuotient_sub_le (hb : 0 < b) :
    |(roundQuotient a b : ℚ) - a / b| ≤ 1 / 2 := by
  obtain ⟨hlow, hhigh⟩ := roundQuotient_within (a := a) hb
  have hb' : (0 : ℚ) < b := Nat.cast_pos.2 hb
  have hlow' : 2 * (a : ℚ) ≤ (2 * roundQuotient a b + 1) * b := by exact_mod_cast hlow
  have hhigh' : 2 * (roundQuotient a b : ℚ) * b ≤ 2 * a + b := by exact_mod_cast hhigh
  have hquot : (a : ℚ) / b * b = a := div_mul_cancel₀ _ hb'.ne'
  rw [abs_le]
  constructor <;> nlinarith

end Quotient

/-! ## Scales -/

theorem two_pow_toNat_div (k : Int) : (2 : ℚ) ^ k.toNat / 2 ^ (-k).toNat = 2 ^ k := by
  rw [← zpow_natCast, ← zpow_natCast, ← zpow_sub₀ two_ne_zero, Int.toNat_sub_toNat_neg]

theorem cast_scaled (a b : Nat) (k : Int) :
    ((a * Nat.pow 2 k.toNat : Nat) : ℚ) / (b * Nat.pow 2 (-k).toNat : Nat) = a / b * 2 ^ k := by
  rw [← two_pow_toNat_div]
  push_cast [Nat.pow_eq]
  rw [mul_div_mul_comm]

theorem scaled_pos {b : Nat} (hb : 0 < b) (k : Int) : 0 < b * Nat.pow 2 (-k).toNat :=
  Nat.mul_pos hb (Nat.two_pow_pos _)

theorem quotientScale_spec {a b : Nat} (ha : 0 < a) (hb : 0 < b) :
    (2 : ℚ) ^ 52 ≤ a / b * 2 ^ quotientScale a b ∧
      (a / b * 2 ^ quotientScale a b : ℚ) < 2 ^ 53 := by
  have ha₁ : (2 : ℚ) ^ a.log2 ≤ a := by exact_mod_cast Nat.log2_self_le ha.ne'
  have ha₂ : (a : ℚ) < 2 ^ (a.log2 + 1) := by exact_mod_cast Nat.lt_log2_self
  have hb₁ : (2 : ℚ) ^ b.log2 ≤ b := by exact_mod_cast Nat.log2_self_le hb.ne'
  have hb₂ : (b : ℚ) < 2 ^ (b.log2 + 1) := by exact_mod_cast Nat.lt_log2_self
  have hb' : (0 : ℚ) < b := Nat.cast_pos.2 hb
  set k : Int := 52 + b.log2 - a.log2 with hk
  have hpow : (2 : ℚ) ^ k = 2 ^ 52 * 2 ^ b.log2 / 2 ^ a.log2 := by
    rw [hk, zpow_sub₀ two_ne_zero, zpow_add₀ two_ne_zero, zpow_natCast, zpow_natCast]
    rfl
  -- the powers of two below `a` and `b` leave a quotient between 1/2 and 2
  have hlow : (2 : ℚ) ^ 51 ≤ a / b * 2 ^ k := by
    have hprod : (2 : ℚ) ^ a.log2 * b ≤ a * 2 ^ (b.log2 + 1) := by gcongr
    rw [hpow, div_mul_div_comm, le_div_iff₀ (by positivity)]
    rw [pow_succ] at hprod
    linarith
  have hhigh : (a / b * 2 ^ k : ℚ) < 2 ^ 53 := by
    have hprod : (a : ℚ) * 2 ^ b.log2 < 2 ^ (a.log2 + 1) * b :=
      mul_lt_mul ha₂ hb₁ (by positivity) (by positivity)
    rw [hpow, div_mul_div_comm, div_lt_iff₀ (by positivity)]
    rw [pow_succ] at hprod
    linarith
  have hcond : a * Nat.pow 2 k.toNat < b * Nat.pow 2 (-k).toNat * hiddenBit ↔
      (a / b * 2 ^ k : ℚ) < 2 ^ 52 := by
    rw [← cast_scaled, div_lt_iff₀ (Nat.cast_pos.2 (scaled_pos hb k)), ← Nat.cast_lt (α := ℚ),
      Nat.cast_mul (b * _), mul_comm (2 ^ 52 : ℚ)]
    rfl
  unfold quotientScale
  simp only [← hk, hcond]
  split
  · next hlt =>
    rw [zpow_add₀ two_ne_zero, zpow_one, ← mul_assoc]
    constructor <;> linarith
  · next hge => exact ⟨not_lt.1 hge, hhigh⟩

theorem quotientScale_anti {a b c d : Nat} (ha : 0 < a) (hb : 0 < b) (hd : 0 < d)
    (h : a * d ≤ c * b) : quotientScale c d ≤ quotientScale a b := by
  have hc : 0 < c := Nat.pos_of_mul_pos_right (Nat.lt_of_lt_of_le (Nat.mul_pos ha hd) h)
  have hquot : (a : ℚ) / b ≤ c / d := by
    rw [div_le_div_iff₀ (Nat.cast_pos.2 hb) (Nat.cast_pos.2 hd)]
    exact_mod_cast h
  by_contra hlt
  have hfine : (2 : ℚ) ^ (quotientScale a b + 1) ≤ 2 ^ quotientScale c d :=
    zpow_le_zpow_right₀ one_le_two (by omega)
  have hpos : (0 : ℚ) ≤ a / b := by positivity
  have hstep : (a / b * 2 ^ (quotientScale a b + 1) : ℚ) ≤ c / d * 2 ^ quotientScale c d := by
    gcongr
  have hlow := (quotientScale_spec ha hb).1
  have hhigh := (quotientScale_spec hc hd).2
  rw [zpow_add₀ two_ne_zero, zpow_one, ← mul_assoc] at hstep
  linarith

/-! ## Rounding to a double -/

namespace Magnitude

/-- The value of a double. -/
def toRat (x : Magnitude) : ℚ := x.mantissa * 2 ^ x.exponent

theorem toRat_eq (x : Magnitude) : x.toRat = x.num / x.den := by
  rw [toRat, ← two_pow_toNat_div, num, den, ← mul_div_assoc]
  push_cast [Nat.pow_eq]
  rfl

theorem rounded_eq (x : Magnitude) : x.rounded = ⌊x.toRat + 1 / 2⌋₊ := by
  have hden : (x.den : ℚ) ≠ 0 := Nat.cast_ne_zero.2 x.den_pos.ne'
  have hsum : x.toRat + 1 / 2 = ((2 * x.num + x.den : Nat) : ℚ) / (2 * x.den : Nat) := by
    rw [toRat_eq]
    push_cast
    field_simp
  rw [hsum, Nat.floor_div_eq_div, rounded]

theorem toRat_nonneg (x : Magnitude) : 0 ≤ x.toRat := by
  unfold toRat
  positivity

theorem rounded_mono {x y : Magnitude} (h : x.toRat ≤ y.toRat) : x.rounded ≤ y.rounded := by
  rw [rounded_eq, rounded_eq]
  gcongr

variable {a b c d : Nat}

theorem abs_nearest_mantissa_sub_le (hb : 0 < b) :
    |((nearest a b).mantissa : ℚ) - a / b * 2 ^ quotientScale a b| ≤ 1 / 2 := by
  rw [← cast_scaled]
  exact abs_roundQuotient_sub_le (scaled_pos hb _)

/-- A quotient is rounded to 53 binary digits, or up to the least number of 54. -/
theorem nearest_mantissa_mem (ha : 0 < a) (hb : 0 < b) :
    2 ^ 52 ≤ (nearest a b).mantissa ∧ (nearest a b).mantissa ≤ 2 ^ 53 := by
  obtain ⟨hlow, hhigh⟩ := quotientScale_spec ha hb
  obtain ⟨hbelow, habove⟩ := abs_le.1 (abs_nearest_mantissa_sub_le (a := a) hb)
  have hmin : (2 : ℚ) ^ 52 < (nearest a b).mantissa + 1 := by linarith
  have hmax : ((nearest a b).mantissa : ℚ) < 2 ^ 53 + 1 := by linarith
  exact ⟨Nat.lt_succ_iff.1 (by exact_mod_cast hmin), Nat.lt_succ_iff.1 (by exact_mod_cast hmax)⟩

theorem toRat_nearest_zero : (nearest 0 b).toRat = 0 := by
  simp [toRat, nearest, roundQuotient]

/-- A quotient is rounded to a double with a relative error of `2 ^ -53`. -/
theorem nearest_within (hb : 0 < b) :
    |(nearest a b).toRat - a / b| ≤ a / b / 2 ^ 53 := by
  rcases a.eq_zero_or_pos with rfl | ha
  · simp [toRat_nearest_zero]
  have hunits := abs_nearest_mantissa_sub_le (a := a) hb
  have hlow := (quotientScale_spec ha hb).1
  set k := quotientScale a b
  have hpos : (0 : ℚ) < 2 ^ k := by positivity
  have htoRat : (nearest a b).toRat * 2 ^ k = (nearest a b).mantissa := by
    change ((nearest a b).mantissa : ℚ) * 2 ^ (-k) * 2 ^ k = _
    rw [mul_assoc, ← zpow_add₀ two_ne_zero, neg_add_cancel, zpow_zero, mul_one]
  have hscaled : |(nearest a b).toRat - a / b| * 2 ^ k ≤ a / b / 2 ^ 53 * 2 ^ k := by
    calc |(nearest a b).toRat - a / b| * 2 ^ k
        = |((nearest a b).mantissa : ℚ) - a / b * 2 ^ k| := by
          rw [← abs_of_pos hpos, ← abs_mul, abs_of_pos hpos, sub_mul, htoRat]
      _ ≤ 1 / 2 := hunits
      _ ≤ a / b / 2 ^ 53 * 2 ^ k := by
          rw [div_mul_eq_mul_div, le_div_iff₀ (by positivity)]
          linarith
  exact le_of_mul_le_mul_right hscaled hpos

theorem toRat_nearest (hb : 0 < b) {n : Nat} {e : Int} (hn : n < 2 ^ 53)
    (h : (a : ℚ) / b = n * 2 ^ e) : (nearest a b).toRat = a / b := by
  rcases a.eq_zero_or_pos with rfl | ha
  · simp [toRat_nearest_zero]
  have hlow := (quotientScale_spec ha hb).1
  set k := quotientScale a b with hk
  have hn' : (n : ℚ) < 2 ^ 53 := by exact_mod_cast hn
  have hscaled : (a / b * 2 ^ k : ℚ) = n * 2 ^ (e + k) := by
    rw [h, zpow_add₀ two_ne_zero, mul_assoc]
  -- on its scale the quotient is a natural number
  have hwhole : 0 ≤ e + k := by
    by_contra hneg
    have hhalf : (2 : ℚ) ^ (e + k) ≤ 2 ^ (-1 : Int) := zpow_le_zpow_right₀ one_le_two (by omega)
    have hle : (n : ℚ) * 2 ^ (e + k) ≤ n * 2 ^ (-1 : Int) := by gcongr
    rw [zpow_neg_one] at hle
    linarith
  obtain ⟨j, hj⟩ := Int.eq_ofNat_of_zero_le hwhole
  have hnum : a * Nat.pow 2 k.toNat = n * 2 ^ j * (b * Nat.pow 2 (-k).toNat) := by
    have hden : ((b * Nat.pow 2 (-k).toNat : Nat) : ℚ) ≠ 0 :=
      Nat.cast_ne_zero.2 (scaled_pos hb k).ne'
    rw [← cast_scaled, hj, zpow_natCast, div_eq_iff hden] at hscaled
    exact_mod_cast hscaled
  have hmantissa : (nearest a b).mantissa = n * 2 ^ j := by
    change roundQuotient (a * Nat.pow 2 k.toNat) (b * Nat.pow 2 (-k).toNat) = _
    rw [hnum, roundQuotient_mul (scaled_pos hb k)]
  change ((nearest a b).mantissa : ℚ) * 2 ^ (-k) = _
  rw [hmantissa, h, Nat.cast_mul, Nat.cast_pow, Nat.cast_ofNat, ← zpow_natCast, ← hj, mul_assoc,
    ← zpow_add₀ two_ne_zero, add_neg_cancel_right]

/-- **The rounding is monotone.** -/
theorem nearest_mono (hb : 0 < b) (hd : 0 < d) (h : a * d ≤ c * b) :
    (nearest a b).toRat ≤ (nearest c d).toRat := by
  rcases a.eq_zero_or_pos with rfl | ha
  · rw [toRat_nearest_zero]
    exact toRat_nonneg _
  have hc : 0 < c := Nat.pos_of_mul_pos_right (Nat.lt_of_lt_of_le (Nat.mul_pos ha hd) h)
  rcases (quotientScale_anti ha hb hd h).lt_or_eq with hlt | heq
  · -- on the coarser scale the least mantissa is as much as the greatest on the finer one
    have ha' : ((nearest a b).mantissa : ℚ) ≤ 2 ^ 53 := by
      exact_mod_cast (nearest_mantissa_mem ha hb).2
    have hc' : (2 : ℚ) ^ 52 ≤ (nearest c d).mantissa := by
      exact_mod_cast (nearest_mantissa_mem hc hd).1
    calc (nearest a b).toRat
        ≤ 2 ^ 53 * 2 ^ (-quotientScale a b) := by
          change ((nearest a b).mantissa : ℚ) * 2 ^ (-quotientScale a b) ≤ _
          gcongr
      _ = 2 ^ 52 * 2 ^ (-quotientScale a b + 1) := by
          rw [zpow_add₀ two_ne_zero, zpow_one]
          ring
      _ ≤ 2 ^ 52 * 2 ^ (-quotientScale c d) := by
          have hle : -quotientScale a b + 1 ≤ -quotientScale c d := by omega
          gcongr
          exact one_le_two
      _ ≤ (nearest c d).toRat := by
          change _ ≤ ((nearest c d).mantissa : ℚ) * 2 ^ (-quotientScale c d)
          gcongr
  · have hmantissa : (nearest a b).mantissa ≤ (nearest c d).mantissa := by
      simp only [nearest, ← heq]
      refine roundQuotient_mono (scaled_pos hb _) (scaled_pos hd _) ?_
      rw [Nat.mul_mul_mul_comm, Nat.mul_mul_mul_comm c]
      exact Nat.mul_le_mul_right _ h
    have hcast : ((nearest a b).mantissa : ℚ) ≤ (nearest c d).mantissa := Nat.cast_le.2 hmantissa
    change ((nearest a b).mantissa : ℚ) * 2 ^ (-quotientScale a b) ≤
      (nearest c d).mantissa * 2 ^ (-quotientScale c d)
    rw [heq]
    gcongr

/-- A double that is at most a quotient is at most what the quotient is rounded to. -/
theorem le_toRat_nearest (hb : 0 < b) {n : Nat} {e : Int} (hn : n < 2 ^ 53)
    (h : n * 2 ^ e ≤ (a : ℚ) / b) : n * 2 ^ e ≤ (nearest a b).toRat := by
  have hden : 0 < Nat.pow 2 (-e).toNat := Nat.two_pow_pos _
  have hquot : ((n * Nat.pow 2 e.toNat : Nat) : ℚ) / (Nat.pow 2 (-e).toNat : Nat) = n * 2 ^ e := by
    have hscaled := cast_scaled n 1 e
    rwa [Nat.one_mul, Nat.cast_one, div_one] at hscaled
  rw [← hquot, ← toRat_nearest hden hn hquot]
  rw [← hquot, div_le_div_iff₀ (Nat.cast_pos.2 hden) (Nat.cast_pos.2 hb)] at h
  exact nearest_mono hden hb (by exact_mod_cast h)

/-! ## Conversion and division -/

theorem ofNat_within (n : Nat) : |(ofNat n).toRat - n| ≤ n / 2 ^ 53 := by
  have h := nearest_within (a := n) Nat.one_pos
  rwa [Nat.cast_one, div_one] at h

theorem toRat_ofNat {n : Nat} (hn : n < 2 ^ 53) : (ofNat n).toRat = n := by
  have h := toRat_nearest (a := n) (e := 0) Nat.one_pos hn (by simp)
  rwa [Nat.cast_one, div_one] at h

theorem ofNat_mono {m n : Nat} (h : m ≤ n) : (ofNat m).toRat ≤ (ofNat n).toRat :=
  nearest_mono Nat.one_pos Nat.one_pos (Nat.mul_le_mul_right 1 h)

variable {x x' y : Magnitude}

theorem num_pos (hy : 0 < y.toRat) : 0 < y.num := by
  rw [toRat_eq] at hy
  refine Nat.pos_of_ne_zero fun h => ?_
  simp [h] at hy

theorem cast_div (x y : Magnitude) :
    ((x.num * y.den : Nat) : ℚ) / (x.den * y.num : Nat) = x.toRat / y.toRat := by
  rw [toRat_eq, toRat_eq, div_div_div_eq]
  push_cast
  rfl

theorem div_within (hy : 0 < y.toRat) :
    |(x.div y).toRat - x.toRat / y.toRat| ≤ x.toRat / y.toRat / 2 ^ 53 := by
  have h := nearest_within (a := x.num * y.den) (Nat.mul_pos x.den_pos (num_pos hy))
  rwa [cast_div] at h

theorem le_toRat_div (hy : 0 < y.toRat) {n : Nat} {e : Int} (hn : n < 2 ^ 53)
    (h : n * 2 ^ e ≤ x.toRat / y.toRat) : n * 2 ^ e ≤ (x.div y).toRat := by
  rw [← cast_div] at h
  exact le_toRat_nearest (Nat.mul_pos x.den_pos (num_pos hy)) hn h

theorem div_mono (hy : 0 < y.toRat) (h : x.toRat ≤ x'.toRat) :
    (x.div y).toRat ≤ (x'.div y).toRat := by
  have hnum := num_pos hy
  refine nearest_mono (Nat.mul_pos x.den_pos hnum) (Nat.mul_pos x'.den_pos hnum) ?_
  have hcross : x.num * x'.den ≤ x'.num * x.den := by
    rw [toRat_eq, toRat_eq, div_le_div_iff₀ (Nat.cast_pos.2 x.den_pos)
      (Nat.cast_pos.2 x'.den_pos)] at h
    exact_mod_cast h
  calc x.num * y.den * (x'.den * y.num)
      = x.num * x'.den * (y.den * y.num) := by ring
    _ ≤ x'.num * x.den * (y.den * y.num) := Nat.mul_le_mul_right _ hcross
    _ = x'.num * y.den * (x.den * y.num) := by ring

end Magnitude

end MotionScript
