import Mathlib.Algebra.Order.Field.Power
import Mathlib.Data.Rat.Cast.Order
import Mathlib.Tactic.FieldSimp
import Mathlib.Tactic.Linarith
import Mathlib.Tactic.Positivity
import Mathlib.Tactic.Ring
import Synopsis.Number.Binary64

/-!
# Rounded numbers in order

Rounding keeps the order of what is rounded, so a rounded quotient of a smaller by a larger number
is at most one.

- `roundHalfEven_mono`: rounding to whole numbers keeps the order.
- `value_ofRatio_le_zpow`, `zpow_le_value_ofRatio`: rounding does not pass a power of two.
- `value_ofNat_mono`: rounding whole numbers keeps the order.
- `value_div_le_one`: a number over a number that is not less is at most one.
-/

namespace Synopsis

/-! ## Whole numbers -/

section Whole

variable {a b n num den : Nat}

theorem div_le_roundHalfEven (num den : Nat) : num / den ≤ roundHalfEven num den := by
  unfold roundHalfEven
  grind

theorem roundHalfEven_le (num den : Nat) : roundHalfEven num den ≤ num / den + 1 := by
  unfold roundHalfEven
  grind

/-- Rounding to whole numbers keeps the order. -/
theorem roundHalfEven_mono (h : a ≤ b) : roundHalfEven a den ≤ roundHalfEven b den := by
  rcases (Nat.div_le_div_right h : a / den ≤ b / den).lt_or_eq with hlt | heq
  · have hnext : a / den + 1 ≤ b / den := hlt
    exact (roundHalfEven_le a den).trans (hnext.trans (div_le_roundHalfEven b den))
  · -- With one quotient, the remainders are in order.
    have hmod : a % den ≤ b % den := by
      have ha := Nat.div_add_mod a den
      have hb := Nat.div_add_mod b den
      rw [heq] at ha
      omega
    unfold roundHalfEven
    rw [heq]
    grind

theorem roundHalfEven_le_of_le (hd : 0 < den) (h : num ≤ n * den) : roundHalfEven num den ≤ n :=
  (roundHalfEven_mono h).trans_eq (roundHalfEven_mul n hd)

theorem le_roundHalfEven_of_le (hd : 0 < den) (h : n * den ≤ num) : n ≤ roundHalfEven num den :=
  (roundHalfEven_mul n hd).symm.trans_le (roundHalfEven_mono h)

end Whole

namespace Binary64

variable {a b num den : Nat} {k : Int}

/-! ## Values -/

/-- The number as a fraction. -/
def value (number : Binary64) : ℚ := number.mantissa * 2 ^ number.exponent

theorem value_nonneg (number : Binary64) : 0 ≤ number.value := by
  unfold value
  positivity

theorem zpow_of_nonneg (h : 0 ≤ k) : (2 : ℚ) ^ k = (Nat.pow 2 k.natAbs : Nat) := by
  obtain ⟨n, rfl⟩ := Int.eq_ofNat_of_zero_le h
  simp

theorem zpow_of_nonpos (h : k ≤ 0) : (2 : ℚ) ^ k = ((Nat.pow 2 k.natAbs : Nat) : ℚ)⁻¹ := by
  obtain ⟨n, rfl⟩ := Int.exists_eq_neg_ofNat h
  simp

theorem fraction_pos (number : Binary64) : 0 < number.fraction.2 := by
  unfold fraction
  split
  · exact Nat.two_pow_pos _
  · exact Nat.one_pos

theorem value_eq (number : Binary64) :
    number.value = number.fraction.1 / number.fraction.2 := by
  unfold value fraction
  split
  · next h => rw [zpow_of_nonpos h.le, div_eq_mul_inv]
  · next h => rw [zpow_of_nonneg (not_lt.1 h)]; simp

theorem scaled_pos (hd : 0 < den) (k : Int) : 0 < (scaled num den k).2 := by
  unfold scaled
  split
  · exact hd
  · exact Nat.mul_pos hd (Nat.two_pow_pos _)

/-- The scaled fraction is the quotient over a power of two. -/
theorem scaled_div (num den : Nat) (k : Int) :
    ((scaled num den k).1 / (scaled num den k).2 : ℚ) = num / (den * 2 ^ k) := by
  unfold scaled
  split
  · next h =>
    rw [zpow_of_nonpos h.le]
    have hp : ((Nat.pow 2 k.natAbs : Nat) : ℚ) ≠ 0 := by simp
    push_cast
    field_simp
  · next h =>
    rw [zpow_of_nonneg (not_lt.1 h)]
    push_cast
    rfl

theorem scaled_le_iff (hd : 0 < den) {n : Nat} :
    (scaled num den k).1 ≤ n * (scaled num den k).2 ↔ (num : ℚ) ≤ n * 2 ^ k * den := by
  have hs : (0 : ℚ) < (scaled num den k).2 := by exact_mod_cast scaled_pos hd k
  have hp : (0 : ℚ) < den * 2 ^ k := by positivity
  rw [← Nat.cast_le (α := ℚ), Nat.cast_mul, ← div_le_iff₀ hs, scaled_div, div_le_iff₀ hp, mul_assoc,
    mul_comm (den : ℚ)]

theorem le_scaled_iff (hd : 0 < den) {n : Nat} :
    n * (scaled num den k).2 ≤ (scaled num den k).1 ↔ (n * 2 ^ k * den : ℚ) ≤ num := by
  have hs : (0 : ℚ) < (scaled num den k).2 := by exact_mod_cast scaled_pos hd k
  have hp : (0 : ℚ) < den * 2 ^ k := by positivity
  rw [← Nat.cast_le (α := ℚ), Nat.cast_mul, ← le_div_iff₀ hs, scaled_div, le_div_iff₀ hp, mul_assoc,
    mul_comm (den : ℚ)]

theorem scaled_mono (h : a ≤ b) (den : Nat) (k : Int) :
    (scaled a den k).1 ≤ (scaled b den k).1 ∧ (scaled a den k).2 = (scaled b den k).2 := by
  unfold scaled
  split
  · exact ⟨Nat.mul_le_mul_right _ h, rfl⟩
  · exact ⟨h, rfl⟩

/-! ## Rounded quotients -/

/-- The exponent of a rounded quotient before a mantissa of one digit too many is halved. -/
def exponentFor (num den : Nat) : Int :=
  let low : Int := num.log2 - den.log2 - 53
  max (if Nat.pow 2 53 ≤ (scaled num den low).1 / (scaled num den low).2 then low + 1 else low)
    leastExponent

theorem value_ofRatio (h : num ≠ 0) : (ofRatio num den).value =
    roundHalfEven (scaled num den (exponentFor num den)).1
        (scaled num den (exponentFor num den)).2 * 2 ^ exponentFor num den := by
  have hdef : ofRatio num den =
      let mantissa := roundHalfEven (scaled num den (exponentFor num den)).1
        (scaled num den (exponentFor num den)).2
      if mantissa = Nat.pow 2 53 then ⟨Nat.pow 2 52, exponentFor num den + 1⟩
      else ⟨mantissa, exponentFor num den⟩ := by
    rw [ofRatio, if_neg h]
    rfl
  rw [hdef]
  dsimp only
  split
  · next hm =>
    rw [hm, value, zpow_add_one₀ two_ne_zero]
    norm_num
    ring
  · rfl

theorem exists_zpow_eq {e : Int} (h : e ≤ k) : ∃ n : Nat, (2 : ℚ) ^ k = n * 2 ^ e := by
  refine ⟨Nat.pow 2 (k - e).natAbs, ?_⟩
  rw [← zpow_of_nonneg (Int.sub_nonneg_of_le h), ← zpow_add₀ two_ne_zero, sub_add_cancel]

/-- Rounding does not pass a power of two from below. -/
theorem value_ofRatio_le_zpow (hn : num ≠ 0) (hd : 0 < den) (he : exponentFor num den ≤ k)
    (h : (num : ℚ) ≤ 2 ^ k * den) : (ofRatio num den).value ≤ 2 ^ k := by
  obtain ⟨n, hk⟩ := exists_zpow_eq he
  rw [hk] at h ⊢
  rw [value_ofRatio hn]
  have hround := roundHalfEven_le_of_le (scaled_pos hd _) ((scaled_le_iff hd).2 h)
  gcongr

/-- Rounding does not pass a power of two from above. -/
theorem zpow_le_value_ofRatio (hn : num ≠ 0) (hd : 0 < den) (he : exponentFor num den ≤ k)
    (h : (2 ^ k * den : ℚ) ≤ num) : 2 ^ k ≤ (ofRatio num den).value := by
  obtain ⟨n, hk⟩ := exists_zpow_eq he
  rw [hk] at h ⊢
  rw [value_ofRatio hn]
  have hround := le_roundHalfEven_of_le (scaled_pos hd _) ((le_scaled_iff hd).2 h)
  gcongr

/-! ## Whole numbers, rounded -/

/-- A whole number has the exponent that leaves it 53 digits. -/
theorem exponentFor_one (h : a ≠ 0) : exponentFor a 1 = a.log2 - 52 := by
  have hlow : (a.log2 : Int) - (1 : Nat).log2 - 53 = a.log2 - 53 := by
    have hone : Nat.log2 1 = 0 := by decide
    simp [hone]
  have hlarge : Nat.pow 2 53 ≤ (scaled a 1 (a.log2 - 53)).1 / (scaled a 1 (a.log2 - 53)).2 := by
    rw [Nat.le_div_iff_mul_le (scaled_pos Nat.one_pos _), le_scaled_iff Nat.one_pos]
    have hself : ((2 ^ a.log2 : Nat) : ℚ) ≤ a := by exact_mod_cast Nat.log2_self_le h
    refine le_trans (le_of_eq ?_) hself
    rw [zpow_sub₀ two_ne_zero]
    norm_num
    ring
  simp only [exponentFor]
  rw [hlow, if_pos hlarge, leastExponent]
  omega

theorem value_ofNat_le (h : a ≠ 0) : (ofNat a).value ≤ 2 ^ (a.log2 + 1 : Int) := by
  refine value_ofRatio_le_zpow h Nat.one_pos ?_ ?_
  · rw [exponentFor_one h]
    omega
  · have hlt : (a : ℚ) < (2 ^ (a.log2 + 1) : Nat) := by exact_mod_cast Nat.lt_log2_self
    rw [Nat.cast_one, mul_one]
    refine hlt.le.trans_eq ?_
    norm_cast

theorem le_value_ofNat (h : a ≠ 0) : (2 : ℚ) ^ (a.log2 : Int) ≤ (ofNat a).value := by
  refine zpow_le_value_ofRatio h Nat.one_pos ?_ ?_
  · rw [exponentFor_one h]
    omega
  · have hself : ((2 ^ a.log2 : Nat) : ℚ) ≤ a := by exact_mod_cast Nat.log2_self_le h
    rw [Nat.cast_one, mul_one]
    exact_mod_cast hself

theorem value_ofNat_pos (h : a ≠ 0) : 0 < (ofNat a).value :=
  (zpow_pos two_pos _).trans_le (le_value_ofNat h)

theorem value_ofNat_zero : (ofNat 0).value = 0 := by
  simp [ofNat, ofRatio, value]

/-- Rounding whole numbers keeps the order. -/
theorem value_ofNat_mono (h : a ≤ b) : (ofNat a).value ≤ (ofNat b).value := by
  by_cases ha : a = 0
  · subst ha
    rw [value_ofNat_zero]
    exact value_nonneg _
  have hb : b ≠ 0 := fun hb => ha (Nat.le_zero.1 (hb ▸ h))
  have hlog : a.log2 ≤ b.log2 := (Nat.le_log2 hb).2 ((Nat.log2_self_le ha).trans h)
  rcases hlog.lt_or_eq with hlt | heq
  · -- A power of two stands between the two.
    calc (ofNat a).value ≤ 2 ^ (a.log2 + 1 : Int) := value_ofNat_le ha
      _ ≤ 2 ^ (b.log2 : Int) := zpow_le_zpow_right₀ one_le_two (by omega)
      _ ≤ (ofNat b).value := le_value_ofNat hb
  · -- Both have one exponent, so their mantissas are in order.
    have hexp : exponentFor a 1 = exponentFor b 1 := by
      rw [exponentFor_one ha, exponentFor_one hb, heq]
    obtain ⟨hle, hden⟩ := scaled_mono h 1 (exponentFor b 1)
    rw [ofNat, ofNat, value_ofRatio ha, value_ofRatio hb, hexp, hden]
    gcongr
    exact roundHalfEven_mono hle

/-! ## Quotients -/

theorem value_ofRatio_le_one (hd : 0 < den) (h : num ≤ den) : (ofRatio num den).value ≤ 1 := by
  by_cases hn : num = 0
  · subst hn
    simp [ofRatio, value]
  · have hlog : num.log2 ≤ den.log2 :=
      (Nat.le_log2 hd.ne').2 ((Nat.log2_self_le hn).trans h)
    have hexp : exponentFor num den ≤ 0 := by
      simp only [exponentFor, leastExponent]
      split <;> omega
    have hle := value_ofRatio_le_zpow hn hd hexp (by simpa using h)
    simpa using hle

/-- A number over a number that is not less is at most one. -/
theorem value_div_le_one {a b : Binary64} (hb : 0 < b.value) (h : a.value ≤ b.value) :
    (a.div b).value ≤ 1 := by
  have ha : (0 : ℚ) < a.fraction.2 := by exact_mod_cast a.fraction_pos
  have hb' : (0 : ℚ) < b.fraction.2 := by exact_mod_cast b.fraction_pos
  rw [value_eq, value_eq, div_le_div_iff₀ ha hb', mul_comm (b.fraction.1 : ℚ)] at h
  rw [value_eq, div_pos_iff_of_pos_right hb'] at hb
  refine value_ofRatio_le_one (Nat.mul_pos a.fraction_pos ?_) ?_
  · exact_mod_cast hb
  · exact_mod_cast h

end Binary64

end Synopsis
