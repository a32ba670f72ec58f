import InputBindings.Number.Double
import Mathlib.Algebra.Order.Field.Basic
import Mathlib.Algebra.Order.Field.Power
import Mathlib.Algebra.Order.Field.Rat
import Mathlib.Data.Nat.Log
import Mathlib.Tactic.FieldSimp
import Mathlib.Tactic.Linarith
import Mathlib.Tactic.NormNum
import Mathlib.Tactic.Positivity
import Mathlib.Tactic.Ring

/-!
# The order of double-precision numbers

Numbers are compared by their values, so comparing is transitive, and total but for what
is no number. Rounding keeps the order of fractions: of two fractions in different
binades the powers of two between them decide, and within a binade both are rounded to
multiples of the same power.

Main statement: `ofRatio_mono`.
-/

namespace InputBindings.Number.Double

variable {num den num' den' : ℕ} {e f : ℤ} {s t : Bool} {m n : ℕ} {x y z : Double} {k : ℤ}

/-! ## Values -/

theorem scaleDown_pos (hden : 0 < den) (e : ℤ) : 0 < (scaleDown num den e).2 := by
  unfold scaleDown
  split
  · exact Nat.mul_pos hden (Nat.two_pow_pos _)
  · exact hden

/-- Scaling down divides a fraction by the power of two. -/
theorem scaleDown_div (num den : ℕ) (e : ℤ) :
    ((scaleDown num den e).1 : ℚ) / (scaleDown num den e).2 = num / den / 2 ^ e := by
  unfold scaleDown
  split
  · rename_i hnonneg
    have hpow : ((Nat.pow 2 e.toNat : ℕ) : ℚ) = 2 ^ e := by
      rw [Nat.pow_eq, Nat.cast_pow, ← zpow_natCast, Int.toNat_of_nonneg hnonneg]
      rfl
    rw [Nat.cast_mul, hpow, div_mul_eq_div_div]
  · rename_i hneg
    have hpow : ((Nat.pow 2 (-e).toNat : ℕ) : ℚ) = (2 ^ e)⁻¹ := by
      rw [Nat.pow_eq, Nat.cast_pow, ← zpow_natCast, Int.toNat_of_nonneg (by omega), zpow_neg]
      rfl
    rw [Nat.cast_mul, hpow, mul_div_right_comm, div_eq_mul_inv _ (2 ^ e : ℚ)]

/-- The value of a finite number. -/
def value (negative : Bool) (mantissa : ℕ) (exponent : ℤ) : ℚ :=
  (if negative then -1 else 1) * (mantissa * 2 ^ exponent)

theorem ratio_pos (s : Bool) (m : ℕ) (e : ℤ) : 0 < (ratio s m e).2 :=
  scaleDown_pos Nat.one_pos (-e)

theorem ratio_div (s : Bool) (m : ℕ) (e : ℤ) :
    ((ratio s m e).1 : ℚ) / (ratio s m e).2 = value s m e := by
  have hscale := scaleDown_div m 1 (-e)
  rw [Nat.cast_one, div_one, zpow_neg, div_inv_eq_mul] at hscale
  unfold ratio value
  cases s with
  | false => simpa using hscale
  | true =>
      simp only [↓reduceIte, Int.cast_neg, Int.cast_natCast, neg_div, hscale]
      ring

/-! ## Comparison -/

theorem le_finite_iff : le (.finite s m e) (.finite t n f) = true ↔ value s m e ≤ value t n f := by
  have hleft : (0 : ℚ) < (ratio s m e).2 := by exact_mod_cast ratio_pos s m e
  have hright : (0 : ℚ) < (ratio t n f).2 := by exact_mod_cast ratio_pos t n f
  rw [← ratio_div, ← ratio_div, div_le_div_iff₀ hleft hright]
  simp only [le, decide_eq_true_eq]
  exact_mod_cast Iff.rfl

theorem intLe_finite_iff : intLe k (.finite s m e) = true ↔ (k : ℚ) ≤ value s m e := by
  have hpos : (0 : ℚ) < (ratio s m e).2 := by exact_mod_cast ratio_pos s m e
  rw [← ratio_div, le_div_iff₀ hpos]
  simp only [intLe, decide_eq_true_eq]
  exact_mod_cast Iff.rfl

theorem le_trans (hxy : x.le y = true) (hyz : y.le z = true) : x.le z = true := by
  cases x with
  | nan => cases hxy
  | infinite s => cases y <;> cases z <;> grind [le]
  | finite s m e =>
  cases y with
  | nan => cases hxy
  | infinite t => cases z <;> simp_all [le]
  | finite t n f =>
  cases z with
  | nan => cases hyz
  | infinite _ => exact hyz
  | finite _ _ _ => exact le_finite_iff.mpr ((le_finite_iff.mp hxy).trans (le_finite_iff.mp hyz))

theorem le_total (hx : x ≠ .nan) (hy : y ≠ .nan) : x.le y = true ∨ y.le x = true := by
  cases x with
  | nan => exact absurd rfl hx
  | infinite s => cases y <;> cases s <;> simp_all [le]
  | finite s m e =>
  cases y with
  | nan => exact absurd rfl hy
  | infinite t => cases t <;> simp [le]
  | finite t n f =>
      rw [le_finite_iff, le_finite_iff]
      exact Rat.le_total

theorem intLe_of_le (hx : intLe k x = true) (hxy : x.le y = true) : intLe k y = true := by
  cases x with
  | nan => cases hxy
  | infinite s => cases y <;> simp_all [le, intLe]
  | finite s m e =>
  cases y with
  | nan => cases hxy
  | infinite t => exact hxy
  | finite t n f =>
      exact intLe_finite_iff.mpr ((intLe_finite_iff.mp hx).trans (le_finite_iff.mp hxy))

/-! ## Rounding -/

theorem nearest_bounds (num den : ℕ) :
    num / den ≤ nearest num den ∧ nearest num den ≤ num / den + 1 := by
  unfold nearest
  grind

theorem nearest_mono (hden : 0 < den) (hden' : 0 < den') (h : num * den' ≤ num' * den) :
    nearest num den ≤ nearest num' den' := by
  have hquotient : num / den ≤ num' / den' := by
    rw [Nat.le_div_iff_mul_le hden']
    refine Nat.le_of_mul_le_mul_right ?_ hden
    calc num / den * den' * den = num / den * den * den' := by ring
      _ ≤ num * den' := Nat.mul_le_mul_right _ (Nat.div_mul_le_self num den)
      _ ≤ num' * den := h
  rcases hquotient.lt_or_eq with hlt | heq
  · exact (nearest_bounds num den).2.trans (hlt.trans_le (nearest_bounds num' den').1)
  · -- With one whole part, the greater fraction is rounded up if the smaller is.
    have hremainder : num % den * den' ≤ num' % den' * den := by
      have hsplit : num = num / den * den + num % den := (Nat.div_add_mod' num den).symm
      have hsplit' : num' = num / den * den' + num' % den' := by
        rw [heq]
        exact (Nat.div_add_mod' num' den').symm
      nlinarith
    unfold nearest
    rw [← heq]
    have hless : den ≤ 2 * (num % den) → den' ≤ 2 * (num' % den') := by
      intro hle
      refine Nat.le_of_mul_le_mul_right ?_ hden
      nlinarith
    have hmore : den < 2 * (num % den) → den' < 2 * (num' % den') := by
      intro hlt
      refine Nat.lt_of_mul_lt_mul_right (a := den) ?_
      nlinarith
    grind

theorem nearest_one (k : ℕ) : nearest k 1 = k := by
  simp [nearest, Nat.mod_one]

theorem scaleDown_lt_iff (hden : 0 < den) (k : ℕ) :
    (scaleDown num den e).1 < k * (scaleDown num den e).2 ↔ (num / den : ℚ) < k * 2 ^ e := by
  have hpos : (0 : ℚ) < (scaleDown num den e).2 := by exact_mod_cast scaleDown_pos hden e
  rw [← div_lt_iff₀ (by positivity), ← scaleDown_div, div_lt_iff₀ hpos]
  exact_mod_cast Iff.rfl

/-- The binary logarithms of a fraction's parts tell it but for a factor of two. -/
theorem log2_div_bounds (hnum : 0 < num) (hden : 0 < den) :
    2 ^ ((num.log2 : ℤ) - den.log2 - 1) ≤ (num / den : ℚ) ∧
      (num / den : ℚ) < 2 ^ ((num.log2 : ℤ) - den.log2 + 1) := by
  have hdenq : (0 : ℚ) < den := by exact_mod_cast hden
  have hnumlow : (2 : ℚ) ^ num.log2 ≤ num := by exact_mod_cast Nat.log2_self_le hnum.ne'
  have hnumhigh : (num : ℚ) < 2 ^ (num.log2 + 1) := by exact_mod_cast Nat.lt_log2_self
  have hdenlow : (2 : ℚ) ^ den.log2 ≤ den := by exact_mod_cast Nat.log2_self_le hden.ne'
  have hdenhigh : (den : ℚ) < 2 ^ (den.log2 + 1) := by exact_mod_cast Nat.lt_log2_self
  constructor
  · rw [le_div_iff₀ hdenq]
    calc (2 : ℚ) ^ ((num.log2 : ℤ) - den.log2 - 1) * den
        ≤ 2 ^ ((num.log2 : ℤ) - den.log2 - 1) * 2 ^ ((den.log2 : ℤ) + 1) := by
          gcongr
          exact_mod_cast hdenhigh.le
      _ = 2 ^ num.log2 := by
          rw [← zpow_add₀ two_ne_zero, ← zpow_natCast]
          congr 1
          ring
      _ ≤ num := hnumlow
  · rw [div_lt_iff₀ hdenq]
    calc (num : ℚ) < 2 ^ (num.log2 + 1) := hnumhigh
      _ = 2 ^ ((num.log2 : ℤ) - den.log2 + 1) * 2 ^ (den.log2 : ℤ) := by
          rw [← zpow_add₀ two_ne_zero, ← zpow_natCast]
          congr 1
          push_cast
          ring
      _ ≤ 2 ^ ((num.log2 : ℤ) - den.log2 + 1) * den := by
          gcongr
          exact_mod_cast hdenlow

/-- The fraction has the exponent: the next power of two is above it, and the power itself
is not, unless the exponent is the least. -/
structure HasExponent (num den : ℕ) (e : ℤ) : Prop where
  least_le : leastExponent ≤ e
  lt : (num / den : ℚ) < 2 ^ (e + 53)
  le : e = leastExponent ∨ 2 ^ (e + 52) ≤ (num / den : ℚ)

theorem HasExponent.of_binade (hlow : 2 ^ (e + 52) ≤ (num / den : ℚ))
    (hhigh : (num / den : ℚ) < 2 ^ (e + 53)) : HasExponent num den (max leastExponent e) := by
  refine ⟨le_max_left _ _, hhigh.trans_le ?_, ?_⟩
  · exact zpow_le_zpow_right₀ one_le_two (by omega)
  · rcases Int.le_total e leastExponent with hle | hle
    · exact Or.inl (max_eq_left hle)
    · rw [max_eq_right hle]
      exact Or.inr hlow

theorem hasExponent (hnum : 0 < num) (hden : 0 < den) :
    HasExponent num den (exponentOf num den) := by
  obtain ⟨hlow, hhigh⟩ := log2_div_bounds hnum hden
  have hmantissa : ((leastMantissa : ℕ) : ℚ) = 2 ^ (52 : ℤ) := by norm_num [leastMantissa]
  unfold exponentOf
  simp only [scaleDown_lt_iff hden, hmantissa, ← zpow_add₀ (two_ne_zero (α := ℚ))]
  -- The guess is one too high if the fraction is below the power between the bounds.
  split
  · rename_i hlt
    refine .of_binade ?_ ?_
    · convert hlow using 2
      ring
    · convert hlt using 2
      ring
  · rename_i hle
    refine .of_binade ?_ ?_
    · rw [add_comm]
      exact not_lt.mp hle
    · convert hhigh using 2
      ring

/-- The fraction rounded to a multiple of the power of its exponent. -/
def mantissaOf (num den : ℕ) : ℕ :=
  nearest (scaleDown num den (exponentOf num den)).1 (scaleDown num den (exponentOf num den)).2

theorem mantissaOf_le (hnum : 0 < num) (hden : 0 < den) : mantissaOf num den ≤ 2 ^ 53 := by
  have hlt := (hasExponent hnum hden).lt
  rw [add_comm, zpow_add₀ two_ne_zero] at hlt
  have hscaled := (scaleDown_lt_iff hden (2 ^ 53)).mpr (by exact_mod_cast hlt)
  calc mantissaOf num den
      ≤ nearest (2 ^ 53) 1 :=
        nearest_mono (scaleDown_pos hden _) Nat.one_pos (by rw [mul_one]; exact hscaled.le)
    _ = 2 ^ 53 := nearest_one _

theorem le_mantissaOf (hnum : 0 < num) (hden : 0 < den)
    (he : exponentOf num den ≠ leastExponent) : 2 ^ 52 ≤ mantissaOf num den := by
  have hle := (hasExponent hnum hden).le.resolve_left he
  rw [add_comm, zpow_add₀ two_ne_zero] at hle
  have hscaled := mt (scaleDown_lt_iff hden (2 ^ 52)).mp (not_lt.mpr (by exact_mod_cast hle))
  calc 2 ^ 52 = nearest (2 ^ 52) 1 := (nearest_one _).symm
    _ ≤ mantissaOf num den :=
        nearest_mono Nat.one_pos (scaleDown_pos hden _) (by rw [mul_one]; exact not_lt.mp hscaled)

/-- The fraction rounded, whatever its magnitude. -/
def rounded (num den : ℕ) : ℚ := mantissaOf num den * 2 ^ exponentOf num den

/-- In one binade both fractions are rounded to multiples of the same power. -/
theorem mantissaOf_mono (hden : 0 < den) (hden' : 0 < den')
    (hexponent : exponentOf num den = exponentOf num' den') (h : (num / den : ℚ) ≤ num' / den') :
    mantissaOf num den ≤ mantissaOf num' den' := by
  unfold mantissaOf
  rw [hexponent]
  have hpos : (0 : ℚ) < (scaleDown num den (exponentOf num' den')).2 := by
    exact_mod_cast scaleDown_pos hden _
  have hpos' : (0 : ℚ) < (scaleDown num' den' (exponentOf num' den')).2 := by
    exact_mod_cast scaleDown_pos hden' _
  have hscaled : (num / den : ℚ) / 2 ^ exponentOf num' den' ≤
      num' / den' / 2 ^ exponentOf num' den' := by gcongr
  rw [← scaleDown_div, ← scaleDown_div, div_le_div_iff₀ hpos hpos'] at hscaled
  exact nearest_mono (scaleDown_pos hden _) (scaleDown_pos hden' _) (by exact_mod_cast hscaled)

theorem rounded_mono (hnum : 0 < num) (hden : 0 < den) (hnum' : 0 < num') (hden' : 0 < den')
    (h : (num / den : ℚ) ≤ num' / den') : rounded num den ≤ rounded num' den' := by
  have hleft := hasExponent hnum hden
  have hright := hasExponent hnum' hden'
  unfold rounded
  rcases lt_trichotomy (exponentOf num den) (exponentOf num' den') with hlt | heq | hgt
  · have hleast : exponentOf num' den' ≠ leastExponent :=
      (hleft.least_le.trans_lt hlt).ne'
    calc (mantissaOf num den : ℚ) * 2 ^ exponentOf num den
        ≤ 2 ^ 53 * 2 ^ exponentOf num den := by
          gcongr
          exact_mod_cast mantissaOf_le hnum hden
      _ = 2 ^ 52 * 2 ^ (exponentOf num den + 1) := by
          rw [zpow_add_one₀ two_ne_zero]
          ring
      _ ≤ 2 ^ 52 * 2 ^ exponentOf num' den' := by
          gcongr
          · exact one_le_two
          · exact hlt
      _ ≤ mantissaOf num' den' * 2 ^ exponentOf num' den' := by
          gcongr
          exact_mod_cast le_mantissaOf hnum' hden' hleast
  · have hmantissa := mantissaOf_mono hden hden' heq h
    rw [heq]
    gcongr
  · -- The smaller fraction would be above a power of two that the greater is below.
    exfalso
    have hlow := hleft.le.resolve_left (hright.least_le.trans_lt hgt).ne'
    have hpow : (2 : ℚ) ^ (exponentOf num' den' + 53) ≤ 2 ^ (exponentOf num den + 52) :=
      zpow_le_zpow_right₀ one_le_two (by omega)
    exact absurd (hright.lt.trans_le (hpow.trans (hlow.trans h))) (lt_irrefl _)

/-- A fraction is rounded to a number with its exponent, or with the next one if the
mantissa is carried. -/
theorem ofRatio_eq (s : Bool) (hnum : 0 < num) (hden : 0 < den) :
    ∃ (m : ℕ) (e : ℤ), ofRatio s num den =
        (if greatestExponent < e then .infinite s else .finite s m e) ∧
      m * 2 ^ e = rounded num den ∧ m < 2 ^ 53 ∧ (leastExponent < e → 2 ^ 52 ≤ m) := by
  have hmantissa : mantissaOf num den = nearest
      (scaleDown num den (exponentOf num den)).1 (scaleDown num den (exponentOf num den)).2 := rfl
  have htwice : 2 * leastMantissa = 2 ^ 53 := by decide
  unfold ofRatio rounded
  rw [if_neg hnum.ne']
  simp only [← hmantissa, htwice, decide_eq_true_eq]
  rcases (mantissaOf_le hnum hden).lt_or_eq with hlt | hcarried
  · rw [if_neg (Nat.not_le.mpr hlt), if_neg (Nat.not_le.mpr hlt)]
    exact ⟨_, _, rfl, rfl, hlt, fun hleast => le_mantissaOf hnum hden hleast.ne'⟩
  · rw [if_pos hcarried.ge, if_pos hcarried.ge, hcarried]
    refine ⟨_, _, rfl, ?_, by norm_num, fun _ => by norm_num⟩
    rw [zpow_add_one₀ two_ne_zero]
    norm_num
    ring

/-- The power of two above all finite numbers. -/
def limit : ℚ := 2 ^ 53 * 2 ^ greatestExponent

/-- A rounded fraction is out of range, or the value of the number that it is rounded to. -/
theorem ofRatio_cases (s : Bool) (hnum : 0 < num) (hden : 0 < den) :
    (ofRatio s num den = .infinite s ∧ limit ≤ rounded num den) ∨
    ∃ (m : ℕ) (e : ℤ), ofRatio s num den = .finite s m e ∧ m * 2 ^ e = rounded num den ∧
      rounded num den < limit := by
  obtain ⟨m, e, heq, hvalue, hlt, hleast⟩ := ofRatio_eq s hnum hden
  rw [heq, ← hvalue, limit]
  split
  · rename_i hrange
    have hrange' : leastExponent < e := Int.lt_trans (by decide) hrange
    refine Or.inl ⟨rfl, ?_⟩
    calc (2 : ℚ) ^ 53 * 2 ^ greatestExponent
        = 2 ^ 52 * 2 ^ (greatestExponent + 1) := by
          rw [zpow_add_one₀ two_ne_zero]
          ring
      _ ≤ (m : ℚ) * 2 ^ e := by
          gcongr
          · exact_mod_cast hleast hrange'
          · exact one_le_two
          · exact hrange
  · rename_i hrange
    refine Or.inr ⟨m, e, rfl, rfl, ?_⟩
    calc (m : ℚ) * 2 ^ e < 2 ^ 53 * 2 ^ e := by
          gcongr
          exact_mod_cast hlt
      _ ≤ 2 ^ 53 * 2 ^ greatestExponent := by
          gcongr
          · exact one_le_two
          · exact Int.not_lt.mp hrange

theorem value_false (m : ℕ) (e : ℤ) : value false m e = m * 2 ^ e := by
  simp [value]

theorem value_zero (s : Bool) (e : ℤ) : value s 0 e = 0 := by
  simp [value]

theorem ofRatio_zero (s : Bool) (den : ℕ) : ofRatio s 0 den = zero s := rfl

theorem zero_le_ofRatio (num : ℕ) (hden : 0 < den) :
    le (zero false) (ofRatio false num den) = true := by
  rcases Nat.eq_zero_or_pos num with rfl | hnum
  · exact le_finite_iff.mpr (le_refl _)
  rcases ofRatio_cases false hnum hden with ⟨heq, -⟩ | ⟨m, e, heq, -, -⟩
  · rw [heq]
    rfl
  · rw [heq, zero, le_finite_iff, value_zero, value_false]
    positivity

/-- **Rounding keeps the order of fractions.** -/
theorem ofRatio_mono (hden : 0 < den) (hden' : 0 < den') (h : (num / den : ℚ) ≤ num' / den') :
    le (ofRatio false num den) (ofRatio false num' den') = true := by
  rcases Nat.eq_zero_or_pos num with rfl | hnum
  · exact zero_le_ofRatio num' hden'
  have hnum' : 0 < num' := by
    have hpos : (0 : ℚ) < num' / den' := lt_of_lt_of_le (by positivity) h
    by_contra hzero
    rw [Nat.eq_zero_of_not_pos hzero, Nat.cast_zero, zero_div] at hpos
    exact lt_irrefl _ hpos
  have hrounded := rounded_mono hnum hden hnum' hden' h
  rcases ofRatio_cases false hnum hden with ⟨heq, hout⟩ | ⟨m, e, heq, hvalue, hin⟩
  · rcases ofRatio_cases false hnum' hden' with ⟨heq', -⟩ | ⟨_, _, -, -, hin'⟩
    · rw [heq, heq']
      rfl
    · exact absurd (hout.trans hrounded) (not_le.mpr hin')
  · rcases ofRatio_cases false hnum' hden' with ⟨heq', -⟩ | ⟨m', e', heq', hvalue', -⟩
    · rw [heq, heq']
      rfl
    · rw [heq, heq', le_finite_iff, value_false, value_false, hvalue, hvalue']
      exact hrounded

theorem ofRatio_ne_nan (s : Bool) (num den : ℕ) : ofRatio s num den ≠ .nan := by
  unfold ofRatio
  split
  · exact nofun
  · simp only
    split <;> split <;> exact nofun

/-! ## Arithmetic -/

/-- The sum of two numbers, one of them positive, is their exact sum rounded. -/
theorem exists_add_eq (hsign : (s && t) = false) (h : 0 ≤ value s m e + value t n f) :
    ∃ num den : ℕ, 0 < den ∧ (num / den : ℚ) = value s m e + value t n f ∧
      add (.finite s m e) (.finite t n f) = ofRatio false num den := by
  obtain ⟨sum, hsum⟩ : ∃ sum, sum = (ratio s m e).1 * (ratio t n f).2 +
      (ratio t n f).1 * (ratio s m e).2 := ⟨_, rfl⟩
  have hleft : (0 : ℚ) < (ratio s m e).2 := by exact_mod_cast ratio_pos s m e
  have hright : (0 : ℚ) < (ratio t n f).2 := by exact_mod_cast ratio_pos t n f
  have hvalue : (sum : ℚ) / ((ratio s m e).2 * (ratio t n f).2 : ℕ) =
      value s m e + value t n f := by
    rw [← ratio_div, ← ratio_div, div_add_div _ _ hleft.ne' hright.ne', hsum]
    push_cast
    ring
  have hden : 0 < (ratio s m e).2 * (ratio t n f).2 :=
    Nat.mul_pos (ratio_pos s m e) (ratio_pos t n f)
  have hnonneg : 0 ≤ sum := by
    have hdenq : (0 : ℚ) < ((ratio s m e).2 * (ratio t n f).2 : ℕ) := by exact_mod_cast hden
    rw [← hvalue, le_div_iff₀ hdenq, zero_mul] at h
    exact_mod_cast h
  have habs : ((sum.natAbs : ℕ) : ℚ) = sum := by
    rw [Nat.cast_natAbs, abs_of_nonneg hnonneg]
  refine ⟨sum.natAbs, _, hden, by rw [habs, hvalue], ?_⟩
  simp only [add, ← hsum]
  split
  · rename_i hzero
    rw [hzero, hsign]
    rfl
  · rw [decide_eq_false (Int.not_lt.mpr hnonneg)]

/-- The product of two numbers is their exact product rounded. -/
theorem exists_mul_eq (s t : Bool) (m n : ℕ) (e f : ℤ) :
    ∃ num den : ℕ, 0 < den ∧ (num / den : ℚ) = |value s m e * value t n f| ∧
      mul (.finite s m e) (.finite t n f) = ofRatio (s != t) num den := by
  refine ⟨((ratio s m e).1 * (ratio t n f).1).natAbs, (ratio s m e).2 * (ratio t n f).2,
    Nat.mul_pos (ratio_pos s m e) (ratio_pos t n f), ?_, rfl⟩
  rw [← ratio_div, ← ratio_div, div_mul_div_comm, abs_div, Nat.cast_natAbs]
  push_cast
  rw [abs_of_nonneg (by positivity : (0 : ℚ) ≤ (ratio s m e).2 * (ratio t n f).2)]

theorem add_ne_nan (hy : y ≠ .nan) : add (.finite s m e) y ≠ .nan := by
  cases y with
  | nan => exact absurd rfl hy
  | infinite t => exact nofun
  | finite t n f =>
      simp only [add]
      split
      · exact nofun
      · exact ofRatio_ne_nan _ _ _

theorem mul_ne_nan (hx : x ≠ .nan) (hn : n ≠ 0) : mul x (.finite t n f) ≠ .nan := by
  cases x with
  | nan => exact absurd rfl hx
  | infinite s =>
      simp only [mul, if_neg hn]
      exact nofun
  | finite s m e => exact ofRatio_ne_nan _ _ _

theorem neg_ne_nan (hx : x ≠ .nan) : x.neg ≠ .nan := by
  cases x with
  | nan => exact absurd rfl hx
  | infinite s => exact nofun
  | finite s m e => exact nofun

/-- A fraction that is rounded to at most a finite number is rounded to a finite one. -/
theorem exists_ofRatio_eq (hden : 0 < den)
    (h : le (ofRatio false num den) (.finite t n f) = true) :
    ∃ (m : ℕ) (e : ℤ), ofRatio false num den = .finite false m e := by
  rcases Nat.eq_zero_or_pos num with rfl | hnum
  · exact ⟨_, _, rfl⟩
  rcases ofRatio_cases false hnum hden with ⟨heq, -⟩ | ⟨m, e, heq, -, -⟩
  · rw [heq] at h
    cases h
  · exact ⟨m, e, heq⟩

end InputBindings.Number.Double
