import Backlog.Proofs.LengthReplies
import Mathlib.Algebra.Order.Group.Unbundled.Abs
import Mathlib.Tactic.Common
import Mathlib.Tactic.Linarith
import Mathlib.Tactic.LinearCombination
import Mathlib.Tactic.Ring

/-!
# The nearest double

What the rounding function rounds to a magnitude lies in the range of that magnitude, so the range
tells which fractions are rounded to it. The neighbours of the magnitude lie as far outside of its
range as it lies inside: no double is nearer to a fraction of the range, and where one is as near,
the even significand has the fraction. That makes one magnitude the nearest, and rounding keeps the
order of the fractions.
-/

namespace Backlog

open Redis.Reply (units value_eq value_negative value_nonneg)

namespace Double

lemma halfEven_within (num : Nat) {den : Nat} (hden : 0 < den) :
    2 * halfEven num den * den ≤ 2 * num + den ∧ 2 * num ≤ 2 * halfEven num den * den + den ∧
      (2 * halfEven num den * den = 2 * num + den ∨ 2 * num = 2 * halfEven num den * den + den →
        halfEven num den % 2 = 0) := by
  have hsplit : num = num / den * den + num % den := (Nat.div_add_mod' num den).symm
  have hrest : num % den < den := Nat.mod_lt num hden
  have hbelow : 2 * (num / den) * den = 2 * (num / den * den) := Nat.mul_assoc 2 _ _
  have habove : 2 * (num / den + 1) * den = 2 * (num / den * den) + 2 * den := by ring
  unfold halfEven
  dsimp only
  split
  · rw [hbelow]
    omega
  · split
    · rw [habove]
      omega
    · split
      · rw [hbelow]
        omega
      · rw [habove]
        omega

end Double

namespace Magnitude

open Double

variable {m : Magnitude} {num den : Nat}

/-! ### Which fractions are rounded to a magnitude -/

lemma reach_eq_two_or (m : Magnitude) :
    m.reach = 2 ∨ m.reach = 1 ∧ m.significand = 2 ^ 52 ∧ m.shift ≠ 0 := by
  unfold reach
  split
  · next h => exact Or.inr ⟨rfl, h⟩
  · exact Or.inl rfl

/-- The range of a magnitude, around its units. -/
lemma rounds_iff : m.Rounds num den ↔
    4 * (units m * den) ≤ 4 * num + m.reach * (den * 2 ^ m.shift) ∧
      4 * num ≤ 4 * (units m * den) + 2 * (den * 2 ^ m.shift) ∧
      (4 * (units m * den) = 4 * num + m.reach * (den * 2 ^ m.shift) ∨
        4 * num = 4 * (units m * den) + 2 * (den * 2 ^ m.shift) → m.significand % 2 = 0) := by
  have hmiddle : units m * den = m.significand * (den * 2 ^ m.shift) := by
    rw [units]
    ring
  have hproduct : (4 * m.significand - m.reach) * (den * 2 ^ m.shift) =
      4 * (units m * den) - m.reach * (den * 2 ^ m.shift) := by
    rw [hmiddle, Nat.sub_mul, Nat.mul_assoc]
  have hupper : (4 * m.significand + 2) * (den * 2 ^ m.shift) =
      4 * (units m * den) + 2 * (den * 2 ^ m.shift) := by
    rw [hmiddle]
    ring
  constructor
  · rintro ⟨hlow, hhigh, hends⟩
    rw [hproduct] at hlow hends
    rw [hupper] at hhigh hends
    refine ⟨by omega, hhigh, fun hexact => hends ?_⟩
    omega
  · rintro ⟨hlow, hhigh, hends⟩
    refine ⟨by rw [hproduct]; omega, by rwa [hupper], ?_⟩
    rw [hproduct, hupper]
    intro hexact
    by_cases hzero : m.significand = 0
    · rw [hzero]
    · -- the range does not reach below zero
      have hle : m.reach * (den * 2 ^ m.shift) ≤ 4 * (units m * den) := by
        rw [hmiddle, ← Nat.mul_assoc 4]
        have := m.reach_le
        exact Nat.mul_le_mul_right _ (by omega)
      apply hends
      omega

/-- A fraction that is rounded on the grid of the magnitude is in its range. -/
lemma rounds_of_halfEven (hden : 0 < den)
    (hleast : m.shift = 0 ∨ 2 ^ 52 * (den * 2 ^ m.shift) ≤ num)
    (h : halfEven num (den * 2 ^ m.shift) = m.significand) : m.Rounds num den := by
  have hgrid : 0 < den * 2 ^ m.shift := Nat.mul_pos hden (Nat.two_pow_pos _)
  obtain ⟨hlow, hhigh, htie⟩ := halfEven_within num hgrid
  have hmiddle : m.significand * (den * 2 ^ m.shift) = units m * den := by
    rw [units]
    ring
  rw [h, Nat.mul_assoc, hmiddle] at hlow hhigh htie
  rw [rounds_iff]
  rcases m.reach_eq_two_or with hreach | ⟨hreach, hpower, hshift⟩
  · rw [hreach]
    refine ⟨by omega, by omega, fun hexact => htie ?_⟩
    omega
  · have hpoint := hleast.resolve_left hshift
    rw [← hpower, hmiddle] at hpoint
    exact ⟨by omega, by omega, fun _ => by omega⟩

/-- A fraction that is rounded up to a power of two, on the finer grid below it, is in the range of
that power. -/
lemma rounds_of_halfEven_below {k : Nat} (hden : 0 < den) (hk : m.shift = k + 1)
    (hpower : m.significand = 2 ^ 52) (hmost : num < 2 ^ 53 * (den * 2 ^ k))
    (h : halfEven num (den * 2 ^ k) = 2 ^ 53) : m.Rounds num den := by
  have hgrid : 0 < den * 2 ^ k := Nat.mul_pos hden (Nat.two_pow_pos _)
  have hone : m.reach = 1 := by rw [reach, if_pos ⟨hpower, by omega⟩]
  have hdouble : den * 2 ^ m.shift = 2 * (den * 2 ^ k) := by
    rw [hk, Nat.pow_succ]
    ring
  have hmiddle : units m * den = 2 ^ 53 * (den * 2 ^ k) := by
    rw [units, hpower, hk]
    ring
  obtain ⟨hlow, _, _⟩ := halfEven_within num hgrid
  rw [h] at hlow
  rw [rounds_iff, hmiddle, hone, hdouble]
  exact ⟨by omega, by omega, fun _ => by omega⟩

end Magnitude

namespace Double

/-- What is rounded to a magnitude is in its range. -/
theorem rounds_of_nearest {negative negative' : Bool} {m : Magnitude} {num den : Nat}
    (hden : 0 < den) (h : nearest negative num den = .finite negative' m) : m.Rounds num den := by
  obtain ⟨hleast, hmost⟩ := grid_of_log2 num hden
  rw [nearest, Nat.shiftLeft_eq] at h
  generalize Nat.log2 (num / den) - 52 = k at h hleast hmost
  have hgrid : 0 < den * 2 ^ k := Nat.mul_pos hden (Nat.two_pow_pos _)
  unfold ofParts at h
  split at h
  · obtain ⟨_, rfl⟩ := Double.finite.inj h
    exact Magnitude.rounds_of_halfEven hden hleast rfl
  · split at h
    · next hhalf =>
      obtain ⟨_, rfl⟩ := Double.finite.inj h
      have hle := halfEven_le hgrid hmost
      have hge := hhalf.2.2.resolve_left (Nat.succ_ne_zero k)
      have hq : halfEven num (den * 2 ^ k) = 2 ^ 53 := by omega
      refine Magnitude.rounds_of_halfEven_below hden rfl ?_ hmost hq
      simp [hq]
    · cases h

end Double

namespace Magnitude

open Double

variable {m m' : Magnitude} {num num' den : Nat}

/-! ### The neighbours of a magnitude -/

lemma two_mul_pow_shift_le (h : m'.shift < m.shift) : 2 * 2 ^ m'.shift ≤ 2 ^ m.shift := by
  rw [← Nat.pow_succ']
  exact Nat.pow_le_pow_right (by omega) h

lemma units_of_shift_le (h : m.shift ≤ m'.shift) :
    units m' = m'.significand * 2 ^ (m'.shift - m.shift) * 2 ^ m.shift := by
  rw [units, Nat.mul_assoc, ← Nat.pow_add, Nat.sub_add_cancel h]

/-- Above the finest grid a magnitude has 53 binary digits, or 54 on the finer grid below it. -/
lemma add_reach_le (hshift : m.shift ≠ 0) : 2 ^ 53 - 1 + m.reach ≤ 2 * m.significand := by
  have hreach := m.reach_le
  rcases Nat.eq_or_lt_of_le (m.le_significand hshift) with hpower | hlarge
  · have hone : m.reach = 1 := by rw [reach, if_pos ⟨hpower.symm, hshift⟩]
    omega
  · omega

/-- The next magnitude above is a whole last digit away. -/
lemma le_of_units_lt (h : units m < units m') : units m + 2 ^ m.shift ≤ units m' := by
  by_cases hshift : m.shift ≤ m'.shift
  · rw [units_of_shift_le hshift] at h ⊢
    rw [units] at h ⊢
    rw [← Nat.succ_mul]
    exact Nat.mul_le_mul_right _ (Nat.lt_of_mul_lt_mul_right h)
  · exfalso
    have hle := m.le_significand (by omega)
    have hlt := m'.significand_lt
    have hmul := Nat.mul_le_mul hle (two_mul_pow_shift_le (Nat.not_le.mp hshift))
    have hright := Nat.mul_le_mul_right (2 ^ m'.shift) hlt.le
    rw [units, units] at h
    omega

/-- The next magnitude below is twice the reach away, counted in quarters of the last digit. -/
lemma le_of_lt_units (h : units m' < units m) :
    2 * units m' + m.reach * 2 ^ m.shift ≤ 2 * units m := by
  have hreach := m.reach_le
  by_cases hshift : m.shift ≤ m'.shift
  · rw [units_of_shift_le hshift] at h ⊢
    rw [units] at h ⊢
    have hlt := Nat.lt_of_mul_lt_mul_right h
    rw [← Nat.mul_assoc 2, ← Nat.mul_assoc 2 m.significand, ← Nat.add_mul]
    exact Nat.mul_le_mul_right _ (by omega)
  · have hlt := m'.significand_lt
    have hmul := two_mul_pow_shift_le (Nat.not_le.mp hshift)
    have hpred := add_reach_le (m := m) (by omega)
    calc 2 * units m' + m.reach * 2 ^ m.shift
        = m'.significand * (2 * 2 ^ m'.shift) + m.reach * 2 ^ m.shift := by
          rw [units]
          ring
      _ ≤ (2 ^ 53 - 1) * 2 ^ m.shift + m.reach * 2 ^ m.shift :=
          Nat.add_le_add_right (Nat.mul_le_mul (by omega) hmul) _
      _ ≤ 2 * m.significand * 2 ^ m.shift := by
          rw [← Nat.add_mul]
          exact Nat.mul_le_mul_right _ hpred
      _ = 2 * units m := Nat.mul_assoc _ _ _

/-- A fraction has one magnitude to round to. -/
lemma Rounds.unique (h : m.Rounds num den) (h' : m'.Rounds num den) (hden : 0 < den) : m = m' := by
  have heq := nearest_of_rounds false h hden
  rw [nearest_of_rounds false h' hden] at heq
  exact (Double.finite.inj heq).2.symm

/-- Rounding keeps the order. -/
theorem Rounds.mono (h : m.Rounds num den) (h' : m'.Rounds num' den) (hden : 0 < den)
    (hle : num ≤ num') : units m ≤ units m' := by
  by_contra hlt
  rw [Nat.not_le] at hlt
  obtain ⟨hlow, _, _⟩ := rounds_iff.mp h
  obtain ⟨_, hhigh, _⟩ := rounds_iff.mp h'
  -- both fractions are the middle between the two magnitudes
  have habove := Nat.mul_le_mul_left den (le_of_units_lt hlt)
  have hbelow := Nat.mul_le_mul_left den (le_of_lt_units hlt)
  have heq : num = num' := by nlinarith
  subst heq
  rw [h.unique h' hden] at hlt
  exact Nat.lt_irrefl _ hlt

/-! ### As numbers -/

/-- The last binary digit of a magnitude, as a number. -/
def digit (m : Magnitude) : ℚ := (2 ^ m.shift : Nat) / unitsInOne

/-- No double is nearer to the number, and if another is as near then the significand is even. -/
structure NearestTo (m : Magnitude) (x : ℚ) : Prop where
  nearest : ∀ negative other, |x - value false m| ≤ |x - value negative other|
  even : ∀ negative other, value negative other ≠ value false m →
    |x - value negative other| = |x - value false m| → m.significand % 2 = 0

lemma digit_pos (m : Magnitude) : 0 < m.digit :=
  div_pos (Nat.cast_pos.mpr (Nat.two_pow_pos _)) (Nat.cast_pos.mpr unitsInOne_pos)

lemma div_units_mul (a den : Nat) :
    (a : ℚ) / unitsInOne * (den * unitsInOne) = (a * den : Nat) := by
  have hunits : (unitsInOne : ℚ) ≠ 0 := Nat.cast_ne_zero.mpr unitsInOne_pos.ne'
  rw [Nat.cast_mul, div_mul_eq_mul_div, ← mul_assoc, mul_div_cancel_right₀ _ hunits]

lemma value_mul_units (m : Magnitude) (den : Nat) :
    value false m * (den * unitsInOne) = (units m * den : Nat) := by
  rw [value_eq, div_units_mul]

lemma digit_mul_units (m : Magnitude) (den : Nat) :
    m.digit * (den * unitsInOne) = (den * 2 ^ m.shift : Nat) := by
  rw [digit, div_units_mul, Nat.mul_comm]

lemma value_eq_mul_digit (m : Magnitude) : value false m = m.significand * m.digit := by
  rw [value_eq, units, digit, Nat.cast_mul, mul_div_assoc]

lemma units_pos (h : value false m ≠ 0) : 0 < units m := by
  rw [Nat.pos_iff_ne_zero]
  intro hzero
  rw [value_eq, hzero, Nat.cast_zero, zero_div] at h
  exact h rfl

lemma positive_eq_or_far (m other : Magnitude) :
    value false other = value false m ∨ value false m + m.digit ≤ value false other ∨
      2 * value false other + m.reach * m.digit ≤ 2 * value false m := by
  have hunits : (0 : ℚ) < unitsInOne := Nat.cast_pos.mpr unitsInOne_pos
  rw [value_eq, value_eq, digit]
  generalize (unitsInOne : ℚ) = scale at hunits
  rw [← add_div, ← mul_div_assoc, ← mul_div_assoc, ← mul_div_assoc, ← add_div,
    div_le_div_iff_of_pos_right hunits, div_le_div_iff_of_pos_right hunits,
    div_left_inj' hunits.ne']
  norm_cast
  rcases Nat.lt_trichotomy (units m) (units other) with hlt | heq | hlt
  · exact Or.inr (Or.inl (le_of_units_lt hlt))
  · exact Or.inl heq.symm
  · exact Or.inr (Or.inr (le_of_lt_units hlt))

/-- The last digit of zero is the least double. -/
lemma digit_le_of_zero (hm : m.significand = 0) {other : Magnitude} (h : value false other ≠ 0) :
    m.digit ≤ value false other := by
  have hshift : m.shift = 0 := by
    by_contra hne
    have := m.le_significand hne
    omega
  rw [digit, hshift, value_eq, div_le_div_iff_of_pos_right (Nat.cast_pos.mpr unitsInOne_pos)]
  exact_mod_cast units_pos h

lemma negative_eq_or_far (m other : Magnitude) :
    value true other = value false m ∨
      2 * value true other + m.reach * m.digit ≤ 2 * value false m := by
  have hreach : (m.reach : ℚ) ≤ 2 := by exact_mod_cast m.reach_le
  have hroom := mul_le_mul_of_nonneg_right hreach m.digit_pos.le
  have hother := value_nonneg other
  rw [value_negative, value_eq_mul_digit m]
  by_cases hm : m.significand = 0
  · rw [hm, Nat.cast_zero, zero_mul]
    by_cases hzero : value false other = 0
    · rw [hzero]
      exact Or.inl neg_zero
    · have hleast := digit_le_of_zero hm hzero
      right
      linarith
  · have hone : (1 : ℚ) ≤ m.significand := by exact_mod_cast Nat.pos_of_ne_zero hm
    have hdigit := mul_le_mul_of_nonneg_right hone m.digit_pos.le
    right
    linarith

/-- Around a magnitude there is room on both sides. -/
lemma value_eq_or_far (m : Magnitude) (negative : Bool) (other : Magnitude) :
    value negative other = value false m ∨ value false m + m.digit ≤ value negative other ∨
      2 * value negative other + m.reach * m.digit ≤ 2 * value false m := by
  cases negative with
  | false => exact m.positive_eq_or_far other
  | true => exact (m.negative_eq_or_far other).imp_right Or.inr

/-- Around the middle of the range no other number is as near, but at an end. -/
lemma nearer_of_far {x v w digit reach : ℚ} (hlow : 4 * v ≤ 4 * x + reach * digit)
    (hhigh : 4 * x ≤ 4 * v + 2 * digit) (hdigit : 0 < digit) (hreach : 0 < reach)
    (hfar : v + digit ≤ w ∨ 2 * w + reach * digit ≤ 2 * v) :
    |x - v| ≤ |x - w| ∧ (|x - w| = |x - v| →
      4 * v = 4 * x + reach * digit ∨ 4 * x = 4 * v + 2 * digit) := by
  have hroom := mul_pos hreach hdigit
  rcases hfar with habove | hbelow
  · have hless : |x - w| = w - x := by
      rw [abs_sub_comm]
      exact abs_of_nonneg (by linarith)
    rw [hless]
    constructor
    · exact abs_le.mpr ⟨by linarith, by linarith⟩
    · intro htie
      right
      rcases abs_choice (x - v) with hsign | hsign <;> rw [hsign] at htie <;> linarith
  · have hmore : |x - w| = x - w := abs_of_nonneg (by linarith)
    rw [hmore]
    constructor
    · exact abs_le.mpr ⟨by linarith, by linarith⟩
    · intro htie
      left
      rcases abs_choice (x - v) with hsign | hsign <;> rw [hsign] at htie <;> linarith

/-- A magnitude is nearest to what is in its range. -/
theorem Rounds.nearestTo (h : m.Rounds num den) (hden : 0 < den) {x : ℚ}
    (hx : x * (den * unitsInOne) = num) : m.NearestTo x := by
  have hscale : (0 : ℚ) < den * unitsInOne := by
    exact_mod_cast Nat.mul_pos hden unitsInOne_pos
  have hvalue := m.value_mul_units den
  have hdigit := m.digit_mul_units den
  have hreach : (0 : ℚ) < m.reach := Nat.cast_pos.mpr m.reach_pos
  obtain ⟨hlow, hhigh, hends⟩ := rounds_iff.mp h
  have hlow' : 4 * value false m ≤ 4 * x + m.reach * m.digit := by
    have hcast : 4 * ((units m * den : Nat) : ℚ) ≤
        4 * num + m.reach * (den * 2 ^ m.shift : Nat) := by
      exact_mod_cast hlow
    rw [← hvalue, ← hdigit, ← hx] at hcast
    apply le_of_mul_le_mul_right _ hscale
    linarith
  have hhigh' : 4 * x ≤ 4 * value false m + 2 * m.digit := by
    have hcast : (4 : ℚ) * num ≤ 4 * (units m * den : Nat) + 2 * (den * 2 ^ m.shift : Nat) := by
      exact_mod_cast hhigh
    rw [← hvalue, ← hdigit, ← hx] at hcast
    apply le_of_mul_le_mul_right _ hscale
    linarith
  have hnearer : ∀ negative other, value negative other ≠ value false m → _ :=
    fun negative other hne => nearer_of_far hlow' hhigh' m.digit_pos hreach
      ((m.value_eq_or_far negative other).resolve_left hne)
  constructor
  · intro negative other
    by_cases hsame : value negative other = value false m
    · rw [hsame]
    · exact (hnearer negative other hsame).1
  · intro negative other hne htie
    apply hends
    refine ((hnearer negative other hne).2 htie).imp ?_ ?_
    · intro hexact
      have hcast : 4 * ((units m * den : Nat) : ℚ) =
          4 * num + m.reach * (den * 2 ^ m.shift : Nat) := by
        rw [← hvalue, ← hdigit, ← hx]
        linear_combination den * unitsInOne * hexact
      exact_mod_cast hcast
    · intro hexact
      have hcast : (4 : ℚ) * num = 4 * (units m * den : Nat) + 2 * (den * 2 ^ m.shift : Nat) := by
        rw [← hvalue, ← hdigit, ← hx]
        linear_combination den * unitsInOne * hexact
      exact_mod_cast hcast

/-! ### One nearest magnitude -/

lemma rounds_units (m : Magnitude) : m.Rounds (units m) 1 := by
  have hpos : 0 < m.reach * 2 ^ m.shift := Nat.mul_pos m.reach_pos (Nat.two_pow_pos _)
  rw [rounds_iff, Nat.mul_one, Nat.one_mul]
  refine ⟨Nat.le_add_right _ _, Nat.le_add_right _ _, ?_⟩
  have := Nat.two_pow_pos m.shift
  omega

lemma units_injective : Function.Injective units := by
  intro m m' h
  have hm := rounds_units m
  rw [h] at hm
  exact hm.unique (rounds_units m') Nat.one_pos

lemma value_lt_iff : value false m < value false m' ↔ units m < units m' := by
  rw [value_eq, value_eq, div_lt_div_iff_of_pos_right (Nat.cast_pos.mpr unitsInOne_pos),
    Nat.cast_lt]

/-- The magnitude after an even one. -/
lemma exists_succ (h : m.significand % 2 = 0) :
    ∃ next : Magnitude, next.significand = m.significand + 1 ∧
      units next = units m + 2 ^ m.shift := by
  obtain ⟨hmost, hshift, hleast⟩ := m.canonical
  refine ⟨⟨m.significand + 1, m.shift, by omega, hshift, by omega⟩, rfl, ?_⟩
  exact Nat.succ_mul _ _

lemma NearestTo.not_lt {x : ℚ} (h : m.NearestTo x) (h' : m'.NearestTo x) :
    ¬units m < units m' := by
  intro hlt
  have hvalue := value_lt_iff.mpr hlt
  have htie : |x - value false m'| = |x - value false m| :=
    le_antisymm (h'.nearest false m) (h.nearest false m')
  have heven := h.even false m' hvalue.ne' htie
  have heven' := h'.even false m hvalue.ne htie.symm
  obtain ⟨next, hnext, hunits⟩ := exists_succ heven
  rcases Nat.eq_or_lt_of_le (le_of_units_lt hlt) with hsame | hbetween
  · rw [← hunits] at hsame
    rw [← units_injective hsame] at heven'
    omega
  · -- the next magnitude lies between the two and would be nearer
    rw [← hunits] at hbetween
    have hpos : units m < units next := by
      rw [hunits]
      exact Nat.lt_add_of_pos_right (Nat.two_pow_pos _)
    have hlow := value_lt_iff.mpr hpos
    have hhigh := value_lt_iff.mpr hbetween
    have hmiddle : 2 * x = value false m + value false m' := by
      rcases abs_eq_abs.mp htie with hsame | hopposite
      · exact absurd (sub_right_injective hsame) hvalue.ne'
      · linarith
    have hless : |x - value false next| < x - value false m :=
      abs_lt.mpr ⟨by linarith, by linarith⟩
    have hnearer := (h.nearest false next).trans_lt hless
    exact absurd (le_abs_self _) (not_le.mpr hnearer)

/-- Of two magnitudes one at most is nearest to a number. -/
theorem NearestTo.unique {x : ℚ} (h : m.NearestTo x) (h' : m'.NearestTo x) : m = m' :=
  units_injective (le_antisymm (Nat.not_lt.mp (h'.not_lt h)) (Nat.not_lt.mp (h.not_lt h')))

lemma NearestTo.iff_eq {x : ℚ} (h : m.NearestTo x) : m'.NearestTo x ↔ m' = m := by
  constructor
  · exact fun h' => h'.unique h
  · rintro rfl
    exact h

end Magnitude

end Backlog
