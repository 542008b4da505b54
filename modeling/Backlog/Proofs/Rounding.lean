import Backlog.Number.Shortest
import Mathlib.Tactic.Common
import Mathlib.Tactic.Linarith
import Mathlib.Tactic.Ring

/-!
# Rounding to doubles

A fraction of a unit rounds to a magnitude if it lies within half of the gaps to the two neighbours,
an end of that range belonging to the even significand. The rounding function of the project gives
every such fraction its magnitude. Below a power of two the gap is half as wide, and a fraction
there is rounded on the finer grid first, to the one significand of 54 binary digits.
-/

namespace Backlog

namespace Double

/-- How many units make one. -/
def unitsInOne : Nat := 2 ^ 1074

lemma unitsInOne_pos : 0 < unitsInOne := pow_pos (by omega) 1074

lemma shiftLeft_eq_mul_pow (n a : Nat) : n <<< a = n * 2 ^ a := Nat.shiftLeft_eq n a

lemma shiftLeft_units (n : Nat) : n <<< 1074 = n * unitsInOne := shiftLeft_eq_mul_pow n 1074

lemma shiftRight_eq_div_pow (n a : Nat) : n >>> a = n / 2 ^ a := Nat.shiftRight_eq_div_pow n a

lemma shiftRight_units (n : Nat) : n >>> 1074 = n / unitsInOne := shiftRight_eq_div_pow n 1074

lemma halfEven_of_within {num den q : Nat} (hden : 0 < den) (hlow : 2 * q * den ≤ 2 * num + den)
    (hhigh : 2 * num ≤ 2 * q * den + den)
    (htie : 2 * q * den = 2 * num + den ∨ 2 * num = 2 * q * den + den → q % 2 = 0) :
    halfEven num den = q := by
  have hsplit : num = den * (num / den) + num % den := (Nat.div_add_mod num den).symm
  have hrest : num % den < den := Nat.mod_lt num hden
  unfold halfEven
  generalize num / den = a at hsplit ⊢
  generalize num % den = r at hsplit hrest ⊢
  subst hsplit
  have hle : a ≤ q := by
    by_contra hlt
    have := Nat.mul_le_mul_left den (Nat.not_le.mp hlt)
    nlinarith
  have hge : q ≤ a + 1 := by
    by_contra hlt
    have := Nat.mul_le_mul_left den (Nat.not_le.mp hlt)
    nlinarith
  rcases Nat.lt_or_ge a q with hlt | hsame
  · obtain rfl : q = a + 1 := by omega
    have hhalf : den ≤ 2 * r := by nlinarith
    rcases Nat.lt_or_ge den (2 * r) with hmore | hexact
    · simp only [Nat.not_lt.mpr hhalf, hmore, if_true, if_false]
    · have heven := htie (Or.inl (by nlinarith))
      simp only [Nat.not_lt.mpr hhalf, Nat.not_lt.mpr hexact, if_false]
      rw [if_neg (by omega)]
  · obtain rfl : a = q := by omega
    have hhalf : 2 * r ≤ den := by nlinarith
    rcases Nat.lt_or_ge (2 * r) den with hless | hexact
    · simp only [hless, if_true]
    · have heven := htie (Or.inr (by nlinarith))
      simp only [Nat.not_lt.mpr hhalf, Nat.not_lt.mpr hexact, if_false, heven, if_true]

end Double

namespace Magnitude

/-- How far the range of a magnitude reaches below it, in quarters of its last binary digit. -/
def reach (m : Magnitude) : Nat :=
  if m.significand = 4503599627370496 ∧ m.shift ≠ 0 then 1 else 2

/-- `num / den` units lie in the range of the magnitude. -/
structure Rounds (m : Magnitude) (num den : Nat) : Prop where
  low : (4 * m.significand - m.reach) * (den * 2 ^ m.shift) ≤ 4 * num
  high : 4 * num ≤ (4 * m.significand + 2) * (den * 2 ^ m.shift)
  ends : 4 * num = (4 * m.significand - m.reach) * (den * 2 ^ m.shift) ∨
    4 * num = (4 * m.significand + 2) * (den * 2 ^ m.shift) → m.significand % 2 = 0

variable {m : Magnitude} {num den : Nat}

lemma reach_le (m : Magnitude) : m.reach ≤ 2 := by
  unfold reach
  split <;> omega

lemma reach_pos (m : Magnitude) : 1 ≤ m.reach := by
  unfold reach
  split <;> omega

/-- On the grid of the magnitude the fraction is nearest to its significand. -/
lemma Rounds.halfEven (h : m.Rounds num den) (hden : 0 < den) :
    Double.halfEven num (den * 2 ^ m.shift) = m.significand := by
  obtain ⟨hlow, hhigh, hends⟩ := h
  have hgrid : 0 < den * 2 ^ m.shift := Nat.mul_pos hden (Nat.two_pow_pos _)
  have hreach := m.reach_le
  generalize den * 2 ^ m.shift = grid at hlow hhigh hends hgrid ⊢
  have hdistance : 4 * m.significand * grid ≤ (4 * m.significand - m.reach) * grid + 2 * grid := by
    rw [← Nat.add_mul]
    exact Nat.mul_le_mul_right grid (by omega)
  apply Double.halfEven_of_within hgrid
  · nlinarith
  · nlinarith
  · rintro (hexact | hexact)
    · apply hends
      left
      nlinarith
    · apply hends
      right
      nlinarith

lemma significand_lt (m : Magnitude) : m.significand < 2 ^ 53 := m.canonical.1

lemma shift_le (m : Magnitude) : m.shift ≤ 2045 := m.canonical.2.1

lemma le_significand (hshift : m.shift ≠ 0) : 2 ^ 52 ≤ m.significand :=
  m.canonical.2.2.resolve_left hshift

lemma Rounds.lt (h : m.Rounds num den) (hden : 0 < den) : num < 2 ^ 53 * (den * 2 ^ m.shift) := by
  have hgrid : 0 < den * 2 ^ m.shift := Nat.mul_pos hden (Nat.two_pow_pos _)
  have hhigh := h.high
  have hm := m.significand_lt
  generalize den * 2 ^ m.shift = grid at hgrid hhigh ⊢
  have hmul := Nat.mul_le_mul_right grid (show 4 * m.significand + 2 ≤ 4 * 2 ^ 53 - 2 by omega)
  omega

/-- A fraction below the power of two that it rounds to is rounded there from the finer grid. -/
lemma Rounds.below_power (h : m.Rounds num den) (hden : 0 < den) {k : Nat} (hk : m.shift = k + 1)
    (hbelow : num < 2 ^ 52 * (den * 2 ^ m.shift)) :
    m.significand = 2 ^ 52 ∧ 2 ^ 52 * (den * 2 ^ k) ≤ num ∧ num < 2 ^ 53 * (den * 2 ^ k) ∧
      Double.halfEven num (den * 2 ^ k) = 2 ^ 53 := by
  have hlow := h.low
  have hle := m.le_significand (by omega)
  have hreach := m.reach_le
  have hgrid : 0 < den * 2 ^ k := Nat.mul_pos hden (Nat.two_pow_pos _)
  have hdouble : den * 2 ^ m.shift = 2 * (den * 2 ^ k) := by
    rw [hk, Nat.pow_succ]
    ring
  have hpower : m.significand = 2 ^ 52 := by
    by_contra hne
    have hmul := Nat.mul_le_mul_right (den * 2 ^ m.shift)
      (show 4 * 2 ^ 52 + 2 ≤ 4 * m.significand - m.reach by omega)
    omega
  have hone : m.reach = 1 := by rw [reach, if_pos ⟨hpower, by omega⟩]
  rw [hdouble, hpower, hone] at hlow
  rw [hdouble] at hbelow
  generalize den * 2 ^ k = grid at hgrid hlow hbelow ⊢
  refine ⟨hpower, by omega, by omega, ?_⟩
  apply Double.halfEven_of_within hgrid
  · omega
  · omega
  · intro _
    rfl

end Magnitude

namespace Double

/-- A quotient of 53 binary digits and `k` more is rounded on the grid of `2 ^ k`. -/
lemma log2_sub_eq {num den k : Nat} (hden : 0 < den)
    (hlow : k = 0 ∨ 2 ^ 52 * (den * 2 ^ k) ≤ num) (hhigh : num < 2 ^ 53 * (den * 2 ^ k)) :
    Nat.log2 (num / den) - 52 = k := by
  have hupper : num / den < 2 ^ (53 + k) := by
    apply Nat.div_lt_of_lt_mul
    rw [Nat.pow_add]
    linarith
  by_cases hzero : num / den = 0
  · rcases hlow with rfl | hlow
    · rw [hzero, Nat.log2_zero]
    · have hle : den ≤ num := by
        have hgrid := Nat.mul_le_mul_left den (Nat.one_le_two_pow (n := k))
        omega
      have := (Nat.div_eq_zero_iff_lt hden).mp hzero
      omega
  · have hless := (Nat.log2_lt hzero).mpr hupper
    rcases hlow with rfl | hlow
    · omega
    · have hlower : 2 ^ (52 + k) ≤ num / den := by
        rw [Nat.le_div_iff_mul_le hden, Nat.pow_add]
        linarith
      have := (Nat.le_log2 hzero).mpr hlower
      omega

lemma nearest_eq {num den k : Nat} (negative : Bool) (hden : 0 < den)
    (hlow : k = 0 ∨ 2 ^ 52 * (den * 2 ^ k) ≤ num) (hhigh : num < 2 ^ 53 * (den * 2 ^ k)) :
    nearest negative num den = ofParts negative (halfEven num (den * 2 ^ k)) k := by
  rw [nearest, log2_sub_eq hden hlow hhigh, Nat.shiftLeft_eq]

lemma ofParts_canonical (negative : Bool) (m : Magnitude) :
    ofParts negative m.significand m.shift = .finite negative m := by
  rw [ofParts, dif_pos m.canonical]

/-- A significand of 54 binary digits gives one of them to the shift. -/
lemma ofParts_overflowing (negative : Bool) {m : Magnitude} {k : Nat} (hk : m.shift = k + 1)
    (hm : m.significand = 2 ^ 52) : ofParts negative (2 ^ 53) k = .finite negative m := by
  obtain ⟨significand, shift, hcanonical⟩ := m
  obtain rfl : shift = k + 1 := hk
  obtain rfl : significand = 2 ^ 52 := hm
  have hnot : ¬CanonicalParts (2 ^ 53) k := fun h => absurd h.1 (by decide)
  have hhalf : CanonicalParts (2 ^ 53 / 2) (k + 1) := hcanonical
  rw [ofParts, dif_neg hnot, dif_pos hhalf]
  rfl

/-- What rounds to a magnitude is rounded to it. -/
theorem nearest_of_rounds (negative : Bool) {m : Magnitude} {num den : Nat}
    (h : m.Rounds num den) (hden : 0 < den) :
    nearest negative num den = .finite negative m := by
  have hhigh := h.lt hden
  by_cases hbelow : m.shift ≠ 0 ∧ num < 2 ^ 52 * (den * 2 ^ m.shift)
  · obtain ⟨k, hk⟩ := Nat.exists_eq_succ_of_ne_zero hbelow.1
    obtain ⟨hpower, hleast, hmost, hhalf⟩ := h.below_power hden hk hbelow.2
    rw [nearest_eq negative hden (Or.inr hleast) hmost, hhalf,
      ofParts_overflowing negative hk hpower]
  · have hlow : m.shift = 0 ∨ 2 ^ 52 * (den * 2 ^ m.shift) ≤ num := by omega
    rw [nearest_eq negative hden hlow hhigh, h.halfEven hden, ofParts_canonical]

/-! ### Finite results -/

def IsFinite : Double → Prop
  | .finite _ _ => True
  | .infinite _ => False
  | .nan => False

instance : DecidablePred IsFinite := fun d =>
  match d with
  | .finite _ _ => .isTrue trivial
  | .infinite _ => .isFalse id
  | .nan => .isFalse id

lemma halfEven_eq_or (num den : Nat) :
    halfEven num den = num / den ∨ halfEven num den = num / den + 1 := by
  unfold halfEven
  grind

lemma halfEven_le {num den q : Nat} (hden : 0 < den) (h : num < q * den) :
    halfEven num den ≤ q := by
  have hlt := (Nat.div_lt_iff_lt_mul hden).mpr h
  rcases halfEven_eq_or num den with heq | heq <;> omega

lemma le_halfEven {num den q : Nat} (hden : 0 < den) (h : q * den ≤ num) :
    q ≤ halfEven num den := by
  have hle := (Nat.le_div_iff_mul_le hden).mpr h
  rcases halfEven_eq_or num den with heq | heq <;> omega

/-- A quotient is rounded on a grid where it has 53 binary digits, or on the finest. -/
lemma grid_of_log2 (num : Nat) {den : Nat} (hden : 0 < den) :
    (Nat.log2 (num / den) - 52 = 0 ∨
      2 ^ 52 * (den * 2 ^ (Nat.log2 (num / den) - 52)) ≤ num) ∧
    num < 2 ^ 53 * (den * 2 ^ (Nat.log2 (num / den) - 52)) := by
  have hsplit : ∀ a b : Nat, 2 ^ a * (den * 2 ^ b) = 2 ^ (a + b) * den := by
    intro a b
    rw [Nat.pow_add]
    ring
  rw [hsplit, hsplit]
  constructor
  · by_cases hshift : Nat.log2 (num / den) - 52 = 0
    · exact Or.inl hshift
    · have hne : num / den ≠ 0 := by
        intro hzero
        rw [hzero, Nat.log2_zero] at hshift
        exact hshift rfl
      right
      rw [show 52 + (Nat.log2 (num / den) - 52) = Nat.log2 (num / den) by omega,
        ← Nat.le_div_iff_mul_le hden]
      exact Nat.log2_self_le hne
  · rw [← Nat.div_lt_iff_lt_mul hden]
    exact Nat.lt_log2_self.trans_le (Nat.pow_le_pow_right (by omega) (by omega))

lemma ofParts_isFinite (negative : Bool) {significand shift : Nat} (hmost : significand ≤ 2 ^ 53)
    (hshift : shift ≤ 2044) (hleast : shift = 0 ∨ 2 ^ 52 ≤ significand) :
    (ofParts negative significand shift).IsFinite := by
  by_cases hfits : significand < 2 ^ 53
  · rw [ofParts, dif_pos ⟨hfits, by omega, hleast⟩]
    trivial
  · obtain rfl : significand = 2 ^ 53 := by omega
    have hnot : ¬CanonicalParts (2 ^ 53) shift := fun h => hfits h.1
    have hhalf : CanonicalParts (2 ^ 53 / 2) (shift + 1) :=
      ⟨by decide, by omega, Or.inr (by decide)⟩
    rw [ofParts, dif_neg hnot, dif_pos hhalf]
    trivial

/-- What is below `2 ^ 1023` is rounded to a finite double. -/
theorem nearest_isFinite (negative : Bool) {num den : Nat}
    (h : num < 2 ^ 2097 * den) : (nearest negative num den).IsFinite := by
  have hden : 0 < den := Nat.pos_of_mul_pos_left (Nat.zero_lt_of_lt h)
  have hshift : Nat.log2 (num / den) - 52 ≤ 2044 := by
    by_cases hzero : num / den = 0
    · simp [hzero]
    · have hunits := (Nat.div_lt_iff_lt_mul hden).mpr h
      have := (Nat.log2_lt hzero).mpr hunits
      omega
  obtain ⟨hleast, hmost⟩ := grid_of_log2 num hden
  rw [nearest, Nat.shiftLeft_eq]
  generalize Nat.log2 (num / den) - 52 = k at hshift hleast hmost ⊢
  have hgrid : 0 < den * 2 ^ k := Nat.mul_pos hden (Nat.two_pow_pos _)
  exact ofParts_isFinite negative (halfEven_le hgrid hmost) hshift
    (hleast.imp_right (le_halfEven hgrid))

end Double

end Backlog
