import Backlog.Proofs.Numerals
import Backlog.Proofs.Rounding

/-!
# Shortest decimals read back

The search for the shortest decimal only ever stops at a point of the rounding interval, and every
decimal in that interval is rounded to the magnitude. So the shortest decimal of a double reads back
as that double, however its zeros at the end are written.
-/

namespace Backlog

namespace RoundingInterval

variable {i : RoundingInterval}

/-- A hit on a grid is a point of the interval. -/
lemma contains_of_onGrid? {grid k : Nat} (h : i.onGrid? grid = some k) :
    i.contains (k * grid) = true := by
  unfold onGrid? at h
  dsimp only at h
  cases hbelow : i.contains (i.middle / grid * grid) <;>
    cases habove : i.contains ((i.middle / grid + 1) * grid)
  · simp [hbelow, habove] at h
  · simp only [hbelow, habove, Option.some.injEq] at h
    rw [← h, habove]
  · simp only [hbelow, habove, Option.some.injEq] at h
    rw [← h, hbelow]
  · simp only [hbelow, habove, Option.some.injEq] at h
    rcases Double.halfEven_eq_or i.middle grid with heq | heq
    · rw [← h, heq, hbelow]
    · rw [← h, heq, habove]

/-- The search ends at a point of the interval, at the latest at its middle. -/
theorem contains_coarsest (h : i.contains i.middle = true) (place : Nat) :
    i.contains ((i.coarsest place).1 * 10 ^ (i.coarsest place).2) = true := by
  induction place with
  | zero => simpa [coarsest] using h
  | succ place ih =>
    rw [coarsest]
    cases hgrid : i.onGrid? (Nat.pow 10 (place + 1)) with
    | none => exact ih
    | some digits => exact contains_of_onGrid? hgrid

end RoundingInterval

namespace Magnitude

open Double

/-- A decimal that lies in the range of the magnitude, counted in units of its last place. -/
def ReadsBack (m : Magnitude) (digits : Nat) (exponent : Int) : Prop :=
  ∃ n, m.interval.contains n = true ∧
    n * 10 ^ (-exponent).toNat = digits * 10 ^ (exponent.toNat + m.places)

variable {m : Magnitude} {digits : Nat} {exponent : Int}

/-- Zeros at the end of the digits do not matter. -/
lemma ReadsBack.append_zeros (h : m.ReadsBack digits exponent) (k : Nat) :
    m.ReadsBack (digits * 10 ^ k) (exponent - k) := by
  obtain ⟨n, hn, heq⟩ := h
  refine ⟨n, hn, ?_⟩
  have hexponents : (-(exponent - k)).toNat + exponent.toNat =
      (-exponent).toNat + k + (exponent - k).toNat := by omega
  apply Nat.eq_of_mul_eq_mul_right (Nat.pow_pos (n := exponent.toNat) (show 0 < 10 by omega))
  calc n * 10 ^ (-(exponent - k)).toNat * 10 ^ exponent.toNat
      = n * 10 ^ (-exponent).toNat * 10 ^ k * 10 ^ (exponent - k).toNat := by
        rw [Nat.mul_assoc, ← Nat.pow_add, hexponents, Nat.pow_add, Nat.pow_add]
        ring
    _ = digits * 10 ^ k * 10 ^ ((exponent - k).toNat + m.places) * 10 ^ exponent.toNat := by
        rw [heq, Nat.pow_add, Nat.pow_add]
        ring

lemma two_five_pow {a b : Nat} (h : b = a + 2) (s : Nat) :
    Nat.pow 2 (s - b) * Nat.pow 5 (b - s) * (4 * 2 ^ a) = 2 ^ s * 10 ^ (b - s) := by
  have htwo : 2 ^ (s - b) * 2 ^ (a + 2) = 2 ^ s * 2 ^ (b - s) := by
    rw [← Nat.pow_add, ← Nat.pow_add]
    congr 1
    omega
  calc 2 ^ (s - b) * 5 ^ (b - s) * (4 * 2 ^ a) = 2 ^ (s - b) * 2 ^ (a + 2) * 5 ^ (b - s) := by ring
    _ = 2 ^ s * 10 ^ (b - s) := by rw [htwo, Nat.mul_assoc, ← Nat.mul_pow]

/-- The unit of the interval is a quarter of the last binary digit. -/
lemma quarter_mul (m : Magnitude) :
    m.quarter * (4 * unitsInOne) = 2 ^ m.shift * 10 ^ m.places := by
  rw [quarter, places, unitsInOne]
  exact two_five_pow rfl m.shift

lemma quarter_pos (m : Magnitude) : 0 < m.quarter :=
  Nat.mul_pos (Nat.pow_pos (by omega)) (Nat.pow_pos (by omega))

lemma interval_low (m : Magnitude) :
    m.interval.low = (4 * m.significand - m.reach) * m.quarter := rfl

lemma interval_high (m : Magnitude) : m.interval.high = (4 * m.significand + 2) * m.quarter := rfl

lemma contains_iff {n : Nat} : m.interval.contains n = true ↔
    m.interval.low ≤ n ∧ n ≤ m.interval.high ∧
      (n = m.interval.low ∨ n = m.interval.high → m.significand % 2 = 0) := by
  have hclosed : m.interval.closed = decide (m.significand % 2 = 0) := rfl
  unfold RoundingInterval.contains
  rw [hclosed]
  by_cases heven : m.significand % 2 = 0
  · simp [heven]
  · simp only [heven, decide_false, Bool.false_eq_true, if_false, Bool.and_eq_true,
      decide_eq_true_eq, imp_false, not_or]
    omega

/-! ### Rounding the decimals of an interval -/

/-- A point of the interval, counted in units of a place, rounds to the magnitude. -/
lemma rounds_of_contains {n num den : Nat} (hn : m.interval.contains n = true)
    (heq : num * 10 ^ m.places = n * (den * unitsInOne)) (hden : 0 < den) : m.Rounds num den := by
  have hquarter := m.quarter_mul
  have hplaces : 0 < 10 ^ m.places := Nat.pow_pos (by omega)
  have hunit : 0 < den * unitsInOne := Nat.mul_pos hden unitsInOne_pos
  obtain ⟨hlow, hhigh, hends⟩ := contains_iff.mp hn
  rw [interval_low] at hlow hends
  rw [interval_high] at hhigh hends
  generalize 10 ^ m.places = ten at hquarter heq hplaces
  have hscale : ∀ k, k * (den * 2 ^ m.shift) * ten = 4 * (k * m.quarter * (den * unitsInOne)) := by
    intro k
    calc k * (den * 2 ^ m.shift) * ten = k * den * (2 ^ m.shift * ten) := by ring
      _ = 4 * (k * m.quarter * (den * unitsInOne)) := by
        rw [← hquarter]
        ring
  have hnum : 4 * num * ten = 4 * (n * (den * unitsInOne)) := by
    rw [Nat.mul_assoc, heq]
  refine ⟨?_, ?_, ?_⟩
  · apply Nat.le_of_mul_le_mul_right _ hplaces
    rw [hscale, hnum]
    exact Nat.mul_le_mul_left 4 (Nat.mul_le_mul_right _ hlow)
  · apply Nat.le_of_mul_le_mul_right _ hplaces
    rw [hscale, hnum]
    exact Nat.mul_le_mul_left 4 (Nat.mul_le_mul_right _ hhigh)
  · intro hexact
    have hsame : ∀ k, 4 * num = k * (den * 2 ^ m.shift) → n = k * m.quarter := by
      intro k hk
      have := congrArg (· * ten) hk
      simp only [hscale, hnum] at this
      exact Nat.eq_of_mul_eq_mul_right hunit (Nat.eq_of_mul_eq_mul_left (by omega) this)
    exact hends (hexact.imp (hsame _) (hsame _))

/-! ### The range of exponents -/

lemma two_pow_lt_ten_pow {a k : Nat} (h : a < 3 * k) : 2 ^ a < 10 ^ k := by
  calc 2 ^ a < 2 ^ (3 * k) := Nat.pow_lt_pow_right (by omega) h
    _ = 8 ^ k := Nat.pow_mul 2 3 k
    _ ≤ 10 ^ k := Nat.pow_le_pow_left (by omega) k

lemma four_units_lt : 4 * unitsInOne < 10 ^ 401 := by
  have hfour : ∀ a : Nat, 4 * 2 ^ a = 2 ^ (2 + a) := fun a => (Nat.pow_add 2 2 a).symm
  rw [unitsInOne, hfour]
  exact two_pow_lt_ten_pow (by omega)

/-- The powers of ten that are cut off as too large are beyond every interval. -/
lemma lt_of_contains {n : Nat} (hn : m.interval.contains n = true) :
    n < 10 ^ 401 * 10 ^ m.places := by
  obtain ⟨_, hhigh, _⟩ := contains_iff.mp hn
  have hsignificand : 4 * m.significand + 2 ≤ 4 * 2 ^ 53 := by
    have := m.significand_lt
    omega
  have hshift : 2 ^ m.shift ≤ 2 ^ 971 * unitsInOne := by
    rw [unitsInOne, ← pow_add]
    exact pow_le_pow_right₀ one_le_two (m.shift_le.trans (by omega))
  have hfactors : ∀ a b c d : Nat, 4 * a * (b * c) * d = a * b * d * (4 * c) := by
    intro a b c d
    ring
  have hle : n * (4 * unitsInOne) ≤ 2 ^ (53 + 971) * 10 ^ m.places * (4 * unitsInOne) := by
    calc n * (4 * unitsInOne) ≤ (4 * m.significand + 2) * m.quarter * (4 * unitsInOne) :=
          Nat.mul_le_mul_right _ hhigh
      _ = (4 * m.significand + 2) * 2 ^ m.shift * 10 ^ m.places := by
          rw [Nat.mul_assoc, m.quarter_mul, Nat.mul_assoc]
      _ ≤ 4 * 2 ^ 53 * (2 ^ 971 * unitsInOne) * 10 ^ m.places :=
          Nat.mul_le_mul_right _ (Nat.mul_le_mul hsignificand hshift)
      _ = 2 ^ (53 + 971) * 10 ^ m.places * (4 * unitsInOne) := by
          rw [pow_add]
          exact hfactors _ _ _ _
  have hunits : 0 < 4 * unitsInOne := Nat.mul_pos (by omega) unitsInOne_pos
  calc n ≤ 2 ^ (53 + 971) * 10 ^ m.places := Nat.le_of_mul_le_mul_right hle hunits
    _ < 10 ^ 401 * 10 ^ m.places :=
      Nat.mul_lt_mul_of_pos_right (two_pow_lt_ten_pow (by omega)) (Nat.pow_pos (by omega))

/-- No point of an interval but that of zero is below the inverse of it. -/
lemma le_mul_of_contains {n : Nat} (hm : m.significand ≠ 0)
    (hn : m.interval.contains n = true) : 10 ^ m.places ≤ n * (4 * unitsInOne) := by
  obtain ⟨hlow, _, _⟩ := contains_iff.mp hn
  have hreach := m.reach_le
  calc 10 ^ m.places ≤ 2 ^ m.shift * 10 ^ m.places := Nat.le_mul_of_pos_left _ (Nat.two_pow_pos _)
    _ = m.quarter * (4 * unitsInOne) := m.quarter_mul.symm
    _ ≤ (4 * m.significand - m.reach) * m.quarter * (4 * unitsInOne) :=
      Nat.mul_le_mul_right _ (Nat.le_mul_of_pos_left _ (by omega))
    _ ≤ n * (4 * unitsInOne) := Nat.mul_le_mul_right _ hlow

lemma lt_pow_length_write (n : Nat) : n < 10 ^ (Numeral.write n).length :=
  (Nat.length_toDigits_le_iff (by omega) Nat.length_toDigits_pos).mp le_rfl

/-- Exponents of decimals in the range of a magnitude are not cut off. -/
lemma ReadsBack.exponent_range (hm : m.significand ≠ 0) (hdigits : digits ≠ 0)
    (h : m.ReadsBack digits exponent) :
    exponent ≤ 400 ∧ -400 - ((Numeral.write digits).length : Int) ≤ exponent := by
  obtain ⟨n, hn, heq⟩ := h
  have hplaces : 0 < 10 ^ m.places := Nat.pow_pos (by omega)
  constructor
  · by_contra hlarge
    have hzero : (-exponent).toNat = 0 := by omega
    rw [hzero, pow_zero, Nat.mul_one, pow_add] at heq
    have hlt := lt_of_contains hn
    have hpow : 10 ^ 401 * 10 ^ m.places ≤ digits * (10 ^ exponent.toNat * 10 ^ m.places) := by
      calc 10 ^ 401 * 10 ^ m.places ≤ 10 ^ exponent.toNat * 10 ^ m.places :=
            Nat.mul_le_mul_right _ (pow_le_pow_right₀ (by omega) (by omega))
        _ ≤ digits * (10 ^ exponent.toNat * 10 ^ m.places) :=
            Nat.le_mul_of_pos_left _ (Nat.pos_of_ne_zero hdigits)
    exact absurd (hpow.trans_eq heq.symm) (Nat.not_le.mpr hlt)
  · by_contra hsmall
    have hzero : exponent.toNat = 0 := by omega
    rw [hzero, Nat.zero_add] at heq
    have hle := le_mul_of_contains hm hn
    have hdigit := lt_pow_length_write digits
    have hpow : 10 ^ (401 + (Numeral.write digits).length) ≤ 10 ^ (-exponent).toNat :=
      Nat.pow_le_pow_right (by omega) (by omega)
    have hcontra :
        10 ^ m.places * 10 ^ (-exponent).toNat < 10 ^ m.places * 10 ^ (-exponent).toNat := by
      calc 10 ^ m.places * 10 ^ (-exponent).toNat
          ≤ n * (4 * unitsInOne) * 10 ^ (-exponent).toNat := Nat.mul_le_mul_right _ hle
        _ = digits * 10 ^ m.places * (4 * unitsInOne) := by
            rw [← heq]
            ring
        _ < 10 ^ (Numeral.write digits).length * 10 ^ m.places * 10 ^ 401 := by
            apply Nat.mul_lt_mul'' _ four_units_lt
            exact Nat.mul_lt_mul_of_pos_right hdigit hplaces
        _ = 10 ^ m.places * 10 ^ (401 + (Numeral.write digits).length) := by
            rw [pow_add, Nat.mul_comm (10 ^ _), Nat.mul_assoc, Nat.mul_comm (10 ^ _) (10 ^ 401)]
        _ ≤ 10 ^ m.places * 10 ^ (-exponent).toNat := Nat.mul_le_mul_left _ hpow
    exact Nat.lt_irrefl _ hcontra

/-- A decimal in the range of a magnitude rounds to it. -/
lemma ReadsBack.rounds (h : m.ReadsBack digits exponent) :
    m.Rounds (digits * 10 ^ exponent.toNat * unitsInOne) (10 ^ (-exponent).toNat) := by
  obtain ⟨n, hn, heq⟩ := h
  apply rounds_of_contains hn _ (Nat.pow_pos (by omega))
  calc digits * 10 ^ exponent.toNat * unitsInOne * 10 ^ m.places
      = digits * 10 ^ (exponent.toNat + m.places) * unitsInOne := by
        rw [Nat.pow_add]
        ring
    _ = n * (10 ^ (-exponent).toNat * unitsInOne) := by
        rw [← heq]
        ring

/-- A decimal in the range of a magnitude is read as that magnitude. -/
theorem ReadsBack.ofDecimal_eq (h : m.ReadsBack digits exponent) (negative : Bool)
    (hm : m.significand ≠ 0) (hdigits : digits ≠ 0) :
    ofDecimal negative digits exponent = .finite negative m := by
  obtain ⟨hmost, hleast⟩ := h.exponent_range hm hdigits
  rw [ofDecimal, if_neg hdigits, if_neg (by omega), if_neg (by omega), shiftLeft_units]
  exact nearest_of_rounds negative h.rounds (Nat.pow_pos (by omega))

lemma contains_middle (hm : m.significand ≠ 0) : m.interval.contains m.interval.middle = true := by
  have hreach := m.reach_pos
  have hmiddle : m.interval.middle = 4 * m.significand * m.quarter := rfl
  have hlow : m.interval.low < m.interval.middle := by
    rw [interval_low, hmiddle]
    exact Nat.mul_lt_mul_of_pos_right (by omega) m.quarter_pos
  have hhigh : m.interval.middle < m.interval.high := by
    rw [interval_high, hmiddle]
    exact Nat.mul_lt_mul_of_pos_right (by omega) m.quarter_pos
  rw [contains_iff]
  omega

/-- The shortest decimal is in the range of its magnitude. -/
theorem readsBack_shortest (hm : m.significand ≠ 0) :
    m.ReadsBack m.shortest.digits m.shortest.exponent := by
  rw [shortest, if_neg hm]
  generalize (Numeral.write m.interval.high).length = place
  refine ⟨_, RoundingInterval.contains_coarsest (contains_middle hm) place, ?_⟩
  rw [Nat.mul_assoc, ← Nat.pow_add]
  congr 2
  dsimp only
  omega

lemma ReadsBack.digits_ne_zero (hm : m.significand ≠ 0) (h : m.ReadsBack digits exponent) :
    digits ≠ 0 := by
  rintro rfl
  obtain ⟨n, hn, heq⟩ := h
  have hle := le_mul_of_contains hm hn
  have hplaces : 0 < 10 ^ m.places := Nat.pow_pos (by omega)
  have hpow : 0 < 10 ^ (-exponent).toNat := Nat.pow_pos (by omega)
  rw [Nat.zero_mul] at heq
  obtain rfl := (Nat.mul_eq_zero.mp heq).resolve_right (by omega)
  omega

lemma shortest_of_zero (hm : m.significand = 0) : m.shortest = ⟨0, 0⟩ := by
  rw [shortest, if_pos hm]

/-- A magnitude whose significand is zero is that of zero. -/
lemma rounds_zero (hm : m.significand = 0) : m.Rounds 0 1 := by
  refine ⟨?_, Nat.zero_le _, fun _ => by rw [hm]⟩
  rw [hm, Nat.mul_zero, Nat.zero_sub, Nat.zero_mul]

/-- The shortest decimal, with any zeros at its end, is read as the double that it was made from. -/
theorem ofDecimal_shortest (negative : Bool) (m : Magnitude) (k : Nat) :
    ofDecimal negative (m.shortest.digits * 10 ^ k) (m.shortest.exponent - k) =
      .finite negative m := by
  by_cases hm : m.significand = 0
  · rw [shortest_of_zero hm, Nat.zero_mul, ofDecimal, if_pos rfl, zero]
    exact nearest_of_rounds negative (rounds_zero hm) (by omega)
  · have h := readsBack_shortest hm
    have hk := h.append_zeros k
    exact hk.ofDecimal_eq negative hm (hk.digits_ne_zero hm)

end Magnitude

end Backlog
