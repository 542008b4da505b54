import Backlog.Proofs.NearestDouble
import Backlog.Proofs.Payload
import Backlog.Proofs.Report
import Mathlib.Algebra.Order.Field.Power

/-!
# Published counts

A count is published as the double nearest to it. Up to `2 ^ 53` the last digit of a double that a
count is rounded to divides the count, so nothing is lost, and the whole numbers in the range of
such a double are few: the count alone, or at `2 ^ 53` the next one too, which is odd. So no coarser
decimal than the count reads back, and the literal in a payload has the digits that an answer has.
Beyond `2 ^ 53` a value is still whole, and it is half of a last digit away at most.
-/

namespace Backlog

open Redis.Reply (units value_eq)

namespace Magnitude

open Double

variable {m : Magnitude} {n j : Nat}

/-! ### Counts in units -/

lemma Rounds.within_units (h : m.Rounds (n * unitsInOne) 1) :
    4 * units m ≤ 4 * (n * unitsInOne) + m.reach * 2 ^ m.shift ∧
      4 * (n * unitsInOne) ≤ 4 * units m + 2 * 2 ^ m.shift := by
  obtain ⟨hlow, hhigh, _⟩ := rounds_iff.mp h
  rw [Nat.mul_one, Nat.one_mul] at hlow hhigh
  exact ⟨hlow, hhigh⟩

lemma pow_shift_le {k : Nat} (h : m.shift ≤ 1074 + k) : 2 ^ m.shift ≤ 2 ^ k * unitsInOne := by
  rw [unitsInOne, ← Nat.pow_add, Nat.add_comm k]
  exact Nat.pow_le_pow_right (by omega) h

lemma pow_shift_ge {k : Nat} (h : 1074 + k ≤ m.shift) : 2 ^ k * unitsInOne ≤ 2 ^ m.shift := by
  rw [unitsInOne, ← Nat.pow_add, Nat.add_comm k]
  exact Nat.pow_le_pow_right (by omega) h

lemma pow_shift_dvd {k : Nat} (h : m.shift ≤ 1074 + k) : 2 ^ m.shift ∣ 2 ^ k * unitsInOne := by
  rw [unitsInOne, ← Nat.pow_add, Nat.add_comm k]
  exact Nat.pow_dvd_pow 2 h

/-- The last digit of what a count is rounded to. -/
lemma Rounds.shift_le_of_lt (h : m.Rounds (n * unitsInOne) 1) {k : Nat}
    (hn : 4 * n < (2 ^ 54 - 1) * 2 ^ (k + 1)) : m.shift ≤ 1074 + k := by
  by_contra hlarge
  have hsignificand := add_reach_le (m := m) (by omega)
  have hreach := m.reach_pos
  have hlow := h.low
  rw [Nat.one_mul] at hlow
  have hunits := Nat.mul_lt_mul_of_pos_right hn unitsInOne_pos
  have hge := pow_shift_ge (m := m) (k := k + 1) (by omega)
  have hcontra := calc (2 ^ 54 - 1) * 2 ^ (k + 1) * unitsInOne
      = (2 ^ 54 - 1) * (2 ^ (k + 1) * unitsInOne) := Nat.mul_assoc _ _ _
    _ ≤ (4 * m.significand - m.reach) * 2 ^ m.shift := Nat.mul_le_mul (by omega) hge
    _ ≤ 4 * (n * unitsInOne) := hlow
  rw [Nat.mul_assoc 4] at hunits
  omega

/-- What the last digit divides is not rounded. -/
lemma Rounds.units_of_dvd (h : m.Rounds (n * unitsInOne) 1) (hdvd : 2 ^ m.shift ∣ n * unitsInOne) :
    units m = n * unitsInOne := by
  obtain ⟨hlow, hhigh⟩ := h.within_units
  obtain ⟨k, hk⟩ := hdvd
  have hpos : 0 < 2 ^ m.shift := Nat.two_pow_pos _
  have hreach := Nat.mul_le_mul_right (2 ^ m.shift) m.reach_le
  rw [hk, Nat.mul_comm _ k] at hlow hhigh ⊢
  rw [units] at hlow hhigh ⊢
  have hmost : 4 * m.significand ≤ 4 * k + 2 := by
    apply Nat.le_of_mul_le_mul_right _ hpos
    linarith
  have hleast : 4 * k ≤ 4 * m.significand + 2 := by
    apply Nat.le_of_mul_le_mul_right _ hpos
    linarith
  rw [show m.significand = k by omega]

/-! ### Small counts -/

/-- Up to `2 ^ 53` a count is not rounded. -/
theorem Rounds.units_eq (h : m.Rounds (n * unitsInOne) 1) (hn : n ≤ 2 ^ 53) :
    units m = n * unitsInOne := by
  apply h.units_of_dvd
  rcases Nat.eq_or_lt_of_le hn with rfl | hless
  · have hshift := h.shift_le_of_lt (k := 1) (by decide)
    exact pow_shift_dvd (hshift.trans (by omega))
  · have hshift := h.shift_le_of_lt (k := 0) (by omega)
    apply Dvd.dvd.mul_left
    exact pow_dvd_pow 2 hshift

/-! ### Counts of 64 bits -/

/-- The value of a count is whole. -/
theorem Rounds.exists_units_eq (h : m.Rounds (n * unitsInOne) 1) :
    ∃ k, units m = k * unitsInOne := by
  by_cases hshift : 1074 ≤ m.shift
  · refine ⟨m.significand * 2 ^ (m.shift - 1074), ?_⟩
    rw [units, unitsInOne, Nat.mul_assoc, ← Nat.pow_add, Nat.sub_add_cancel hshift]
  · refine ⟨n, h.units_eq ?_⟩
    have hlt := h.lt Nat.one_pos
    have hpow : 2 ^ m.shift ≤ unitsInOne := pow_le_pow_right₀ one_le_two (by omega)
    have hless : n * unitsInOne < 2 ^ 53 * unitsInOne := by
      rw [Nat.one_mul] at hlt
      exact hlt.trans_le (Nat.mul_le_mul_left _ hpow)
    exact (Nat.lt_of_mul_lt_mul_right hless).le

/-- A count of 64 bits is moved by half of a last digit at most, and that is never above 1024. -/
theorem Rounds.units_near (h : m.Rounds (n * unitsInOne) 1) (hn : n < 2 ^ 64) :
    units m ≤ (n + 1024) * unitsInOne ∧ n * unitsInOne ≤ units m + 1024 * unitsInOne := by
  obtain ⟨hlow, hhigh⟩ := h.within_units
  have hshift := h.shift_le_of_lt (k := 12) (by omega)
  have hreach := Nat.mul_le_mul_right (2 ^ m.shift) m.reach_le
  rw [Nat.add_mul]
  rcases Nat.eq_or_lt_of_le hshift with hlast | hless
  · -- the last binade begins with `2 ^ 64`, which only the range below it rounds to
    have hge := pow_shift_ge (m := m) (k := 12) hlast.ge
    have hle := pow_shift_le (m := m) (k := 12) hlast.le
    have hless := Nat.mul_lt_mul_of_pos_right hn unitsInOne_pos
    have hpower : m.significand = 2 ^ 52 := by
      by_contra hne
      have hleast := m.le_significand (by omega)
      have hmore : (2 ^ 52 + 1) * 2 ^ m.shift ≤ units m := Nat.mul_le_mul_right _ (by omega)
      omega
    have hunits : units m = 2 ^ 52 * 2 ^ m.shift := by rw [units, hpower]
    have hone : m.reach = 1 := by rw [reach, if_pos ⟨hpower, by omega⟩]
    rw [hone] at hlow
    omega
  · have hpow := pow_shift_le (m := m) (k := 11) (by omega)
    constructor <;> omega

end Magnitude

/-! ### Coarse decimals -/

namespace RoundingInterval

variable {i : RoundingInterval} {k least : Nat}

/-- On a grid that the middle is on, it is what is found. -/
lemma onGrid?_of_middle {grid : Nat} (hgrid : 0 < grid) (hmiddle : i.middle = k * grid)
    (h : i.contains i.middle = true) : i.onGrid? grid = some k := by
  have hbelow : i.middle / grid = k := by rw [hmiddle, Nat.mul_div_cancel _ hgrid]
  have hnearest : Double.halfEven i.middle grid = k := by
    apply Double.halfEven_of_within hgrid
    · rw [hmiddle, Nat.mul_assoc]
      exact Nat.le_add_right _ _
    · rw [hmiddle, Nat.mul_assoc]
      exact Nat.le_add_right _ _
    · rw [hmiddle, Nat.mul_assoc]
      omega
  have hcontains : i.contains (k * grid) = true := by rwa [← hmiddle]
  rw [onGrid?]
  simp only [hbelow, hcontains, hnearest]
  cases i.contains ((k + 1) * grid) <;> rfl

/-- If there is a point on some grid, the search stops at a grid that is as coarse. -/
lemma coarsest_of_onGrid? (hleast : 0 < least) (h : i.onGrid? (10 ^ least) ≠ none) {place : Nat}
    (hplace : least ≤ place) :
    least ≤ (i.coarsest place).2 ∧
      i.onGrid? (10 ^ (i.coarsest place).2) = some (i.coarsest place).1 := by
  induction place with
  | zero => omega
  | succ place ih =>
    rw [coarsest]
    cases hgrid : i.onGrid? (Nat.pow 10 (place + 1)) with
    | some digits => exact ⟨hplace, hgrid⟩
    | none =>
      apply ih
      rcases Nat.eq_or_lt_of_le hplace with rfl | hless
      · exact absurd hgrid h
      · omega

end RoundingInterval

namespace Magnitude

open Double

variable {m : Magnitude} {n j : Nat}

lemma Rounds.middle_eq (h : m.Rounds (n * unitsInOne) 1) (hn : n ≤ 2 ^ 53) :
    m.interval.middle = n * 10 ^ m.places := by
  have hunits : 0 < 4 * unitsInOne := Nat.mul_pos (by omega) unitsInOne_pos
  apply Nat.eq_of_mul_eq_mul_right hunits
  calc m.interval.middle * (4 * unitsInOne)
      = 4 * m.significand * (m.quarter * (4 * unitsInOne)) := Nat.mul_assoc _ _ _
    _ = 4 * units m * 10 ^ m.places := by
        rw [m.quarter_mul, units]
        ring
    _ = n * 10 ^ m.places * (4 * unitsInOne) := by
        rw [h.units_eq hn]
        ring

/-- The whole numbers that are rounded to a count. -/
lemma Rounds.whole_of_contains (h : m.Rounds (n * unitsInOne) 1) (hn : n ≤ 2 ^ 53)
    (hj : m.interval.contains (j * 10 ^ m.places) = true) :
    j = n ∨ j = n + 1 ∧ n = 2 ^ 53 := by
  have hsame : j * unitsInOne * 10 ^ m.places = j * 10 ^ m.places * (1 * unitsInOne) := by ring
  have hrounds := rounds_of_contains hj hsame Nat.one_pos
  have hunits := h.units_eq hn
  by_cases hsmall : j ≤ 2 ^ 53
  · left
    rw [hrounds.units_eq hsmall] at hunits
    exact Nat.eq_of_mul_eq_mul_right unitsInOne_pos hunits
  · have hpow := pow_shift_le (h.shift_le_of_lt (k := 1) (by omega))
    have hmost := hrounds.within_units.2
    rw [hunits] at hmost
    have hle : j * unitsInOne ≤ (n + 1) * unitsInOne := by
      rw [Nat.add_mul]
      omega
    have := Nat.le_of_mul_le_mul_right hle unitsInOne_pos
    omega

lemma Rounds.significand_eq_zero_iff (h : m.Rounds (n * unitsInOne) 1) (hn : n ≤ 2 ^ 53) :
    m.significand = 0 ↔ n = 0 := by
  have hunits := h.units_eq hn
  have hpos := unitsInOne_pos
  have hpow : 0 < 2 ^ m.shift := Nat.two_pow_pos _
  constructor
  · intro hzero
    rw [units, hzero, Nat.zero_mul] at hunits
    exact (Nat.mul_eq_zero.mp hunits.symm).resolve_right hpos.ne'
  · rintro rfl
    rw [units, Nat.zero_mul] at hunits
    exact (Nat.mul_eq_zero.mp hunits).resolve_right hpow.ne'

/-- The search comes as far as the grid of the whole numbers. -/
lemma places_le_length (h : m.interval.middle = n * 10 ^ m.places) (hm : m.significand ≠ 0)
    (hn : n ≠ 0) : m.places ≤ (Numeral.write m.interval.high).length := by
  have hle : 10 ^ m.places ≤ m.interval.high := by
    calc 10 ^ m.places ≤ n * 10 ^ m.places := Nat.le_mul_of_pos_left _ (Nat.pos_of_ne_zero hn)
      _ = m.interval.middle := h.symm
      _ ≤ m.interval.high := (contains_iff.mp (contains_middle hm)).2.1
  have hlt := hle.trans_lt (lt_pow_length_write m.interval.high)
  exact ((Nat.pow_lt_pow_iff_right (by omega)).mp hlt).le

lemma Rounds.onGrid?_whole (h : m.Rounds (n * unitsInOne) 1) (hn : n ≤ 2 ^ 53)
    (hm : m.significand ≠ 0) : m.interval.onGrid? (10 ^ m.places) = some n :=
  RoundingInterval.onGrid?_of_middle (Nat.pow_pos (by omega)) (h.middle_eq hn) (contains_middle hm)

/-- What is found on a grid as coarse as that of the whole numbers is the count. -/
lemma Rounds.found_eq (h : m.Rounds (n * unitsInOne) 1) (hn : n ≤ 2 ^ 53) (hm : m.significand ≠ 0)
    {digits e : Nat} (hfound : m.interval.onGrid? (10 ^ (m.places + e)) = some digits) :
    digits * 10 ^ e = n := by
  have hpoint := RoundingInterval.contains_of_onGrid? hfound
  rw [Nat.pow_add, Nat.mul_comm (10 ^ m.places), ← Nat.mul_assoc] at hpoint
  rcases h.whole_of_contains hn hpoint with hsame | ⟨hnext, rfl⟩
  · exact hsame
  · cases e with
    | zero =>
      rw [Nat.add_zero, h.onGrid?_whole hn hm] at hfound
      rw [← Option.some.inj hfound]
      rfl
    | succ e =>
      -- the next number is odd, so it is not on a coarser grid
      rw [Nat.pow_succ, ← Nat.mul_assoc] at hnext
      omega

/-- The shortest decimal of a count up to `2 ^ 53` is the count. -/
theorem Rounds.shortest_eq (h : m.Rounds (n * unitsInOne) 1) (hn : n ≤ 2 ^ 53) :
    ∃ e : Nat, m.shortest.exponent = e ∧ m.shortest.digits * 10 ^ e = n ∧ (n = 0 → e = 0) := by
  by_cases hm : m.significand = 0
  · rw [shortest_of_zero hm, (h.significand_eq_zero_iff hn).mp hm]
    exact ⟨0, rfl, rfl, fun _ => rfl⟩
  · have hne := (h.significand_eq_zero_iff hn).not.mp hm
    have hplaces : 0 < m.places := by
      have := h.shift_le_of_lt (k := 1) (by omega)
      rw [places]
      omega
    have hwhole : m.interval.onGrid? (10 ^ m.places) ≠ none :=
      Option.ne_none_iff_exists'.mpr ⟨n, h.onGrid?_whole hn hm⟩
    obtain ⟨hcoarse, hfound⟩ := RoundingInterval.coarsest_of_onGrid? hplaces hwhole
      (places_le_length (h.middle_eq hn) hm hne)
    rw [shortest, if_neg hm]
    dsimp only
    generalize m.interval.coarsest _ = found at hcoarse hfound ⊢
    obtain ⟨e, he⟩ := Nat.exists_eq_add_of_le hcoarse
    rw [he] at hfound
    exact ⟨e, by omega, h.found_eq hn hm hfound, fun hzero => absurd hzero hne⟩

end Magnitude

/-! ### Literals -/

namespace Numeral

/-- A power of ten puts zeros after the digits. -/
lemma write_mul_pow {n : Nat} (hn : 0 < n) (e : Nat) :
    write (n * 10 ^ e) = write n ++ List.replicate e '0' := by
  induction e with
  | zero => rw [Nat.pow_zero, Nat.mul_one, List.replicate_zero, List.append_nil]
  | succ e ih =>
    have hpos : 0 < n * 10 ^ e := Nat.mul_pos hn (Nat.pow_pos (by omega))
    have hlast := Nat.toDigits_append_toDigits (b := 10) (d := 0) (by omega) hpos (by omega)
    rw [List.replicate_succ', ← List.append_assoc, ← ih, Nat.pow_succ, ← Nat.mul_assoc,
      Nat.mul_comm _ 10]
    exact hlast.symm

end Numeral

namespace Decimal

/-- A whole number below `10 ^ 16` is written with its digits, a point and a zero. -/
lemma write_of_whole {d : Decimal} {n e : Nat} (he : d.exponent = e) (hd : d.digits * 10 ^ e = n)
    (hzero : n = 0 → e = 0) (hn : n < 10 ^ 16) :
    d.write .data = Numeral.write n ++ ['.', '0'] := by
  have hdigits : Numeral.write n = Numeral.write d.digits ++ List.replicate e '0' := by
    rcases Nat.eq_zero_or_pos d.digits with hnone | hpos
    · rw [hnone, Nat.zero_mul] at hd
      rw [hzero hd.symm, hnone, ← hd, List.replicate_zero, List.append_nil]
    · rw [← hd, Numeral.write_mul_pow hpos]
  have hlength : (Numeral.write n).length ≤ 16 :=
    (Nat.length_toDigits_le_iff (by omega) (by omega)).mpr hn
  have hpos := List.length_pos_of_ne_nil (Numeral.write_ne_nil d.digits)
  rw [hdigits, List.length_append, List.length_replicate] at hlength
  rw [write, he, hdigits, if_pos, positional, if_pos (by omega)]
  · rw [Int.toNat_natCast]
  · simp only [Layout.data]
    omega

/-- The number that a literal denotes. -/
def Parts.value (p : Parts) : ℚ := p.digits * 10 ^ p.scale

lemma Parts.value_mul (p : Parts) :
    p.value * (10 ^ (-p.scale).toNat : Nat) = (p.digits * 10 ^ p.scale.toNat : Nat) := by
  have hpow : (10 : ℚ) ^ p.scale * 10 ^ (-p.scale).toNat = 10 ^ p.scale.toNat := by
    rw [← zpow_natCast, ← zpow_natCast, ← zpow_add₀ (by decide)]
    congr 1
    omega
  rw [value, Nat.cast_mul, Nat.cast_pow, Nat.cast_pow, Nat.cast_ofNat, mul_assoc, hpow]

end Decimal

namespace Double

variable {m : Magnitude} {n : Nat}

/-- The literal of a double denotes a number that the double is nearest to. -/
theorem nearestTo_literal (m : Magnitude) : ∃ p : Decimal.Parts, p.WellFormed ∧
    writeFinite .data false m = p.text ∧ m.NearestTo p.value := by
  obtain ⟨p, hp, htext⟩ := exists_spells_shortest m
  obtain ⟨k, hdigits, hscale⟩ := hp.value
  refine ⟨p, hp.wellFormed, htext, ?_⟩
  by_cases hm : m.significand = 0
  · have hzero : p.value = 0 := by
      rw [Decimal.Parts.value, hdigits, Magnitude.shortest_of_zero hm, Nat.zero_mul, Nat.cast_zero,
        zero_mul]
    apply (Magnitude.rounds_zero hm).nearestTo Nat.one_pos
    rw [hzero, zero_mul, Nat.cast_zero]
  · have hreads := (Magnitude.readsBack_shortest hm).append_zeros k
    rw [← hdigits, ← hscale] at hreads
    apply hreads.rounds.nearestTo (Nat.pow_pos (by omega))
    rw [← mul_assoc, p.value_mul, ← Nat.cast_mul]

/-- Up to `2 ^ 53` the literal of a count has the digits of the count. -/
theorem writeFinite_of_count (h : m.Rounds (n * unitsInOne) 1) (hn : n ≤ 2 ^ 53) :
    writeFinite .data false m = Numeral.write n ++ ['.', '0'] := by
  obtain ⟨e, he, hd, hzero⟩ := h.shortest_eq hn
  exact Decimal.write_of_whole he hd hzero (hn.trans_lt (by decide))

-- beyond that it is another number
example : inspect (ofNat 9007199254740993) = "9007199254740992.0" := by decide +kernel

/-! ### Values -/

lemma value_of_units {k : Nat} (h : units m = k * unitsInOne) : value false m = k := by
  have hunits : (unitsInOne : ℚ) ≠ 0 := Nat.cast_ne_zero.mpr unitsInOne_pos.ne'
  rw [value_eq, h, Nat.cast_mul, mul_div_cancel_right₀ _ hunits]

lemma rounds_of_ofNat {negative : Bool} (h : ofNat n = .finite negative m) :
    m.Rounds (n * unitsInOne) 1 := by
  rw [ofNat, shiftLeft_units] at h
  exact rounds_of_nearest Nat.one_pos h

lemma exists_ofNat (hn : n < 2 ^ 64) :
    ∃ m : Magnitude, ofNat n = .finite false m ∧ m.Rounds (n * unitsInOne) 1 := by
  have hfinite := ofNat_isFinite hn
  cases hvalue : ofNat n with
  | finite negative m =>
    have hrounds := rounds_of_ofNat hvalue
    rw [ofNat, shiftLeft_units, nearest_of_rounds false hrounds Nat.one_pos] at hvalue
    exact ⟨m, hvalue.symm, hrounds⟩
  | infinite negative =>
    rw [hvalue] at hfinite
    cases hfinite
  | nan =>
    rw [hvalue] at hfinite
    cases hfinite

/-- The value that a count of 64 bits has as a double. -/
structure Carries (m : Magnitude) (n : Nat) : Prop where
  nearest : ∀ other : Magnitude, other.NearestTo n ↔ other = m
  whole : ∃ k : Nat, value false m = k ∧ k ≤ n + 1024 ∧ n ≤ k + 1024
  exact : n ≤ 2 ^ 53 → value false m = n

lemma carries_of_rounds (h : m.Rounds (n * unitsInOne) 1) (hn : n < 2 ^ 64) : Carries m n := by
  have hnearest : m.NearestTo n := by
    apply h.nearestTo Nat.one_pos
    rw [Nat.cast_one, one_mul, Nat.cast_mul]
  constructor
  · exact fun other => hnearest.iff_eq
  · obtain ⟨k, hk⟩ := h.exists_units_eq
    obtain ⟨hmost, hleast⟩ := h.units_near hn
    rw [hk] at hmost hleast
    rw [← Nat.add_mul] at hleast
    exact ⟨k, value_of_units hk, Nat.le_of_mul_le_mul_right hmost unitsInOne_pos,
      Nat.le_of_mul_le_mul_right hleast unitsInOne_pos⟩
  · exact fun hsmall => value_of_units (h.units_eq hsmall)

lemma value_mono {m' : Magnitude} {n' : Nat} (h : m.Rounds (n * unitsInOne) 1)
    (h' : m'.Rounds (n' * unitsInOne) 1) (hle : n ≤ n') : value false m ≤ value false m' := by
  rw [value_eq, value_eq]
  apply div_le_div_of_nonneg_right _ (Nat.cast_nonneg _)
  exact_mod_cast h.mono h' Nat.one_pos (Nat.mul_le_mul_right _ hle)

end Double

/-! ### Payloads and answers -/

/-- The literal that a payload has for the value of a count, and the numeral that an answer has for
the count. -/
structure Printed (m : Magnitude) (n : Nat) (literal numeral : String) : Prop where
  nearest : ∃ p : Decimal.Parts, p.WellFormed ∧ literal.toList = p.text ∧
    ∀ other : Magnitude, other.NearestTo p.value ↔ other = m
  denotes : Numeral.Denotes numeral.toList n
  digits : ∀ c ∈ numeral.toList, c.isDigit = true
  alike : n ≤ 2 ^ 53 → literal = numeral ++ ".0"

lemma printed_of_rounds {m : Magnitude} {n : Nat} (h : m.Rounds (n * Double.unitsInOne) 1) :
    Printed m n (String.ofList (Double.writeFinite .data false m)) (Numeral.text n) := by
  have htext : (Numeral.text n).toList = Numeral.write n := String.toList_ofList
  constructor
  · obtain ⟨p, hp, hwrite, hnearest⟩ := Double.nearestTo_literal m
    exact ⟨p, hp, by rw [String.toList_ofList, hwrite], fun other => hnearest.iff_eq⟩
  · rw [htext]
    exact Numeral.denotes_write n
  · rw [htext]
    exact fun c hc => Numeral.isDigit_of_mem_write hc
  · intro hn
    rw [Double.writeFinite_of_count h hn, String.ofList_append]
    rfl

namespace Batch

/-- The value of a reading is the double nearest to its length. It is whole, keeps the order of the
lengths, is within 1024 of the length, and up to `2 ^ 53` it is the length. The literal of a payload
denotes a number that this double is nearest to; up to `2 ^ 53` it consists of the digits that an
answer has for the reading, a point and a zero. -/
theorem counts_published_as_answered :
    (∀ (r : Reading) (now : Instant), ∃ m : Magnitude,
      (Datum.ofReading r now).value = .finite false m ∧ Double.Carries m r.length.toNat) ∧
    (∀ (r r' : Reading) (now now' : Instant) (m m' : Magnitude),
      (Datum.ofReading r now).value = .finite false m →
      (Datum.ofReading r' now').value = .finite false m' → r.length ≤ r'.length →
        Double.value false m ≤ Double.value false m') ∧
    ∀ (metricNamespace message : String) (rs : List Reading) (now : Instant),
      ∃ (payload : Json) (item : Reading → Json) (member : Reading → String × Json),
        Json.read (ofReadings metricNamespace rs now).toJson.text = .ok payload ∧
        (∀ points text, .logged metricNamespace points text ∈
          (Publisher.dryRun (ofReadings metricNamespace rs now)).effects →
            Json.read text = .ok payload) ∧
        payload.member? "data" = some (.array (rs.map item)) ∧
        Json.read (Envelope.ofSummary ⟨message, rs⟩).body =
          .ok (.object (("message", .string message) :: rs.map member)) ∧
        ∀ r ∈ rs, ∃ (m : Magnitude) (literal numeral : String),
          (Datum.ofReading r now).value = .finite false m ∧
          (item r).member? "value" = some (.number literal) ∧
          member r = (r.queue.key ++ "QueueLength", .number numeral) ∧
          Printed m r.length.toNat literal numeral := by
  refine ⟨?_, ?_, ?_⟩
  · intro r now
    obtain ⟨m, hvalue, hrounds⟩ := Double.exists_ofNat r.length.toNat_lt
    exact ⟨m, hvalue, Double.carries_of_rounds hrounds r.length.toNat_lt⟩
  · intro r r' now now' m m' h h' hle
    exact Double.value_mono (Double.rounds_of_ofNat h) (Double.rounds_of_ofNat h')
      (UInt64.le_iff_toNat_le.mp hle)
  · intro metricNamespace message rs now
    have hread := read_payload (ofReadings metricNamespace rs now)
    refine ⟨_, fun r => (Datum.ofReading r now).toJson,
      fun r => (Summary.memberName r.queue.key, .nat r.length.toNat), hread, ?_, ?_,
      Summary.read_body ⟨message, rs⟩, ?_⟩
    · intro points text hlogged
      rw [payload_of_dryRun hlogged]
      exact hread
    · rw [toJson, ofReadings, Json.member?, List.map_map]
      rfl
    · intro r _
      obtain ⟨m, hvalue, hrounds⟩ := Double.exists_ofNat r.length.toNat_lt
      have hdatum : (Datum.ofReading r now).value = .finite false m := hvalue
      refine ⟨m, _, _, hdatum, ?_, rfl, printed_of_rounds hrounds⟩
      dsimp only
      rw [Datum.toJson, hdatum]
      rfl

/-- The largest length that is published without loss beside the largest length. -/
theorem large_counts_published :
    let now := Instant.ofMilliseconds 0
    let r : Reading := ⟨.urls, 9007199254740992, now⟩
    let r' : Reading := ⟨.rag, 18446744073709551615, now⟩
    let b := ofReadings "Q" [r, r'] now
    ∃ (m m' : Magnitude) (payload : Json) (literal numeral : String),
      (Datum.ofReading r now).value = .finite false m ∧
      (Datum.ofReading r' now).value = .finite false m' ∧ r.length ≤ r'.length ∧
      Double.value false m ≤ Double.value false m' ∧ r.length.toNat ≤ 2 ^ 53 ∧
      Double.value false m = r.length.toNat ∧
      .logged "Q" 2 b.toJson.text ∈ (Publisher.dryRun b).effects ∧
      Json.read b.toJson.text = .ok payload ∧
      Printed m r.length.toNat literal numeral ∧ literal = numeral ++ ".0" := by
  intro now r r' b
  obtain ⟨hvalues, hmono, htexts⟩ := counts_published_as_answered
  obtain ⟨m', hm', _⟩ := hvalues r' now
  obtain ⟨payload, item, member, _, hlogged, _, _, hprinted⟩ := htexts "Q" "" [r, r'] now
  obtain ⟨m, literal, numeral, hm, _, _, hliteral⟩ := hprinted r List.mem_cons_self
  obtain ⟨other, hother, hcarries⟩ := hvalues r now
  obtain rfl := (Double.finite.inj (hm.symm.trans hother)).2
  have hle : r.length ≤ r'.length := by decide
  have hsmall : r.length.toNat ≤ 2 ^ 53 := by decide
  have hmem : .logged "Q" 2 b.toJson.text ∈ (Publisher.dryRun b).effects :=
    List.mem_singleton.mpr rfl
  exact ⟨m, m', payload, literal, numeral, hm, hm', hle, hmono r r' now now m m' hm hm' hle, hsmall,
    hcarries.exact hsmall, hmem, hlogged 2 _ hmem, hliteral, hliteral.alike hsmall⟩

end Batch

end Backlog
