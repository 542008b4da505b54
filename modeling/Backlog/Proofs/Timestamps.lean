import Backlog.Instant.Rfc3339
import Backlog.Proofs.Calendar
import Backlog.Proofs.JsonScalars
import Mathlib.Algebra.Group.Nat.Defs

/-!
# Timestamps read back

A reader of RFC 3339 texts in universal time: fields of two digits, a year of four or of more with a
sign, a fraction of up to nine digits, and a sixtieth second that is the leap second. It undoes the
writer on every moment whose leap second, if it has one, is at the end of a minute. A leap second
anywhere else is written as the second that follows, and is read as that.
-/

namespace Backlog.Instant

/-! ### The reader -/

/-- A field of so many digits. -/
def field? (width : Nat) (cs : List Char) : Option (Nat × List Char) :=
  let ds := cs.take width
  if ds.length = width ∧ ds.all Char.isDigit then some (Nat.ofDigitChars 10 ds 0, cs.drop width)
  else none

/-- A year of four digits at least, with a sign or none. -/
def year? (cs : List Char) : Option (Int × List Char) :=
  let (negative, rest) := Numeral.splitSign cs
  let ds := rest.takeWhile Char.isDigit
  let n := Nat.ofDigitChars 10 ds 0
  if 4 ≤ ds.length then some (if negative then -n else n, rest.dropWhile Char.isDigit) else none

def expect? (c : Char) : List Char → Option (List Char)
  | d :: rest => if d = c then some rest else none
  | [] => none

/-- The nanoseconds of a fraction of a second, which may be missing. -/
def fraction? (cs : List Char) : Option (Nat × List Char) :=
  match cs with
  | '.' :: rest =>
    let ds := rest.takeWhile Char.isDigit
    if ds.length = 0 ∨ 9 < ds.length then none
    else some (Nat.ofDigitChars 10 ds 0 * 10 ^ (9 - ds.length), rest.dropWhile Char.isDigit)
  | _ => some (0, cs)

/-- The moment of so many seconds and nanoseconds, if there is one. -/
def checked? (seconds : Int) (nanos : Nat) : Option Instant :=
  if h : nanos < 2000000000 then some ⟨seconds, nanos, h⟩ else none

lemma checked?_eq (t : Instant) : checked? t.seconds t.nanos = some t := dif_pos t.valid

/-- The moment at a time of day; second 60 is the leap second after second 59. -/
def ofParts? (date : Date) (hour minute second nanos : Nat) : Option Instant :=
  let leap := second / 60
  checked? (date.dayNumber * 86400 + (hour * 3600 + minute * 60 + (second - leap) : Nat))
    (nanos + leap * 1000000000)

def read? (cs : List Char) : Option Instant := do
  let (year, cs) ← year? cs
  let (month, cs) ← field? 2 (← expect? '-' cs)
  let (day, cs) ← field? 2 (← expect? '-' cs)
  let (hour, cs) ← field? 2 (← expect? 'T' cs)
  let (minute, cs) ← field? 2 (← expect? ':' cs)
  let (second, cs) ← field? 2 (← expect? ':' cs)
  let (nanos, cs) ← fraction? cs
  if cs = ['Z'] then ofParts? ⟨year, month, day⟩ hour minute second nanos else none

/-! ### Fields -/

lemma isDigit_padded (width n : Nat) : ∀ c ∈ padded width n, c.isDigit = true := by
  intro c hc
  rcases List.mem_append.mp hc with hzero | hdigit
  · exact Numeral.isDigit_zeros _ c hzero
  · exact Numeral.isDigit_of_mem_write hdigit

lemma value_padded (width n : Nat) : Nat.ofDigitChars 10 (padded width n) 0 = n := by
  rw [padded, Nat.ofDigitChars_append, Nat.ofDigitChars_replicate_zero, Nat.mul_zero,
    Numeral.value_write]

lemma le_length_padded (width n : Nat) : width ≤ (padded width n).length := by
  simp only [padded, List.length_append, List.length_replicate]
  omega

lemma length_padded {width n : Nat} (hwidth : 0 < width) (h : n < 10 ^ width) :
    (padded width n).length = width := by
  have hlength : (Numeral.write n).length ≤ width :=
    (Nat.length_toDigits_le_iff (by omega) hwidth).mpr h
  simp only [padded, List.length_append, List.length_replicate]
  omega

lemma field?_padded {width n : Nat} (hwidth : 0 < width) (h : n < 10 ^ width) (rest : List Char) :
    field? width (padded width n ++ rest) = some (n, rest) := by
  have hlength := length_padded hwidth h
  have hall : (padded width n).all Char.isDigit = true :=
    List.all_eq_true.mpr (isDigit_padded width n)
  rw [field?, List.take_left' hlength, List.drop_left' hlength, if_pos ⟨hlength, hall⟩,
    value_padded]

lemma splitSign_padded (n : Nat) (rest : List Char) :
    Numeral.splitSign (padded 4 n ++ rest) = (false, padded 4 n ++ rest) := by
  have hlength := le_length_padded 4 n
  have hdigits := isDigit_padded 4 n
  cases hcase : padded 4 n with
  | nil =>
    rw [hcase, List.length_nil] at hlength
    omega
  | cons d ds =>
    rw [hcase] at hdigits
    exact Numeral.splitSign_of_isDigit (hdigits d List.mem_cons_self) (ds ++ rest)

lemma year?_yearText (year : Int) {rest : List Char} (hrest : Json.EndsDigits rest) :
    year? (yearText year ++ rest) = some (year, rest) := by
  have hspan : ∀ n : Nat, (padded 4 n ++ rest).takeWhile Char.isDigit = padded 4 n ∧
      (padded 4 n ++ rest).dropWhile Char.isDigit = rest :=
    fun n => Json.span_digits (isDigit_padded 4 n) hrest
  by_cases hplain : 0 ≤ year ∧ year ≤ 9999
  · obtain ⟨htake, hdrop⟩ := hspan year.toNat
    rw [yearText, if_pos hplain, year?, splitSign_padded]
    simp only [htake, hdrop, value_padded, le_length_padded, if_true]
    simp only [Bool.false_eq_true, if_false, Int.toNat_of_nonneg hplain.1]
  · obtain ⟨htake, hdrop⟩ := hspan year.natAbs
    rw [yearText, if_neg hplain]
    by_cases hnegative : year < 0
    · have habs : -(year.natAbs : Int) = year := by omega
      rw [if_pos hnegative]
      simp only [year?, List.cons_append, Numeral.splitSign, htake, hdrop, value_padded,
        le_length_padded, if_true, habs]
    · have habs : (year.natAbs : Int) = year := by omega
      rw [if_neg hnegative]
      simp only [year?, List.cons_append, Numeral.splitSign, htake, hdrop, value_padded,
        le_length_padded, if_true, habs, Bool.false_eq_true, if_false]

lemma fraction?_padded {width n : Nat} (hwidth : 0 < width) (hle : width ≤ 9) (h : n < 10 ^ width)
    {rest : List Char} (hrest : Json.EndsDigits rest) :
    fraction? ('.' :: padded width n ++ rest) = some (n * 10 ^ (9 - width), rest) := by
  obtain ⟨htake, hdrop⟩ := Json.span_digits (isDigit_padded width n) hrest
  have hlength := length_padded hwidth h
  simp only [fraction?, List.cons_append, htake, hdrop, hlength, value_padded]
  rw [if_neg (by omega)]

/-- The fewest digits that lose nothing lose nothing. -/
lemma fraction?_fractionText {nanos : Nat} (h : nanos < 1000000000) {rest : List Char}
    (hrest : Json.EndsDigits rest) (hpoint : rest.head? ≠ some '.') :
    fraction? (fractionText nanos ++ rest) = some (nanos, rest) := by
  unfold fractionText
  split
  · next hzero =>
    rw [List.nil_append, fraction?, hzero]
    rintro tail rfl
    exact hpoint rfl
  · split
    · next hmillis =>
      rw [fraction?_padded (by omega) (by omega) (by omega) hrest]
      have : nanos / 1000000 * 10 ^ (9 - 3) = nanos := by omega
      rw [this]
    · split
      · next hmicros =>
        rw [fraction?_padded (by omega) (by omega) (by omega) hrest]
        have : nanos / 1000 * 10 ^ (9 - 6) = nanos := by omega
        rw [this]
      · rw [fraction?_padded (by omega) (by omega) (by omega) hrest, Nat.sub_self, Nat.pow_zero,
          Nat.mul_one]

/-! ### The moment -/

/-- Fields in their widths are read one after another. -/
lemma read?_fields (year : Int) {month day hour minute second nanos : Nat} (hmonth : month < 100)
    (hday : day < 100) (hhour : hour < 100) (hminute : minute < 100) (hsecond : second < 100)
    (hnanos : nanos < 1000000000) :
    read? (yearText year ++ '-' :: padded 2 month ++ '-' :: padded 2 day ++
      'T' :: padded 2 hour ++ ':' :: padded 2 minute ++ ':' :: padded 2 second ++
      fractionText nanos ++ ['Z']) = ofParts? ⟨year, month, day⟩ hour minute second nanos := by
  have hfield : ∀ {n : Nat}, n < 100 → ∀ rest, field? 2 (padded 2 n ++ rest) = some (n, rest) :=
    fun h rest => field?_padded (by omega) h rest
  have hyear : ∀ rest, year? (yearText year ++ '-' :: rest) = some (year, '-' :: rest) :=
    fun rest => year?_yearText year (Json.endsDigits_cons rfl rest)
  have hfraction : fraction? (fractionText nanos ++ ['Z']) = some (nanos, ['Z']) :=
    fraction?_fractionText hnanos (Json.endsDigits_cons rfl []) (by simp)
  simp only [List.append_assoc, List.cons_append]
  simp only [read?, hyear, expect?, if_true, Option.bind_some, Option.bind_eq_bind, hfield hmonth,
    hfield hday, hfield hhour, hfield hminute, hfield hsecond]
  rw [hfraction, Option.bind_some, if_pos rfl]

/-- A moment without a leap second, or with one after the last second of a minute. -/
def Timely (t : Instant) : Prop := t.nanos < 1000000000 ∨ t.seconds % 60 = 59

instance (t : Instant) : Decidable t.Timely := inferInstanceAs (Decidable (_ ∨ _))

/-- The moment as it is written: a leap second that is not due is the second that follows. -/
def written (t : Instant) : Instant :=
  if t.Timely then t
  else ⟨t.seconds + 1, t.nanos - 1000000000, Nat.lt_of_le_of_lt (Nat.sub_le _ _) t.valid⟩

@[simp] lemma written_of_timely {t : Instant} (h : t.Timely) : t.written = t := if_pos h

lemma written_timely (t : Instant) : t.written.Timely := by
  unfold written
  split
  · next h => exact h
  · have hvalid := t.valid
    left
    dsimp only
    omega

/-- The text of a moment does not tell a leap second not due from the second that follows. -/
theorem rfc3339_written (t : Instant) : t.written.rfc3339 = t.rfc3339 := by
  by_cases h : t.Timely
  · rw [written_of_timely h]
  · have hvalid := t.valid
    rw [Timely, not_or, Nat.not_lt] at h
    obtain ⟨hleap, hlast⟩ := h
    have hwritten : t.written =
        ⟨t.seconds + 1, t.nanos - 1000000000, Nat.lt_of_le_of_lt (Nat.sub_le _ _) t.valid⟩ :=
      if_neg (not_or.mpr ⟨Nat.not_lt.mpr hleap, hlast⟩)
    -- The next second is in the same minute, and so on the same day.
    have hday : (t.seconds + 1) / 86400 = t.seconds / 86400 := by omega
    have hsecond : ((t.seconds + 1) % 86400).toNat = (t.seconds % 86400).toNat + 1 := by omega
    have hminute : (t.seconds % 86400).toNat % 60 ≠ 59 := by omega
    simp only [hwritten, rfc3339, date, secondOfDay, hday, hsecond]
    generalize (t.seconds % 86400).toNat = s at hminute
    have hhours : (s + 1) / 3600 = s / 3600 := by omega
    have hminutes : (s + 1) / 60 = s / 60 := by omega
    have hseconds : (s + 1) % 60 + (t.nanos - 1000000000) / 1000000000 =
        s % 60 + t.nanos / 1000000000 := by omega
    have hfraction : (t.nanos - 1000000000) % 1000000000 = t.nanos % 1000000000 := by omega
    rw [hhours, hminutes, hseconds, hfraction]

lemma read?_rfc3339_of_timely {t : Instant} (h : t.Timely) : read? t.rfc3339 = some t := by
  have hdate : t.date.dayNumber = t.seconds / 86400 := Date.dayNumber_ofDays _
  have hranges : t.date.month ≤ 12 ∧ t.date.day ≤ 31 := Date.ofDays_ranges (t.seconds / 86400)
  have hvalid := t.valid
  unfold Timely at h
  have hsod : (t.secondOfDay : Int) = t.seconds % 86400 := by
    rw [secondOfDay]
    omega
  have hleap : t.nanos / 1000000000 ≤ 1 := by omega
  -- Only a last second of a minute is followed by a leap second.
  have hsixty : (t.secondOfDay % 60 + t.nanos / 1000000000) / 60 = t.nanos / 1000000000 := by omega
  rw [rfc3339, read?_fields t.date.year (by omega) (by omega) (by omega) (by omega) (by omega)
    (by omega)]
  have hseconds : t.date.dayNumber * 86400 +
      (t.secondOfDay / 3600 * 3600 + t.secondOfDay / 60 % 60 * 60 +
        (t.secondOfDay % 60 + t.nanos / 1000000000 - t.nanos / 1000000000) : Nat) = t.seconds := by
    rw [hdate]
    omega
  have hnanos : t.nanos % 1000000000 + t.nanos / 1000000000 * 1000000000 = t.nanos := by omega
  simp only [ofParts?, hsixty]
  rw [hseconds, hnanos, checked?_eq]

/-- The reader undoes the writer, in years of any length and sign, but for leap seconds that are not
due. -/
theorem read?_rfc3339 (t : Instant) : read? t.rfc3339 = some t.written := by
  rw [← rfc3339_written, read?_rfc3339_of_timely t.written_timely]

end Backlog.Instant
