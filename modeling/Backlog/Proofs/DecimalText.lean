import Backlog.Number.Layout
import Backlog.Number.Literal
import Backlog.Proofs.JsonScalars
import Backlog.Proofs.ShortestDecimal
import Mathlib.Data.List.TakeWhile

/-!
# Decimal texts read back

A decimal is written as a whole part, a fraction and an exponent, of which the last two may be
missing. Such a text is a number of the JSON format, and it is read as the decimal that its digits
make. With the shortest decimals of doubles, what is written for a double is read as that double,
positionally or scientifically.
-/

namespace Backlog

namespace Decimal

/-- A decimal literal: digits before the point, digits after it, and an exponent or none. -/
structure Parts where
  whole : List Char
  fraction : List Char
  exponent : Option Int

namespace Parts

def fractionText (p : Parts) : List Char :=
  match p.fraction with
  | [] => []
  | c :: cs => '.' :: c :: cs

def exponentText (p : Parts) : List Char :=
  match p.exponent with
  | none => []
  | some n => 'e' :: (if n < 0 then '-' else '+') :: Numeral.write n.natAbs

def text (p : Parts) : List Char := p.whole ++ (p.fractionText ++ p.exponentText)

lemma fractionText_of_ne_nil {p : Parts} (h : p.fraction ≠ []) :
    p.fractionText = '.' :: p.fraction := by
  obtain ⟨c, cs, hcons⟩ := List.exists_cons_of_ne_nil h
  rw [fractionText, hcons]

/-- All digits as one number. -/
def digits (p : Parts) : Nat := Nat.ofDigitChars 10 (p.whole ++ p.fraction) 0

/-- The place of the last digit. -/
def scale (p : Parts) : Int := p.exponent.getD 0 - p.fraction.length

structure WellFormed (p : Parts) : Prop where
  whole_ne : p.whole ≠ []
  whole : ∀ c ∈ p.whole, c.isDigit = true
  plain : p.whole = ['0'] ∨ p.whole.head? ≠ some '0'
  fraction : ∀ c ∈ p.fraction, c.isDigit = true

variable {p : Parts}

/-! ### As JSON numbers -/

lemma endsDigits_exponentText (p : Parts) {rest : List Char} (h : Json.EndsDigits rest) :
    Json.EndsDigits (p.exponentText ++ rest) := by
  unfold exponentText
  cases p.exponent with
  | none => exact h
  | some n => exact Json.endsDigits_cons rfl _

lemma endsDigits_fractionText (p : Parts) {rest : List Char} (h : Json.EndsDigits rest) :
    Json.EndsDigits (p.fractionText ++ (p.exponentText ++ rest)) := by
  unfold fractionText
  cases p.fraction with
  | nil => exact p.endsDigits_exponentText h
  | cons d ds => exact Json.endsDigits_cons rfl _

lemma fractionPart_text (hp : p.WellFormed) {rest : List Char} (h : Json.EndsNumber rest) :
    Json.fractionPart (p.fractionText ++ (p.exponentText ++ rest)) =
      .ok (p.fractionText, p.exponentText ++ rest) := by
  have hends := p.endsDigits_exponentText h.endsDigits
  have hdigits := hp.fraction
  unfold fractionText
  cases hfraction : p.fraction with
  | nil =>
    rw [List.nil_append]
    unfold exponentText
    cases p.exponent with
    | none => exact Json.fractionPart_of_ends h
    | some n => rfl
  | cons d ds =>
    rw [hfraction] at hdigits
    have hrun := Json.digits_run (List.cons_ne_nil d ds) hdigits hends
    rw [List.cons_append, Json.fractionPart, hrun]
    rfl

lemma exponentPart_text (p : Parts) {rest : List Char} (h : Json.EndsNumber rest) :
    Json.exponentPart (p.exponentText ++ rest) = .ok (p.exponentText, rest) := by
  unfold exponentText
  cases p.exponent with
  | none => exact Json.exponentPart_of_ends h
  | some n =>
    have hrun := Json.digits_run (Numeral.write_ne_nil n.natAbs)
      (fun c => Numeral.isDigit_of_mem_write) h.endsDigits
    by_cases hn : n < 0
    · simp [Json.exponentPart, hn, hrun, Except.map]
    · simp [Json.exponentPart, hn, hrun, Except.map]

/-- A minus sign or nothing. -/
def signText (negative : Bool) : List Char := if negative then ['-'] else []

lemma head_isDigit (hp : p.WellFormed) : ∃ d ds, p.text = d :: ds ∧ d.isDigit = true := by
  obtain ⟨d, ds, hwhole⟩ := List.exists_cons_of_ne_nil hp.whole_ne
  refine ⟨d, ds ++ (p.fractionText ++ p.exponentText), ?_, hp.whole d (by simp [hwhole])⟩
  rw [text, hwhole, List.cons_append]

lemma signPart_text (hp : p.WellFormed) (negative : Bool) (rest : List Char) :
    Json.signPart (signText negative ++ p.text ++ rest) = (signText negative, p.text ++ rest) := by
  cases negative with
  | true => rfl
  | false =>
    obtain ⟨d, ds, htext, hd⟩ := head_isDigit hp
    rw [signText, if_neg (by decide), List.nil_append, htext]
    exact Json.signPart_of_isDigit hd (ds ++ rest)

/-- A literal with a sign or none is a number of the format, wherever it ends. -/
theorem numberText (hp : p.WellFormed) (negative : Bool) :
    Json.NumberText (signText negative ++ p.text) := by
  obtain ⟨d, ds, htext, hd⟩ := head_isDigit hp
  constructor
  · cases negative with
    | true => exact ⟨'-', p.text, rfl, Or.inl rfl⟩
    | false => exact ⟨d, ds, htext, Or.inr hd⟩
  · intro rest h
    have hsign := signPart_text hp negative rest
    have hwhole : Json.wholePart (p.text ++ rest) =
        .ok (p.whole, p.fractionText ++ (p.exponentText ++ rest)) := by
      rw [text, List.append_assoc, List.append_assoc]
      exact Json.wholePart_run hp.whole_ne hp.whole hp.plain
        (p.endsDigits_fractionText h.endsDigits)
    rw [Json.numberLiteral, hsign]
    simp only [hwhole, fractionPart_text hp h, exponentPart_text p h, Bind.bind, Except.bind,
      Pure.pure, Except.pure]
    simp only [text, List.append_assoc]

/-! ### As decimal literals -/

lemma splitSign_text (hp : p.WellFormed) (negative : Bool) :
    Numeral.splitSign (signText negative ++ p.text) = (negative, p.text) := by
  cases negative with
  | true => rfl
  | false =>
    obtain ⟨d, ds, htext, hd⟩ := head_isDigit hp
    rw [signText, if_neg (by decide), List.nil_append, htext, Numeral.splitSign_of_isDigit hd]

lemma toLower_of_isDigit {c : Char} (h : c.isDigit = true) : c.toLower = c := by
  have hle : c.val ≤ 57 := by
    simp only [Char.isDigit, Bool.and_eq_true, decide_eq_true_eq] at h
    exact h.2
  refine dif_neg ?_
  rintro ⟨hupper, _⟩
  exact absurd (UInt32.le_trans hupper hle) (by decide)

/-- No word for infinity or for no number begins with a digit. -/
lemma lowercase_ne_word (hp : p.WellFormed) {w : Char} {ws : List Char} (hw : w.isDigit = false) :
    String.ofList (p.text.map Char.toLower) ≠ String.ofList (w :: ws) := by
  obtain ⟨d, ds, htext, hd⟩ := head_isDigit hp
  rw [htext, List.map_cons, toLower_of_isDigit hd]
  intro heq
  obtain rfl := (List.cons.inj (String.ofList_injective heq)).1
  rw [hd] at hw
  cases hw

lemma not_isMark_of_isDigit {c : Char} (h : c.isDigit = true) : (!Double.isMark c) = true := by
  have he : c ≠ 'e' := by
    rintro rfl
    cases h
  have hE : c ≠ 'E' := by
    rintro rfl
    cases h
  simp [Double.isMark, he, hE]

lemma not_isMark_mantissa (hp : p.WellFormed) :
    ∀ c ∈ p.whole ++ p.fractionText, (!Double.isMark c) = true := by
  intro c hc
  rcases List.mem_append.mp hc with hwhole | hfraction
  · exact not_isMark_of_isDigit (hp.whole c hwhole)
  · have hdigits := hp.fraction
    unfold fractionText at hfraction
    cases hp : p.fraction with
    | nil => simp [hp] at hfraction
    | cons d ds =>
      rw [hp] at hfraction hdigits
      rcases List.mem_cons.mp hfraction with rfl | hmem
      · rfl
      · exact not_isMark_of_isDigit (hdigits c hmem)

lemma span_mark (hp : p.WellFormed) :
    p.text.takeWhile (fun c => !Double.isMark c) = p.whole ++ p.fractionText ∧
      p.text.dropWhile (fun c => !Double.isMark c) = p.exponentText := by
  have hmantissa := not_isMark_mantissa hp
  have hexponent : p.exponentText.takeWhile (fun c => !Double.isMark c) = [] ∧
      p.exponentText.dropWhile (fun c => !Double.isMark c) = p.exponentText := by
    unfold exponentText
    cases p.exponent with
    | none => exact ⟨rfl, rfl⟩
    | some n => exact ⟨rfl, rfl⟩
  rw [text, ← List.append_assoc]
  constructor
  · rw [List.takeWhile_append_of_pos hmantissa, hexponent.1, List.append_nil]
  · rw [List.dropWhile_append_of_pos hmantissa, hexponent.2]

lemma mantissa?_text (hp : p.WellFormed) :
    Double.mantissa? (p.whole ++ p.fractionText) = some (p.whole, p.fraction) := by
  have hfraction : p.fraction.all Char.isDigit = true := List.all_eq_true.mpr hp.fraction
  have hwhole : p.whole.isEmpty = false := List.isEmpty_eq_false_iff.mpr hp.whole_ne
  unfold fractionText Double.mantissa?
  cases hcase : p.fraction with
  | nil =>
    have hdrop : p.whole.dropWhile Char.isDigit = [] := List.dropWhile_eq_nil_iff.mpr hp.whole
    simp [hdrop, hwhole]
  | cons d ds =>
    obtain ⟨htake, hdrop⟩ := Json.span_digits hp.whole
      (Json.endsDigits_cons (c := '.') rfl (d :: ds))
    rw [hcase] at hfraction
    simp [htake, hdrop, hwhole, hfraction, Option.filter]

/-- A literal is read as the double nearest to the decimal that its digits make. -/
theorem read?_text (hp : p.WellFormed) (negative : Bool) :
    Double.read? (signText negative ++ p.text) =
      some (Double.ofDecimal negative p.digits p.scale) := by
  have hinf : String.ofList (p.text.map Char.toLower) ≠ "inf" := lowercase_ne_word hp rfl
  have hinfinity : String.ofList (p.text.map Char.toLower) ≠ "infinity" :=
    lowercase_ne_word hp rfl
  have hnan : String.ofList (p.text.map Char.toLower) ≠ "nan" := lowercase_ne_word hp rfl
  obtain ⟨htake, hdrop⟩ := span_mark hp
  have hnumber : Double.number? negative p.text =
      some (Double.ofDecimal negative p.digits p.scale) := by
    simp only [Double.number?, htake, hdrop, mantissa?_text hp]
    unfold digits scale exponentText
    cases p.exponent with
    | none => rfl
    | some n => simp [Numeral.integer?_signed]
  simp only [Double.read?, splitSign_text hp, hinf, hinfinity, hnan, or_self, if_false, hnumber]

/-! ### The literal of a decimal -/

/-- The digits are those of the decimal, perhaps with zeros after them. -/
structure Spells (p : Parts) (d : Decimal) : Prop where
  wellFormed : p.WellFormed
  value : ∃ k : Nat, p.digits = d.digits * 10 ^ k ∧ p.scale = d.exponent - k

end Parts

open Parts

variable {d : Decimal}

lemma write_digits (d : Decimal) : ∀ c ∈ Numeral.write d.digits, c.isDigit = true :=
  fun _ h => Numeral.isDigit_of_mem_write h

lemma spells_whole (hzero : d.digits = 0 → d.exponent = 0) (he : 0 ≤ d.exponent) :
    Spells ⟨Numeral.write d.digits ++ List.replicate d.exponent.toNat '0', ['0'], none⟩ d := by
  refine ⟨⟨?_, ?_, ?_, Numeral.isDigit_zeros 1⟩, d.exponent.toNat + 1, ?_, ?_⟩
  · exact List.append_ne_nil_of_left_ne_nil (Numeral.write_ne_nil _) _
  · exact List.forall_mem_append.mpr ⟨d.write_digits, Numeral.isDigit_zeros _⟩
  · rcases Numeral.write_plain d.digits with ⟨hdigits, hwrite⟩ | hhead
    · left
      simp [hwrite, hzero hdigits]
    · right
      rwa [List.head?_append_of_ne_nil _ (Numeral.write_ne_nil _)]
  · have hpoint : List.replicate d.exponent.toNat '0' ++ ['0'] =
        List.replicate (d.exponent.toNat + 1) '0' := List.replicate_succ'.symm
    rw [Parts.digits, List.append_assoc, hpoint, Nat.ofDigitChars_append,
      Nat.ofDigitChars_replicate_zero, Numeral.value_write, Nat.mul_comm]
  · simp only [scale, Option.getD_none, List.length_singleton]
    omega

lemma spells_split (hzero : d.digits = 0 → d.exponent = 0) {places : Nat}
    (he : d.exponent = -(places : Int)) (hpos : 0 < places)
    (hfew : places < (Numeral.write d.digits).length) :
    Spells ⟨(Numeral.write d.digits).take ((Numeral.write d.digits).length - places),
      (Numeral.write d.digits).drop ((Numeral.write d.digits).length - places), none⟩ d := by
  have hdigits := d.write_digits
  refine ⟨⟨?_, ?_, ?_, ?_⟩, 0, ?_, ?_⟩
  · intro htake
    rcases List.take_eq_nil_iff.mp htake with hlen | hnil
    · omega
    · exact Numeral.write_ne_nil _ hnil
  · exact fun c hc => hdigits c (List.mem_of_mem_take hc)
  · right
    rw [List.head?_take, if_neg (by omega)]
    exact Numeral.write_head_ne_zero fun h => by
      have := hzero h
      omega
  · exact fun c hc => hdigits c (List.mem_of_mem_drop hc)
  · rw [Parts.digits, List.take_append_drop, Numeral.value_write, Nat.pow_zero, Nat.mul_one]
  · simp only [scale, Option.getD_none, List.length_drop]
    omega

lemma spells_fraction {places : Nat} (he : d.exponent = -(places : Int))
    (hmany : (Numeral.write d.digits).length ≤ places) :
    Spells ⟨['0'], List.replicate (places - (Numeral.write d.digits).length) '0' ++
      Numeral.write d.digits, none⟩ d := by
  refine ⟨⟨by simp, Numeral.isDigit_zeros 1, Or.inl rfl, ?_⟩, 0, ?_, ?_⟩
  · exact List.forall_mem_append.mpr ⟨Numeral.isDigit_zeros _, d.write_digits⟩
  · rw [Parts.digits, Nat.ofDigitChars_append, Nat.ofDigitChars_append,
      Nat.ofDigitChars_replicate_zero]
    have hzero : Nat.ofDigitChars 10 ['0'] 0 = 0 := rfl
    rw [hzero, Nat.mul_zero, Numeral.value_write, Nat.pow_zero, Nat.mul_one]
  · simp only [scale, Option.getD_none, List.length_append, List.length_replicate]
    omega

lemma spells_scientific (d : Decimal) :
    Spells ⟨(Numeral.write d.digits).take 1, (Numeral.write d.digits).tail,
      some (d.exponent + (Numeral.write d.digits).length - 1)⟩ d := by
  have hdigits := d.write_digits
  have hpos : 0 < (Numeral.write d.digits).length :=
    List.length_pos_of_ne_nil (Numeral.write_ne_nil _)
  refine ⟨⟨?_, ?_, ?_, ?_⟩, 0, ?_, ?_⟩
  · simp [Numeral.write_ne_nil]
  · exact fun c hc => hdigits c (List.mem_of_mem_take hc)
  · rcases Numeral.write_plain d.digits with ⟨_, hwrite⟩ | hhead
    · left
      rw [hwrite]
      rfl
    · right
      rwa [List.head?_take, if_neg (by decide)]
  · exact fun c hc => hdigits c (List.mem_of_mem_tail hc)
  · rw [Parts.digits, ← List.drop_one, List.take_append_drop, Numeral.value_write, Nat.pow_zero,
      Nat.mul_one]
  · simp only [scale, Option.getD_some, List.length_tail]
    omega

/-- Every decimal is written as a literal that spells it. -/
theorem exists_spells (hzero : d.digits = 0 → d.exponent = 0) :
    ∃ p : Parts, p.Spells d ∧ d.write .data = p.text := by
  unfold write
  dsimp only
  split
  · unfold positional
    by_cases he : 0 ≤ d.exponent
    · refine ⟨_, spells_whole hzero he, ?_⟩
      rw [if_pos he]
      simp [text, fractionText, exponentText]
    · have hplaces : d.exponent = -((-d.exponent).toNat : Int) := by omega
      rw [if_neg he]
      by_cases hfew : (-d.exponent).toNat < (Numeral.write d.digits).length
      · refine ⟨_, spells_split hzero hplaces (by omega) hfew, ?_⟩
        rw [if_pos hfew, text, fractionText_of_ne_nil]
        · simp [exponentText]
        · rw [Ne, List.drop_eq_nil_iff]
          omega
      · refine ⟨_, spells_fraction hplaces (Nat.not_lt.mp hfew), ?_⟩
        rw [if_neg hfew, text, fractionText_of_ne_nil]
        · simp [exponentText]
        · exact List.append_ne_nil_of_right_ne_nil _ (Numeral.write_ne_nil _)
  · refine ⟨_, d.spells_scientific, ?_⟩
    unfold scientific text fractionText exponentText
    generalize d.exponent + (Numeral.write d.digits).length - 1 = lead
    have hplus : Layout.data.plusSign = true := rfl
    by_cases hlead : lead < 0
    · cases (Numeral.write d.digits).tail <;> simp [hlead]
    · cases (Numeral.write d.digits).tail <;> simp [hlead, hplus]

end Decimal

namespace Double

open Decimal.Parts

lemma exists_spells_shortest (m : Magnitude) :
    ∃ p : Decimal.Parts, p.Spells m.shortest ∧ m.shortest.write .data = p.text := by
  apply Decimal.exists_spells
  intro hdigits
  by_cases hm : m.significand = 0
  · rw [Magnitude.shortest_of_zero hm]
  · exact absurd hdigits ((Magnitude.readsBack_shortest hm).digits_ne_zero hm)

/-- What is written for a double in data is a number of the JSON format, … -/
theorem numberText_writeFinite (negative : Bool) (m : Magnitude) :
    Json.NumberText (writeFinite .data negative m) := by
  obtain ⟨p, hp, htext⟩ := exists_spells_shortest m
  rw [writeFinite, htext]
  exact numberText hp.wellFormed negative

/-- … and it is read as the double, to the last bit and with the sign of zero. -/
theorem read?_writeFinite (negative : Bool) (m : Magnitude) :
    read? (writeFinite .data negative m) = some (.finite negative m) := by
  obtain ⟨p, hp, htext⟩ := exists_spells_shortest m
  obtain ⟨k, hdigits, hscale⟩ := hp.value
  have hread := read?_text hp.wellFormed negative
  rw [hdigits, hscale, Magnitude.ofDecimal_shortest] at hread
  rw [writeFinite, htext]
  exact hread

end Double

end Backlog
