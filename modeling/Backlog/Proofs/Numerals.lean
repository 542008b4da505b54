import Backlog.Number.Numeral
import Mathlib.Data.List.Basic
import Mathlib.Tactic.Common

/-!
# Numerals and the numbers they denote

A numeral is read if and only if it denotes a number within the limit, and it gives that number:
the check of each prefix against the limit refuses no number that is within it, since no prefix
denotes more than the whole. A text is refused as too large if and only if its digits exceed the
limit before anything else is met, and as no number otherwise.
-/

namespace Backlog.Numeral

/-- A text that denotes a number: its digits, with one plus sign before them or none. -/
def Denotes (cs : List Char) (n : Nat) : Prop :=
  ∃ ds, (cs = ds ∨ cs = '+' :: ds) ∧ ds ≠ [] ∧ (∀ c ∈ ds, c.isDigit = true) ∧
    Nat.ofDigitChars 10 ds 0 = n

lemma le_ofDigitChars (ds : List Char) (seen : Nat) : seen ≤ Nat.ofDigitChars 10 ds seen := by
  induction ds generalizing seen with
  | nil => exact Nat.le_refl seen
  | cons c rest ih =>
    rw [Nat.ofDigitChars_cons]
    have hrest := ih (10 * seen + (c.toNat - '0'.toNat))
    omega

theorem scan_eq_ok_iff {limit seen n : Nat} {ds : List Char} (hseen : seen ≤ limit) :
    scan limit seen ds = .ok n ↔
      (∀ c ∈ ds, c.isDigit = true) ∧ Nat.ofDigitChars 10 ds seen = n ∧ n ≤ limit := by
  induction ds generalizing seen with
  | nil =>
    simp only [scan, Except.ok.injEq, List.not_mem_nil, Nat.ofDigitChars_nil]
    constructor
    · rintro rfl
      exact ⟨by simp, rfl, hseen⟩
    · exact fun h => h.2.1
  | cons c rest ih =>
    rw [scan, List.forall_mem_cons, Nat.ofDigitChars_cons]
    change _ ↔ _ ∧ Nat.ofDigitChars 10 rest (10 * seen + digitValue c) = n ∧ _
    by_cases hdigit : c.isDigit = true
    · rw [if_pos hdigit]
      by_cases hlarge : limit < 10 * seen + digitValue c
      · rw [if_pos hlarge]
        have hgrow := le_ofDigitChars rest (10 * seen + digitValue c)
        simp only [reduceCtorEq, false_iff, not_and]
        intro _ hn
        omega
      · rw [if_neg hlarge, ih (by omega)]
        simp [hdigit]
    · simp [hdigit]

lemma unsigned_eq (cs : List Char) : unsigned cs = cs ∨ cs = '+' :: unsigned cs := by
  unfold unsigned
  split
  · exact Or.inr rfl
  · exact Or.inl rfl

lemma unsigned_of_digits {ds : List Char} (h : ∀ c ∈ ds, c.isDigit = true) : unsigned ds = ds := by
  rcases unsigned_eq ds with heq | heq
  · exact heq
  · have hplus : '+' ∈ ds := by
      rw [heq]
      exact List.mem_cons_self
    have := h '+' hplus
    cases this

theorem denotes_iff {cs : List Char} {n : Nat} : Denotes cs n ↔
    unsigned cs ≠ [] ∧ (∀ c ∈ unsigned cs, c.isDigit = true) ∧
      Nat.ofDigitChars 10 (unsigned cs) 0 = n := by
  constructor
  · rintro ⟨ds, rfl | rfl, hne, hdigits, hn⟩
    · rw [unsigned_of_digits hdigits]
      exact ⟨hne, hdigits, hn⟩
    · obtain ⟨d, rest, rfl⟩ := List.exists_cons_of_ne_nil hne
      exact ⟨hne, hdigits, hn⟩
  · rintro ⟨hne, hdigits, hn⟩
    refine ⟨unsigned cs, ?_, hne, hdigits, hn⟩
    rcases unsigned_eq cs with h | h
    · exact Or.inl h.symm
    · exact Or.inr h

lemma Denotes.unique {cs : List Char} {n n' : Nat} (h : Denotes cs n) (h' : Denotes cs n') :
    n = n' := by
  rw [denotes_iff] at h h'
  exact h.2.2.symm.trans h'.2.2

lemma read_of_unsigned_ne_nil {cs : List Char} (limit : Nat) (h : unsigned cs ≠ []) :
    read limit cs = scan limit 0 (unsigned cs) := by
  obtain ⟨c, rest, hcons⟩ := List.exists_cons_of_ne_nil h
  rw [read, hcons]

/-- What is read is what is denoted, up to the limit. -/
theorem read_eq_ok_iff {limit n : Nat} {cs : List Char} :
    read limit cs = .ok n ↔ Denotes cs n ∧ n ≤ limit := by
  by_cases hne : unsigned cs = []
  · rw [denotes_iff, read, hne]
    simp
  · rw [read_of_unsigned_ne_nil limit hne, scan_eq_ok_iff (Nat.zero_le limit), denotes_iff]
    simp [hne, and_assoc]

/-! ### Texts that are refused -/

/-- Digits at the beginning of a text denote, after what was seen before, a number above a limit. -/
def Overruns (limit seen : Nat) (cs : List Char) : Prop :=
  ∃ ds rest, cs = ds ++ rest ∧ (∀ c ∈ ds, c.isDigit = true) ∧ limit < Nat.ofDigitChars 10 ds seen

lemma not_overruns_nil {limit seen : Nat} (hseen : seen ≤ limit) : ¬Overruns limit seen [] := by
  rintro ⟨ds, rest, hsplit, _, hlarge⟩
  obtain ⟨rfl, rfl⟩ := List.append_eq_nil_iff.mp hsplit.symm
  rw [Nat.ofDigitChars_nil] at hlarge
  omega

/-- What was seen is within the limit, so it takes one more digit to exceed it. -/
lemma overruns_cons_iff {limit seen : Nat} (hseen : seen ≤ limit) (c : Char) (cs : List Char) :
    Overruns limit seen (c :: cs) ↔
      c.isDigit = true ∧ Overruns limit (10 * seen + digitValue c) cs := by
  constructor
  · rintro ⟨ds, rest, hsplit, hdigits, hlarge⟩
    cases ds with
    | nil =>
      rw [Nat.ofDigitChars_nil] at hlarge
      omega
    | cons d ds =>
      obtain ⟨rfl, rfl⟩ := List.cons.inj hsplit
      rw [List.forall_mem_cons] at hdigits
      rw [Nat.ofDigitChars_cons] at hlarge
      exact ⟨hdigits.1, ds, rest, rfl, hdigits.2, hlarge⟩
  · rintro ⟨hc, ds, rest, rfl, hdigits, hlarge⟩
    refine ⟨c :: ds, rest, rfl, List.forall_mem_cons.mpr ⟨hc, hdigits⟩, ?_⟩
    rw [Nat.ofDigitChars_cons]
    exact hlarge

theorem scan_eq_tooLarge_iff {limit seen : Nat} {cs : List Char} (hseen : seen ≤ limit) :
    scan limit seen cs = .error .tooLarge ↔ Overruns limit seen cs := by
  -- The invariant is that what was seen is within the limit; a digit that breaks it ends the scan.
  induction cs generalizing seen with
  | nil => simp [scan, not_overruns_nil hseen]
  | cons c cs ih =>
    rw [scan, overruns_cons_iff hseen]
    by_cases hdigit : c.isDigit = true
    · rw [if_pos hdigit]
      by_cases hlarge : limit < 10 * seen + digitValue c
      · rw [if_pos hlarge]
        exact iff_of_true rfl ⟨hdigit, [], cs, rfl, by simp, hlarge⟩
      · rw [if_neg hlarge, ih (by omega)]
        simp [hdigit]
    · simp [hdigit]

/-- Digits at the beginning of a text, behind one plus sign or none, denote a number above a limit,
whatever comes after them. -/
def Exceeds (limit : Nat) (cs : List Char) : Prop :=
  ∃ ds rest, (cs = ds ++ rest ∨ cs = '+' :: (ds ++ rest)) ∧ (∀ c ∈ ds, c.isDigit = true) ∧
    limit < Nat.ofDigitChars 10 ds 0

lemma exceeds_iff {limit : Nat} {cs : List Char} :
    Exceeds limit cs ↔ Overruns limit 0 (unsigned cs) := by
  constructor
  · rintro ⟨ds, rest, hcs, hdigits, hlarge⟩
    refine ⟨ds, rest, ?_, hdigits, hlarge⟩
    -- There is a digit, so a sign is dropped only if it stands before the digits.
    cases ds with
    | nil => cases hlarge
    | cons d ds =>
      rcases hcs with rfl | rfl
      · rcases unsigned_eq (d :: ds ++ rest) with h | h
        · exact h
        · have hplus := hdigits d List.mem_cons_self
          rw [(List.cons.inj h).1] at hplus
          cases hplus
      · rfl
  · rintro ⟨ds, rest, hsplit, hdigits, hlarge⟩
    refine ⟨ds, rest, ?_, hdigits, hlarge⟩
    rw [← hsplit]
    rcases unsigned_eq cs with h | h
    · exact Or.inl h.symm
    · exact Or.inr h

/-- What exceeds the limit at its beginning is too large, though it be no number in the end. -/
theorem read_eq_tooLarge_iff {limit : Nat} {cs : List Char} :
    read limit cs = .error .tooLarge ↔ Exceeds limit cs := by
  rw [exceeds_iff]
  by_cases hne : unsigned cs = []
  · simp [read, hne, not_overruns_nil (Nat.zero_le limit)]
  · rw [read_of_unsigned_ne_nil limit hne, scan_eq_tooLarge_iff (Nat.zero_le limit)]

lemma tooLarge_iff_of_read {limit : Nat} {cs : List Char} {cause : Fault}
    (h : read limit cs = .error cause) : cause = .tooLarge ↔ Exceeds limit cs := by
  rw [← read_eq_tooLarge_iff, h, Except.error.injEq]

/-! ### Written numerals -/

lemma isDigit_of_mem_write {n : Nat} {c : Char} (h : c ∈ write n) : c.isDigit = true :=
  Nat.isDigit_of_mem_toDigits (by omega) (by omega) h

lemma isDigit_zeros (n : Nat) : ∀ c ∈ List.replicate n '0', c.isDigit = true := by
  intro c hc
  obtain rfl := List.eq_of_mem_replicate hc
  rfl

lemma write_ne_nil (n : Nat) : write n ≠ [] := Nat.toDigits_ne_nil

lemma value_write (n : Nat) : Nat.ofDigitChars 10 (write n) 0 = n := Nat.ofDigitChars_ten_toDigits

/-- Only zero is written with a leading zero. -/
lemma write_head_ne_zero {n : Nat} (h : n ≠ 0) : (write n).head? ≠ some '0' := by
  induction n using Nat.strongRecOn with
  | ind n ih =>
    rw [write, Nat.toDigits_eq_if (by omega)]
    by_cases hn : n < 10
    · simp [hn, h]
    · rw [if_neg hn, List.head?_append_of_ne_nil _ Nat.toDigits_ne_nil]
      exact ih (n / 10) (by omega) (by omega)

/-- The first digit is no zero, unless it is the only one. -/
lemma write_plain (n : Nat) : n = 0 ∧ write n = ['0'] ∨ (write n).head? ≠ some '0' := by
  by_cases hn : n = 0
  · subst hn
    exact Or.inl ⟨rfl, rfl⟩
  · exact Or.inr (write_head_ne_zero hn)

theorem denotes_write (n : Nat) : Denotes (write n) n :=
  ⟨write n, Or.inl rfl, write_ne_nil n, fun _ h => isDigit_of_mem_write h, value_write n⟩

lemma splitSign_of_isDigit {d : Char} (h : d.isDigit = true) (ds : List Char) :
    splitSign (d :: ds) = (false, d :: ds) := by
  rw [splitSign]
  · intro tail heq
    obtain rfl := (List.cons.inj heq).1
    cases h
  · intro tail heq
    obtain rfl := (List.cons.inj heq).1
    cases h

lemma splitSign_write (n : Nat) : splitSign (write n) = (false, write n) := by
  obtain ⟨d, ds, hwrite⟩ := List.exists_cons_of_ne_nil (write_ne_nil n)
  have hd : d.isDigit = true := isDigit_of_mem_write (n := n) (by simp [hwrite])
  rw [hwrite, splitSign_of_isDigit hd]

/-- A written number behind a sign or none is read with that sign. -/
lemma integer?_of_splitSign {cs : List Char} {negative : Bool} {n : Nat}
    (h : splitSign cs = (negative, write n)) :
    integer? cs = some (if negative then -(n : Int) else n) := by
  have hne : (write n).isEmpty = false := List.isEmpty_eq_false_iff.mpr (write_ne_nil n)
  have hdigits : (write n).all Char.isDigit = true :=
    List.all_eq_true.mpr fun _ h => isDigit_of_mem_write h
  simp [integer?, h, hne, hdigits, value_write]

theorem integer?_write (n : Nat) : integer? (write n) = some (n : Int) :=
  integer?_of_splitSign (splitSign_write n)

lemma integer?_signed (n : Int) :
    integer? ((if n < 0 then '-' else '+') :: write n.natAbs) = some n := by
  by_cases hn : n < 0
  · have habs : -(n.natAbs : Int) = n := by omega
    rw [if_pos hn, integer?_of_splitSign rfl, if_pos rfl, habs]
  · have habs : (n.natAbs : Int) = n := by omega
    rw [if_neg hn, integer?_of_splitSign rfl, if_neg (by decide), habs]

end Backlog.Numeral
