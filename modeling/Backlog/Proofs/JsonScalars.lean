import Backlog.Json.Reader
import Backlog.Json.Writer
import Backlog.Proofs.Numerals
import Mathlib.Data.List.Basic

/-!
# JSON strings and numbers read back

The reader undoes the writer on strings of any characters and on whole numbers. A number ends where
no digit, point or exponent follows; a string ends at its own quote, whatever follows.
-/

namespace Backlog

namespace Json

/-! ### Strings -/

lemma hexUnit?_control :
    ∀ n < 32, hexUnit? '0' '0' (Nat.digitChar (n / 16)) (Nat.digitChar (n % 16)) = some n := by
  decide

lemma stringBody_plain {c : Char} (hquote : c ≠ '"') (hslash : c ≠ '\\') (hcontrol : ¬c.toNat < 32)
    (rest : List Char) :
    stringBody (c :: rest) = (stringBody rest).map fun p => (c :: p.1, p.2) := by
  rw [stringBody]
  · rw [if_neg hcontrol]
  · exact hquote
  · exact fun _ _ _ _ _ h _ => hslash h
  · exact fun _ h _ => hslash h
  · exact fun _ _ h _ => hslash h
  · exact fun h _ => hslash h

lemma stringBody_control {c : Char} (h : c.toNat < 32) (rest : List Char) :
    stringBody ('\\' :: 'u' :: '0' :: '0' :: Nat.digitChar (c.toNat / 16) ::
      Nat.digitChar (c.toNat % 16) :: rest) =
      (stringBody rest).map fun p => (c :: p.1, p.2) := by
  have htrailing : isTrailing c.toNat = false := by
    simp only [isTrailing, Bool.and_eq_false_iff, decide_eq_false_iff_not]
    omega
  have hleading : isLeading c.toNat = false := by
    simp only [isLeading, Bool.and_eq_false_iff, decide_eq_false_iff_not]
    omega
  rw [stringBody, hexUnit?_control _ h]
  simp [htrailing, hleading, Char.ofNat_toNat]

lemma stringBody_escapedChar (c : Char) (rest : List Char) :
    stringBody (escapedChar c ++ rest) =
      (stringBody rest).map fun p => (c :: p.1, p.2) := by
  unfold escapedChar
  split
  · rfl
  · rfl
  · rfl
  · rfl
  · rfl
  · rfl
  · rfl
  · split
    · exact stringBody_control ‹_› rest
    · exact stringBody_plain ‹_› ‹_› ‹_› rest

lemma stringBody_escaped (cs rest : List Char) :
    stringBody (cs.flatMap escapedChar ++ '"' :: rest) = .ok (cs, rest) := by
  induction cs with
  | nil => rfl
  | cons c cs ih =>
    rw [List.flatMap_cons, List.append_assoc, stringBody_escapedChar, ih]
    rfl

/-! ### Numbers -/

/-- What may follow a run of digits: nothing, or a character that is none. -/
def EndsDigits (rest : List Char) : Prop :=
  ∀ c, rest.head? = some c → c.isDigit = false

/-- What may follow a number: nothing, or a character that cannot belong to it. -/
def EndsNumber (rest : List Char) : Prop :=
  ∀ c, rest.head? = some c → c.isDigit = false ∧ c ≠ '.' ∧ c ≠ 'e' ∧ c ≠ 'E'

lemma EndsNumber.endsDigits {rest : List Char} (h : EndsNumber rest) : EndsDigits rest :=
  fun c hc => (h c hc).1

lemma endsDigits_cons {c : Char} (h : c.isDigit = false) (cs : List Char) :
    EndsDigits (c :: cs) := by
  intro d hd
  obtain rfl := Option.some.inj hd
  exact h

/-- A literal that is read as a whole wherever it ends. -/
structure NumberText (cs : List Char) : Prop where
  start : ∃ c tail, cs = c :: tail ∧ (c = '-' ∨ c.isDigit = true)
  whole : ∀ rest, EndsNumber rest → numberLiteral (cs ++ rest) = .ok (cs, rest)

lemma takeWhile_isDigit_of_ends {rest : List Char} (h : EndsDigits rest) :
    rest.takeWhile Char.isDigit = [] ∧ rest.dropWhile Char.isDigit = rest := by
  cases rest with
  | nil => exact ⟨rfl, rfl⟩
  | cons c tail =>
    have hc := h c rfl
    simp [hc]

lemma span_digits {ds rest : List Char} (hds : ∀ c ∈ ds, c.isDigit = true)
    (hrest : EndsDigits rest) :
    (ds ++ rest).takeWhile Char.isDigit = ds ∧ (ds ++ rest).dropWhile Char.isDigit = rest := by
  obtain ⟨htake, hdrop⟩ := takeWhile_isDigit_of_ends hrest
  constructor
  · rw [List.takeWhile_append_of_pos hds, htake, List.append_nil]
  · rw [List.dropWhile_append_of_pos hds, hdrop]

lemma digits_run {ds rest : List Char} (hne : ds ≠ []) (hds : ∀ c ∈ ds, c.isDigit = true)
    (hrest : EndsDigits rest) : digits (ds ++ rest) = .ok (ds, rest) := by
  obtain ⟨htake, hdrop⟩ := span_digits hds hrest
  cases ds with
  | nil => exact absurd rfl hne
  | cons d ds =>
    rw [List.cons_append] at htake hdrop ⊢
    rw [digits, htake, hdrop, if_pos (hds d List.mem_cons_self)]

/-- Digits of a number that does not begin with a zero, unless zero is all that it is. -/
lemma wholePart_run {ds rest : List Char} (hne : ds ≠ []) (hds : ∀ c ∈ ds, c.isDigit = true)
    (hplain : ds = ['0'] ∨ ds.head? ≠ some '0') (hrest : EndsDigits rest) :
    wholePart (ds ++ rest) = .ok (ds, rest) := by
  have hdigits := digits_run hne hds hrest
  rcases hplain with rfl | hhead
  · cases rest with
    | nil => exact hdigits
    | cons c tail =>
      have hc := hrest c rfl
      change wholePart ('0' :: c :: tail) = .ok (['0'], c :: tail)
      simp [wholePart, hc]
  · cases ds with
    | nil => exact absurd rfl hne
    | cons d ds =>
      have hd : d ≠ '0' := by simpa using hhead
      rw [wholePart]
      · exact hdigits
      · intro c tail heq
        exact hd (List.cons.inj heq).1

lemma wholePart_write (n : Nat) {rest : List Char} (h : EndsNumber rest) :
    wholePart (Numeral.write n ++ rest) = .ok (Numeral.write n, rest) :=
  wholePart_run (Numeral.write_ne_nil n) (fun _ => Numeral.isDigit_of_mem_write)
    ((Numeral.write_plain n).imp_left And.right) h.endsDigits

lemma fractionPart_of_ends {rest : List Char} (h : EndsNumber rest) :
    fractionPart rest = .ok ([], rest) := by
  rw [fractionPart]
  intro tail heq
  subst heq
  exact (h '.' rfl).2.1 rfl

lemma exponentPart_of_ends {rest : List Char} (h : EndsNumber rest) :
    exponentPart rest = .ok ([], rest) := by
  cases rest with
  | nil => rfl
  | cons c tail =>
    obtain ⟨_, _, he, hE⟩ := h c rfl
    simp [exponentPart, he, hE]

lemma signPart_of_isDigit {d : Char} (h : d.isDigit = true) (ds : List Char) :
    signPart (d :: ds) = ([], d :: ds) := by
  rw [signPart]
  intro tail heq
  obtain rfl := (List.cons.inj heq).1
  cases h

lemma numberText_write (n : Nat) : NumberText (Numeral.write n) := by
  obtain ⟨d, ds, hw⟩ := List.exists_cons_of_ne_nil (Numeral.write_ne_nil n)
  have hd : d.isDigit = true := Numeral.isDigit_of_mem_write (n := n) (by simp [hw])
  refine ⟨⟨d, ds, hw, Or.inr hd⟩, ?_⟩
  intro rest h
  have hsign : signPart (Numeral.write n ++ rest) = ([], Numeral.write n ++ rest) := by
    rw [hw]
    exact signPart_of_isDigit hd (ds ++ rest)
  simp [numberLiteral, hsign, wholePart_write n h, fractionPart_of_ends h, exponentPart_of_ends h,
    Bind.bind, Except.bind, Pure.pure, Except.pure]

end Json

end Backlog
