import Backlog.Text.Lowercase
import Mathlib.Tactic.Common

/-!
# Words and their spellings

A word of ASCII letters can be spelled in letters of either case. No other letter has a lower case
in ASCII but the Kelvin sign, whose lower case is k, and the capital I with a dot above, whose lower
case is an i and a dot of its own. So a word without k has no spelling outside ASCII, at whatever
place in a word a letter stands.
-/

namespace Backlog.Text

lemma toNat_ofNat_of_valid {n : Nat} (h : n.isValidChar) : (Char.ofNat n).toNat = n := by
  rw [Char.ofNat, dif_pos h]
  rfl

lemma caseRuns_spec : ∀ r ∈ caseRuns, r = ⟨0x41, 0x5a, 1, 0x61⟩ ∨ r = ⟨0x212a, 0x212a, 1, 0x6b⟩ ∨
    (128 ≤ r.low ∧ 128 ≤ r.image ∧ (r.image + (r.high - r.low) < 0xd800 ∨
      (0xdfff < r.image ∧ r.image + (r.high - r.low) < 0x110000))) := by
  decide +kernel

lemma lowerChar_of_ascii {c : Char} (h : c.toNat < 128) : lowerChar c = [c.toLower] := by
  have hall : ∀ n < 128, lowerChar (Char.ofNat n) = [(Char.ofNat n).toLower] := by
    decide +kernel
  have hc := hall c.toNat h
  rwa [Char.ofNat_toNat] at hc

lemma toLower_of_not_ascii {c : Char} (h : 128 ≤ c.toNat) : c.toLower = c := by
  refine dif_neg ?_
  rintro ⟨_, hle⟩
  have hle' : c.toNat ≤ 90 := hle
  omega

lemma lowerChar_of_not_ascii {c : Char} (h : 128 ≤ c.toNat) :
    ∃ d ∈ lowerChar c, 128 ≤ d.toNat ∨ d = 'k' := by
  unfold lowerChar
  split
  · exact ⟨'\u0307', by simp, by decide⟩
  · split
    · next r hfind =>
      have hcovers := List.find?_some hfind
      simp only [CaseRun.covers, Bool.and_eq_true, decide_eq_true_eq] at hcovers
      obtain ⟨⟨hlow, hhigh⟩, _⟩ := hcovers
      refine ⟨r.small c, List.mem_singleton_self _, ?_⟩
      rcases caseRuns_spec r (List.mem_of_find?_eq_some hfind) with rfl | rfl | hr
      · dsimp only at hhigh
        omega
      · have hkelvin : c.toNat = 0x212a := by
          dsimp only at hlow hhigh
          omega
        right
        rw [CaseRun.small, hkelvin]
        decide
      · left
        have hvalid : (r.image + (c.toNat - r.low)).isValidChar := by
          unfold Nat.isValidChar
          omega
        rw [CaseRun.small, toNat_ofNat_of_valid hvalid]
        omega
    · exact ⟨c, List.mem_singleton_self _, Or.inl h⟩

/-- Whatever stands before it, a character that is not of ASCII leaves no ASCII behind but a k. -/
lemma lowerAfter_of_not_ascii {c : Char} (h : 128 ≤ c.toNat) (before rest : List Char) :
    ∃ d ∈ lowerAfter before (c :: rest), 128 ≤ d.toNat ∨ d = 'k' := by
  rw [lowerAfter]
  split
  · refine ⟨smallSigma before rest, by simp, Or.inl ?_⟩
    unfold smallSigma
    split <;> decide
  · obtain ⟨d, hd, hout⟩ := lowerChar_of_not_ascii h
    exact ⟨d, List.mem_append_left _ hd, hout⟩

lemma lowerAfter_of_ascii {c : Char} (h : c.toNat < 128) (before rest : List Char) :
    lowerAfter before (c :: rest) = c.toLower :: lowerAfter (c :: before) rest := by
  have hsigma : c ≠ '\u03a3' := by
    rintro rfl
    exact absurd h (by decide)
  rw [lowerAfter, if_neg hsigma, lowerChar_of_ascii h, List.singleton_append]

lemma lowerAfter_eq_iff {cs word : List Char} (h : ∀ c ∈ word, c.toNat < 128 ∧ c ≠ 'k')
    (before : List Char) : lowerAfter before cs = word ↔ cs.map Char.toLower = word := by
  induction cs generalizing word before with
  | nil => rfl
  | cons c rest ih =>
    rw [List.map_cons]
    by_cases hc : c.toNat < 128
    · rw [lowerAfter_of_ascii hc]
      cases word with
      | nil => simp
      | cons w more =>
        rw [List.forall_mem_cons] at h
        rw [List.cons.injEq, List.cons.injEq, ih h.2]
    · -- Neither side holds: what the character leaves behind is no character of the word.
      obtain ⟨d, hd, hout⟩ := lowerAfter_of_not_ascii (Nat.not_lt.mp hc) before rest
      rw [toLower_of_not_ascii (Nat.not_lt.mp hc)]
      constructor
      · rintro rfl
        obtain ⟨hascii, hk⟩ := h d hd
        exact hout.elim (fun hlarge => absurd hascii (Nat.not_lt.mpr hlarge)) (absurd · hk)
      · rintro rfl
        have hmem := h c List.mem_cons_self
        omega

/-- An ASCII word without k is spelled in ASCII letters of either case, and in no other way. -/
theorem lower_eq_iff {cs word : List Char} (h : ∀ c ∈ word, c.toNat < 128 ∧ c ≠ 'k') :
    lower cs = word ↔ cs.map Char.toLower = word := lowerAfter_eq_iff h []

/-- At the end of a word a capital sigma has a small letter of its own. -/
example : lower ['\u03a3', '\u0391', '\u03a3', '.'] = ['\u03c3', '\u03b1', '\u03c2', '.'] := by
  decide +kernel

end Backlog.Text
