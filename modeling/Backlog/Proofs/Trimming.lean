import Backlog.Text.Blank
import Mathlib.Data.List.DropRight
import Mathlib.Tactic.Common

/-!
# Trimmed texts

Trimming takes the blanks off both ends of a text. It leaves nothing of a blank text and all of a
text that neither begins nor ends with a blank; what it leaves is always such a text.
-/

namespace Backlog.Text

/-- Neither the first character nor the last is a blank. -/
structure Trimmed (cs : List Char) : Prop where
  first : ∀ c, cs.head? = some c → isBlank c = false
  last : ∀ c, cs.getLast? = some c → isBlank c = false

lemma trimEnd_eq_rdropWhile (cs : List Char) : trimEnd cs = cs.rdropWhile isBlank := rfl

lemma mem_of_mem_trim {cs : List Char} {c : Char} (h : c ∈ trim cs) : c ∈ cs := by
  have hdrop : c ∈ cs.dropWhile isBlank := (List.rdropWhile_prefix isBlank _).mem h
  exact (List.dropWhile_suffix isBlank).mem hdrop

lemma not_isBlank_of_head?_dropWhile (cs : List Char) {c : Char}
    (h : (cs.dropWhile isBlank).head? = some c) : isBlank c = false := by
  have hnot := List.head?_dropWhile_not isBlank cs
  rw [h] at hnot
  exact hnot

theorem trim_trimmed (cs : List Char) : Trimmed (trim cs) := by
  constructor
  · intro c hc
    obtain ⟨rest, hrest⟩ := List.rdropWhile_prefix isBlank (cs.dropWhile isBlank)
    apply not_isBlank_of_head?_dropWhile cs
    have hhead : (trim cs).head? = some c := hc
    rw [← hrest, List.head?_append, ← trimEnd_eq_rdropWhile, ← trim, hhead]
    rfl
  · intro c hc
    apply not_isBlank_of_head?_dropWhile (cs.dropWhile isBlank).reverse
    rw [← List.getLast?_reverse]
    exact hc

theorem Trimmed.trim_eq {cs : List Char} (h : Trimmed cs) : trim cs = cs := by
  have hdrop : cs.dropWhile isBlank = cs := by
    cases cs with
    | nil => rfl
    | cons c rest => rw [List.dropWhile_cons_of_neg (by simp [h.first c rfl])]
  rw [trim, hdrop, trimEnd_eq_rdropWhile, List.rdropWhile_eq_self_iff]
  intro hne
  simp [h.last _ (List.getLast?_eq_some_getLast hne)]

lemma Trimmed.of_trim_eq {cs : List Char} (h : trim cs = cs) : Trimmed cs := h ▸ trim_trimmed cs

theorem trim_eq_nil_iff {cs : List Char} : trim cs = [] ↔ ∀ c ∈ cs, isBlank c = true := by
  rw [trim, trimEnd_eq_rdropWhile, List.rdropWhile_eq_nil_iff]
  constructor
  · intro h c hc
    rw [← List.takeWhile_append_dropWhile (p := isBlank) (l := cs), List.mem_append] at hc
    rcases hc with hc | hc
    · exact List.mem_takeWhile_imp hc
    · exact h c hc
  · intro h c hc
    exact h c ((List.dropWhile_suffix isBlank).mem hc)

lemma trimmed_toList (s : String) : Trimmed (trimmed s).toList := by
  rw [trimmed, String.toList_ofList]
  exact trim_trimmed s.toList

lemma Trimmed.trimmed_eq {s : String} (h : Trimmed s.toList) : trimmed s = s := by
  rw [trimmed, h.trim_eq, String.ofList_toList]

lemma trimmed_of_not_isBlank {cs : List Char} (h : ∀ c ∈ cs, isBlank c = false) : Trimmed cs :=
  ⟨fun c hc => h c (List.mem_of_head? hc), fun c hc => h c (List.mem_of_getLast? hc)⟩

lemma Trimmed.not_blank {cs : List Char} (h : Trimmed cs) (hne : cs ≠ []) :
    ¬∀ c ∈ cs, isBlank c = true := by
  intro hall
  have hhead := h.first _ (List.head?_eq_some_head hne)
  rw [hall _ (List.head_mem hne)] at hhead
  cases hhead

end Backlog.Text
