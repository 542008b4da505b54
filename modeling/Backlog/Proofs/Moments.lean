import Backlog.Join
import Mathlib.Data.List.Basic
import Mathlib.Tactic.Common

/-!
# The moments of a join

An answer without suspension is there at moment 0, when it is asked for, and one after `ms`
milliseconds at moment `ms + 1`. What the slots of a join hold is a function of the answers and of
the moment alone, however many wakes have led there. This file reads the failures and the next wake
off the answers.
-/

namespace Backlog

variable {ε α : Type}

namespace Timed

/-- 0 for an answer without suspension, and `ms + 1` for one after so many milliseconds. -/
def moment {β : Type} (t : Timed β) : Nat :=
  match t.delay with
  | none => 0
  | some ms => ms + 1

def Fails (t : Timed (Except ε α)) : Prop := ∃ e, t.outcome = .error e

lemma wait_eq_moment_sub {β : Type} (t : Timed β) : t.wait = t.moment - 1 := by
  rcases t with ⟨_ | ms, outcome⟩ <;> simp [wait, moment]

lemma not_fails_iff (t : Timed (Except ε α)) : ¬t.Fails ↔ ∃ a, t.outcome = .ok a := by
  rcases t with ⟨delay, e | a⟩ <;> simp [Fails]

end Timed

/-- The slot of an answer as it is at a moment. -/
def Slot.atMoment (m : Nat) (t : Timed (Except ε α)) : Slot ε α :=
  if t.moment ≤ m then .settled t.outcome else .waiting t.wait t.outcome

namespace Slot

lemma ofTimed_eq_atMoment (t : Timed (Except ε α)) : ofTimed t = atMoment 0 t := by
  rcases t with ⟨_ | ms, outcome⟩ <;> simp [ofTimed, atMoment, Timed.moment, Timed.wait]

lemma settle_atMoment (m ms : Nat) (h : m ≤ ms + 1) (t : Timed (Except ε α)) :
    (atMoment m t).settle ms = atMoment (ms + 1) t := by
  have hw := t.wait_eq_moment_sub
  by_cases hm : t.moment ≤ m
  · have hms : t.moment ≤ ms + 1 := by omega
    simp [atMoment, hm, hms, settle]
  · by_cases hms : t.moment ≤ ms + 1
    · have hd : t.wait ≤ ms := by omega
      simp [atMoment, hm, hms, settle, hd]
    · have hd : ¬t.wait ≤ ms := by omega
      simp [atMoment, hm, hms, settle, hd]

lemma due?_atMoment (m : Nat) (t : Timed (Except ε α)) :
    (atMoment m t).due? = if t.moment ≤ m then none else some (t.moment - 1) := by
  by_cases h : t.moment ≤ m
  · simp [atMoment, h, due?]
  · simp [atMoment, h, due?, t.wait_eq_moment_sub]

lemma atMoment_congr {m n : Nat} (t : Timed (Except ε α)) (h : t.moment ≤ m ↔ t.moment ≤ n) :
    atMoment m t = atMoment n t := by
  by_cases hm : t.moment ≤ m
  · simp [atMoment, hm, h.mp hm]
  · simp [atMoment, hm, mt h.mpr hm]

end Slot

namespace Join

/-- What the slots show at a moment as the failure that ends the wait. -/
def failureAt (p : JoinPolicy) (m : Nat) (answers : List (Timed (Except ε α))) : Option ε :=
  failure? p (answers.map (Slot.atMoment m))

lemma failure?_append {p : JoinPolicy} {l₁ : List (Slot ε α)} {e : ε} (h : failure? p l₁ = some e)
    (l₂ : List (Slot ε α)) : failure? p (l₁ ++ l₂) = some e := by
  induction l₁ with
  | nil => simp [failure?] at h
  | cons s rest ih =>
    rcases s with ⟨due, outcome⟩ | ⟨e' | a⟩
    · cases p with
      | anyFailure => exact ih h
      | inOrder => simp [failure?] at h
    · exact h
    · exact ih h

lemma failureAt_append {p : JoinPolicy} {m : Nat} {l₁ : List (Timed (Except ε α))} {e : ε}
    (h : failureAt p m l₁ = some e) (l₂ : List (Timed (Except ε α))) :
    failureAt p m (l₁ ++ l₂) = some e := by
  rw [failureAt, List.map_append]
  exact failure?_append h _

lemma failureAt_prefix {p : JoinPolicy} {m : Nat} {l₁ l₂ : List (Timed (Except ε α))}
    (h : failureAt p m (l₁ ++ l₂) = none) : failureAt p m l₁ = none := by
  cases h₁ : failureAt p m l₁ with
  | none => rfl
  | some e => rw [failureAt_append h₁] at h; cases h

/-- Between two moments at which different failures show, an answer has come. -/
lemma exists_moment_of_failureAt_ne {p : JoinPolicy} {m n : Nat}
    {answers : List (Timed (Except ε α))} (hmn : m ≤ n)
    (h : failureAt p m answers ≠ failureAt p n answers) :
    ∃ t ∈ answers, m < t.moment ∧ t.moment ≤ n := by
  by_contra hnone
  apply h
  unfold failureAt
  congr 1
  apply List.map_congr_left
  intro t ht
  apply Slot.atMoment_congr
  constructor
  · intro hm
    omega
  · intro hn
    by_contra hm
    exact hnone ⟨t, ht, by omega, hn⟩

/-! ### Failures under either policy -/

lemma failureAt_of_arrived_error {p : JoinPolicy} {m : Nat} {t : Timed (Except ε α)} {e : ε}
    (ht : t.outcome = .error e) (hm : t.moment ≤ m) (post : List (Timed (Except ε α))) :
    failureAt p m (t :: post) = some e := by
  simp [failureAt, Slot.atMoment, hm, ht, failure?]

lemma failureAt_cons_arrived {p : JoinPolicy} {m : Nat} {t : Timed (Except ε α)} (ht : ¬t.Fails)
    (hm : t.moment ≤ m) (rest : List (Timed (Except ε α))) :
    failureAt p m (t :: rest) = failureAt p m rest := by
  obtain ⟨a, ha⟩ := t.not_fails_iff.mp ht
  simp [failureAt, Slot.atMoment, hm, ha, failure?]

lemma failureAt_any_cons_waiting {m : Nat} {t : Timed (Except ε α)} (hm : m < t.moment)
    (rest : List (Timed (Except ε α))) :
    failureAt .anyFailure m (t :: rest) = failureAt .anyFailure m rest := by
  simp [failureAt, Slot.atMoment, Nat.not_le.mpr hm, failure?]

lemma failureAt_inOrder_cons_waiting {m : Nat} {t : Timed (Except ε α)} (hm : m < t.moment)
    (rest : List (Timed (Except ε α))) : failureAt .inOrder m (t :: rest) = none := by
  simp [failureAt, Slot.atMoment, Nat.not_le.mpr hm, failure?]

lemma failureAt_any_none {m : Nat} {answers : List (Timed (Except ε α))}
    (h : ∀ s ∈ answers, s.Fails → m < s.moment) : failureAt .anyFailure m answers = none := by
  induction answers with
  | nil => rfl
  | cons t rest ih =>
    rw [List.forall_mem_cons] at h
    by_cases hm : m < t.moment
    · rw [failureAt_any_cons_waiting hm, ih h.2]
    · rw [failureAt_cons_arrived (fun ht => hm (h.1 ht)) (by omega), ih h.2]

lemma failureAt_any_some {m : Nat} {pre : List (Timed (Except ε α))} {t : Timed (Except ε α)}
    {e : ε} (hpre : ∀ s ∈ pre, s.Fails → m < s.moment) (ht : t.outcome = .error e)
    (hm : t.moment ≤ m) (post : List (Timed (Except ε α))) :
    failureAt .anyFailure m (pre ++ t :: post) = some e := by
  induction pre with
  | nil => exact failureAt_of_arrived_error ht hm post
  | cons s rest ih =>
    rw [List.forall_mem_cons] at hpre
    rw [List.cons_append]
    by_cases hs : m < s.moment
    · rw [failureAt_any_cons_waiting hs, ih hpre.2]
    · rw [failureAt_cons_arrived (fun hf => hs (hpre.1 hf)) (by omega), ih hpre.2]

lemma failureAt_inOrder_none {m : Nat} {pre : List (Timed (Except ε α))}
    (hpre : ∀ s ∈ pre, ¬s.Fails) (hlate : ∃ s ∈ pre, m < s.moment)
    (post : List (Timed (Except ε α))) : failureAt .inOrder m (pre ++ post) = none := by
  induction pre with
  | nil => simp at hlate
  | cons s rest ih =>
    rw [List.forall_mem_cons] at hpre
    rw [List.exists_mem_cons_iff] at hlate
    rw [List.cons_append]
    by_cases hs : m < s.moment
    · exact failureAt_inOrder_cons_waiting hs _
    · rw [failureAt_cons_arrived hpre.1 (by omega)]
      exact ih hpre.2 (hlate.resolve_left hs)

lemma failureAt_of_no_failure {p : JoinPolicy} {m : Nat} {pre : List (Timed (Except ε α))}
    (hpre : ∀ s ∈ pre, ¬s.Fails) (harrived : ∀ s ∈ pre, s.moment ≤ m)
    (post : List (Timed (Except ε α))) : failureAt p m (pre ++ post) = failureAt p m post := by
  induction pre with
  | nil => rfl
  | cons s rest ih =>
    rw [List.forall_mem_cons] at hpre harrived
    rw [List.cons_append, failureAt_cons_arrived hpre.1 harrived.1]
    exact ih hpre.2 harrived.2

lemma failureAt_none_of_no_failure (p : JoinPolicy) (m : Nat)
    {answers : List (Timed (Except ε α))} (h : ∀ s ∈ answers, ¬s.Fails) :
    failureAt p m answers = none := by
  cases p with
  | anyFailure => exact failureAt_any_none (fun s hs hf => absurd hf (h s hs))
  | inOrder =>
    by_cases hlate : ∃ s ∈ answers, m < s.moment
    · simpa using failureAt_inOrder_none h hlate []
    · have harrived : ∀ s ∈ answers, s.moment ≤ m := by
        intro s hs
        by_contra hm
        exact hlate ⟨s, hs, by omega⟩
      have hall := failureAt_of_no_failure (p := .inOrder) h harrived []
      rw [List.append_nil] at hall
      exact hall

/-! ### The next wake -/

lemma nextDue?_eq_min? (slots : List (Slot ε α)) :
    nextDue? slots = (slots.filterMap Slot.due?).min? := by
  unfold nextDue?
  cases slots.filterMap Slot.due? with
  | nil => rfl
  | cons d ds => rfl

lemma mem_dues_iff (answers : List (Timed (Except ε α))) (m due : Nat) :
    due ∈ (answers.map (Slot.atMoment m)).filterMap Slot.due? ↔
      m < due + 1 ∧ ∃ t ∈ answers, t.moment = due + 1 := by
  simp only [List.mem_filterMap, List.mem_map, exists_exists_and_eq_and, Slot.due?_atMoment]
  constructor
  · rintro ⟨t, ht, hd⟩
    by_cases hm : t.moment ≤ m
    · simp [hm] at hd
    · simp only [hm, if_false, Option.some.injEq] at hd
      exact ⟨by omega, t, ht, by omega⟩
  · rintro ⟨hm, t, ht, hd⟩
    refine ⟨t, ht, ?_⟩
    rw [hd, if_neg (by omega)]
    simp

lemma arrived_of_nextDue?_none {answers : List (Timed (Except ε α))} {m : Nat}
    (h : nextDue? (answers.map (Slot.atMoment m)) = none) : ∀ t ∈ answers, t.moment ≤ m := by
  intro t ht
  rw [nextDue?_eq_min?, List.min?_eq_none_iff] at h
  by_contra hm
  have hmem := (mem_dues_iff answers m (t.moment - 1)).mpr ⟨by omega, t, ht, by omega⟩
  rw [h] at hmem
  cases hmem

lemma nextDue?_spec {answers : List (Timed (Except ε α))} {m due : Nat}
    (h : nextDue? (answers.map (Slot.atMoment m)) = some due) :
    m < due + 1 ∧ (∃ t ∈ answers, t.moment = due + 1) ∧
      ∀ t ∈ answers, m < t.moment → due + 1 ≤ t.moment := by
  rw [nextDue?_eq_min?, List.min?_eq_some_iff] at h
  obtain ⟨hm, ht⟩ := (mem_dues_iff answers m due).mp h.1
  refine ⟨hm, ht, ?_⟩
  intro t ht hlate
  have hmem := (mem_dues_iff answers m (t.moment - 1)).mpr ⟨by omega, t, ht, by omega⟩
  have hle := h.2 _ hmem
  omega

/-- How many answers are still to come after a moment. -/
def pending (m : Nat) (answers : List (Timed (Except ε α))) : Nat :=
  answers.countP fun t => decide (m < t.moment)

lemma pending_lt {answers : List (Timed (Except ε α))} {m n : Nat} (hmn : m < n)
    (h : ∃ t ∈ answers, t.moment = n) : pending n answers < pending m answers := by
  obtain ⟨t, ht, hn⟩ := h
  obtain ⟨pre, post, rfl⟩ := List.append_of_mem ht
  have hle : ∀ l : List (Timed (Except ε α)), pending n l ≤ pending m l := by
    intro l
    apply List.countP_mono_left
    intro s _ hs
    simp only [decide_eq_true_eq] at hs ⊢
    omega
  have hpre := hle pre
  have hpost := hle post
  simp only [pending, List.countP_append, List.countP_cons, hn, Nat.lt_irrefl, hmn, decide_false,
    decide_true, Bool.false_eq_true, if_false, if_true] at hpre hpost ⊢
  omega

lemma pending_le_length (m : Nat) (answers : List (Timed (Except ε α))) :
    pending m answers ≤ answers.length := List.countP_le_length

lemma arrived_of_pending_zero {answers : List (Timed (Except ε α))} {m : Nat}
    (h : pending m answers = 0) : ∀ t ∈ answers, t.moment ≤ m := by
  intro t ht
  have := List.countP_eq_zero.mp h t ht
  simpa using this

end Join

end Backlog
