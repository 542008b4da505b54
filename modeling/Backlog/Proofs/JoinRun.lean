import Backlog.Proofs.Moments
import Mathlib.Data.Nat.Basic
import Mathlib.Order.Basic

/-!
# How a join ends

A join ends at the first moment that shows a failure, or with all values once everything is there.
Under `anyFailure` the failure is the earliest, and of several at one moment the first in the list.
Under `inOrder` it is the first in the list, and it shows when everything before it has come.
-/

namespace Backlog

variable {ε α β : Type}

/-- The greatest of some numbers, 0 for none. -/
def greatest (ns : List Nat) : Nat := ns.foldr max 0

lemma greatest_le_iff {ns : List Nat} {n : Nat} : greatest ns ≤ n ↔ ∀ k ∈ ns, k ≤ n := by
  induction ns with
  | nil => simp [greatest]
  | cons k rest ih =>
    rw [List.forall_mem_cons, ← ih]
    exact Nat.max_le

namespace Joined

/-- The join ends with this failure, after so many milliseconds. -/
def FailsWith (joined : Joined ε α) (e : ε) (ms : Nat) : Prop :=
  joined.result = .error e ∧ joined.elapsed = ms

lemma FailsWith.iff {joined : Joined ε α} {f : ε} {n : Nat} (h : joined.FailsWith f n) {e : ε}
    {ms : Nat} : joined.FailsWith e ms ↔ f = e ∧ n = ms := by
  simp [FailsWith, h.1, h.2]

lemma FailsWith.alike_iff {joined joined' : Joined ε α} {e e' : ε} {ms ms' : Nat}
    (h : joined.FailsWith e ms) (h' : joined'.FailsWith e' ms') :
    (∃ g n, joined.FailsWith g n ∧ joined'.FailsWith g n) ↔ e = e' ∧ ms = ms' := by
  simp only [h.iff, h'.iff]
  constructor
  · rintro ⟨g, n, ⟨rfl, rfl⟩, rfl, rfl⟩
    exact ⟨rfl, rfl⟩
  · rintro ⟨rfl, rfl⟩
    exact ⟨e, ms, ⟨rfl, rfl⟩, rfl, rfl⟩

end Joined

namespace Join

/-- The longest wait for any of some answers, 0 for none. -/
def longestWait (answers : List (Timed β)) : Nat := greatest (answers.map Timed.wait)

/-- The moment from which on all of some answers are there. -/
def lastMoment (answers : List (Timed β)) : Nat := greatest (answers.map Timed.moment)

lemma lastMoment_le_iff {answers : List (Timed β)} {m : Nat} :
    lastMoment answers ≤ m ↔ ∀ t ∈ answers, t.moment ≤ m := by
  simp [lastMoment, greatest_le_iff]

lemma longestWait_le_iff {answers : List (Timed β)} {n : Nat} :
    longestWait answers ≤ n ↔ ∀ t ∈ answers, t.wait ≤ n := by
  simp [longestWait, greatest_le_iff]

lemma wait_le_longestWait {answers : List (Timed β)} {t : Timed β} (h : t ∈ answers) :
    t.wait ≤ longestWait answers := longestWait_le_iff.mp le_rfl t h

lemma longestWait_eq_lastMoment_sub (answers : List (Timed β)) :
    longestWait answers = lastMoment answers - 1 := by
  apply Nat.le_antisymm
  · rw [longestWait_le_iff]
    intro t ht
    have hm := lastMoment_le_iff.mp le_rfl t ht
    have hw := t.wait_eq_moment_sub
    omega
  · rw [Nat.sub_le_iff_le_add, lastMoment_le_iff]
    intro t ht
    have hm := wait_le_longestWait ht
    have hw := t.wait_eq_moment_sub
    omega

lemma exists_late_of_lt_lastMoment {answers : List (Timed β)} {m : Nat}
    (h : m < lastMoment answers) : ∃ t ∈ answers, m < t.moment := by
  by_contra hnone
  have hle : lastMoment answers ≤ m := by
    rw [lastMoment_le_iff]
    intro t ht
    by_contra hm
    exact hnone ⟨t, ht, by omega⟩
  omega

/-- The values among some answers, in their order. -/
def values (answers : List (Timed (Except ε α))) : List α :=
  answers.filterMap fun t => t.outcome.toOption

lemma filterMap_value?_atMoment {answers : List (Timed (Except ε α))} {m : Nat}
    (h : ∀ t ∈ answers, t.moment ≤ m) :
    (answers.map (Slot.atMoment m)).filterMap Slot.value? = values answers := by
  rw [List.filterMap_map]
  apply List.filterMap_congr
  intro t ht
  rcases t with ⟨delay, e | a⟩ <;>
    simp [Slot.atMoment, h _ ht, Slot.value?, Except.toOption]

lemma values_cons {t : Timed (Except ε α)} {a : α} (h : t.outcome = .ok a)
    (rest : List (Timed (Except ε α))) : values (t :: rest) = a :: values rest := by
  simp [values, h, Except.toOption]

lemma values_length {answers : List (Timed (Except ε α))} (h : ∀ t ∈ answers, ¬t.Fails) :
    (values answers).length = answers.length := by
  induction answers with
  | nil => rfl
  | cons t rest ih =>
    rw [List.forall_mem_cons] at h
    obtain ⟨a, ha⟩ := t.not_fails_iff.mp h.1
    rw [values_cons ha, List.length_cons, List.length_cons, ih h.2]

lemma values_getElem? {answers : List (Timed (Except ε α))} (h : ∀ t ∈ answers, ¬t.Fails)
    (i : Nat) : (values answers)[i]? = answers[i]?.bind fun t => t.outcome.toOption := by
  induction answers generalizing i with
  | nil => simp [values]
  | cons t rest ih =>
    rw [List.forall_mem_cons] at h
    obtain ⟨a, ha⟩ := t.not_fails_iff.mp h.1
    rw [values_cons ha]
    cases i with
    | zero => simp [ha, Except.toOption]
    | succ i => simpa using ih h.2 i

lemma map_settle_atMoment {answers : List (Timed (Except ε α))} {m due : Nat} (h : m < due + 1) :
    (answers.map (Slot.atMoment m)).map (Slot.settle due) =
      answers.map (Slot.atMoment (due + 1)) := by
  rw [List.map_map]
  exact List.map_congr_left (fun t _ => Slot.settle_atMoment m due (by omega) t)

/-! ### Waking -/

section Steps

variable {p : JoinPolicy} {answers : List (Timed (Except ε α))} {m due : Nat} (steps now : Nat)

lemma wake_step_failure {e : ε} (hdue : nextDue? (answers.map (Slot.atMoment m)) = some due)
    (hnext : m < due + 1) (hfail : failureAt p (due + 1) answers = some e) :
    wake p (steps + 1) now (answers.map (Slot.atMoment m)) = (due, .error e) := by
  unfold failureAt at hfail
  rw [wake, hdue]
  dsimp only
  rw [map_settle_atMoment hnext, hfail]

lemma wake_step_none (hdue : nextDue? (answers.map (Slot.atMoment m)) = some due)
    (hnext : m < due + 1) (hnone : failureAt p (due + 1) answers = none) :
    wake p (steps + 1) now (answers.map (Slot.atMoment m)) =
      wake p steps due (answers.map (Slot.atMoment (due + 1))) := by
  unfold failureAt at hnone
  rw [wake, hdue]
  dsimp only
  rw [map_settle_atMoment hnext, hnone]

end Steps

/-- The wakes lead to the first moment that shows a failure: none of them passes it, since the
failure can only show when an answer comes. -/
lemma wake_failure {p : JoinPolicy} {answers : List (Timed (Except ε α))} {e : ε} {stop : Nat}
    (hsome : failureAt p stop answers = some e) (hnone : ∀ k < stop, failureAt p k answers = none)
    (steps now m : Nat) (hm : m < stop) (hsteps : pending m answers ≤ steps) :
    wake p steps now (answers.map (Slot.atMoment m)) = (stop - 1, .error e) := by
  have hcome : ∀ k < stop, ∃ t ∈ answers, k < t.moment ∧ t.moment ≤ stop := by
    intro k hk
    apply exists_moment_of_failureAt_ne (p := p) hk.le
    rw [hnone k hk, hsome]
    simp
  induction steps generalizing m now with
  | zero =>
    obtain ⟨t, ht, hlate, _⟩ := hcome m hm
    have := arrived_of_pending_zero (Nat.le_zero.mp hsteps) t ht
    omega
  | succ steps ih =>
    obtain ⟨t, ht, hlate, hstop⟩ := hcome m hm
    cases hdue : nextDue? (answers.map (Slot.atMoment m)) with
    | none =>
      have := arrived_of_nextDue?_none hdue t ht
      omega
    | some due =>
      obtain ⟨hnext, hmem, hleast⟩ := nextDue?_spec hdue
      have hle := hleast t ht hlate
      by_cases heq : due + 1 = stop
      · rw [wake_step_failure steps now hdue hnext (heq ▸ hsome), ← heq, Nat.add_sub_cancel]
      · rw [wake_step_none steps now hdue hnext (hnone _ (by omega))]
        have hlt := pending_lt hnext hmem
        exact ih due (due + 1) (by omega) (by omega)

lemma wake_no_failure {p : JoinPolicy} {answers : List (Timed (Except ε α))}
    (hok : ∀ t ∈ answers, ¬t.Fails) (steps m : Nat) (hsteps : pending m answers ≤ steps) :
    wake p steps (m - 1) (answers.map (Slot.atMoment m)) =
      (max (m - 1) (longestWait answers), .ok (values answers)) := by
  have hdone : ∀ k, (∀ t ∈ answers, t.moment ≤ k) → max (k - 1) (longestWait answers) = k - 1 := by
    intro k hk
    have := lastMoment_le_iff.mpr hk
    have := longestWait_eq_lastMoment_sub answers
    omega
  induction steps generalizing m with
  | zero =>
    have harrived := arrived_of_pending_zero (Nat.le_zero.mp hsteps)
    rw [wake, filterMap_value?_atMoment harrived, hdone m harrived]
  | succ steps ih =>
    cases hdue : nextDue? (answers.map (Slot.atMoment m)) with
    | none =>
      have harrived := arrived_of_nextDue?_none hdue
      rw [wake, hdue]
      dsimp only
      rw [filterMap_value?_atMoment harrived, hdone m harrived]
    | some due =>
      obtain ⟨hnext, ⟨t, ht, hmoment⟩, _⟩ := nextDue?_spec hdue
      have hlt := pending_lt hnext ⟨t, ht, hmoment⟩
      have hwait := wait_le_longestWait ht
      rw [t.wait_eq_moment_sub] at hwait
      have hnone := failureAt_none_of_no_failure p (due + 1) hok
      have hrest := ih (due + 1) (by omega)
      rw [Nat.add_sub_cancel] at hrest
      rw [wake_step_none steps (m - 1) hdue hnext hnone, hrest, Nat.max_eq_right (by omega),
        Nat.max_eq_right (by omega)]

/-! ### Asking -/

lemma launch_none {p : JoinPolicy} (pre rest : List (Timed (Except ε α)))
    (h : failureAt p 0 (pre ++ rest) = none) :
    launch p (pre.map (Slot.atMoment 0)) rest = ((pre ++ rest).map (Slot.atMoment 0), none) := by
  induction rest generalizing pre with
  | nil => simp [launch]
  | cons t rest ih =>
    have hsplit : pre ++ t :: rest = (pre ++ [t]) ++ rest := by simp
    rw [hsplit] at h ⊢
    have hslots : pre.map (Slot.atMoment 0) ++ [Slot.ofTimed t] =
        (pre ++ [t]).map (Slot.atMoment 0) := by
      simp [Slot.ofTimed_eq_atMoment]
    have hnone : failure? p ((pre ++ [t]).map (Slot.atMoment 0)) = none := failureAt_prefix h
    rw [launch, hslots, hnone]
    exact ih (pre ++ [t]) h

lemma launch_some {p : JoinPolicy} (pre asked : List (Timed (Except ε α)))
    {t : Timed (Except ε α)} {e : ε} (hnone : failureAt p 0 (pre ++ asked) = none)
    (hsome : failureAt p 0 (pre ++ asked ++ [t]) = some e) (post : List (Timed (Except ε α))) :
    launch p (pre.map (Slot.atMoment 0)) (asked ++ t :: post) =
      ((pre ++ asked ++ [t]).map (Slot.atMoment 0), some e) := by
  have hslots : ∀ (l : List (Timed (Except ε α))) (s : Timed (Except ε α)),
      l.map (Slot.atMoment 0) ++ [Slot.ofTimed s] = (l ++ [s]).map (Slot.atMoment 0) := by
    intro l s
    simp [Slot.ofTimed_eq_atMoment]
  induction asked generalizing pre with
  | nil =>
    rw [List.append_nil] at hsome ⊢
    have hfail : failure? p ((pre ++ [t]).map (Slot.atMoment 0)) = some e := hsome
    rw [List.nil_append, launch, hslots, hfail]
  | cons s asked ih =>
    have hsplit : pre ++ s :: asked = (pre ++ [s]) ++ asked := by simp
    rw [hsplit] at hnone hsome ⊢
    have hfirst : failure? p ((pre ++ [s]).map (Slot.atMoment 0)) = none := failureAt_prefix hnone
    rw [List.cons_append, launch, hslots, hfirst]
    exact ih (pre ++ [s]) hnone hsome

/-! ### The whole join -/

lemma run_of_launch_failure {answers pre post : List (Timed (Except ε α))}
    {t : Timed (Except ε α)} {e : ε} (hsplit : answers = pre ++ t :: post)
    (hnone : failureAt (policy answers.length) 0 pre = none)
    (hsome : failureAt (policy answers.length) 0 (pre ++ [t]) = some e) :
    run answers = ⟨pre.length + 1, 0, .error e⟩ := by
  have hlaunch : launch (policy answers.length) [] answers =
      ((pre ++ [t]).map (Slot.atMoment 0), some e) := by
    have h := launch_some [] pre hnone hsome post
    rw [← hsplit] at h
    exact h
  simp [run, hlaunch]

lemma run_of_launch_none {answers : List (Timed (Except ε α))}
    (h : failureAt (policy answers.length) 0 answers = none) :
    run answers =
      let woken := wake (policy answers.length) answers.length 0 (answers.map (Slot.atMoment 0))
      ⟨answers.length, woken.1, woken.2⟩ := by
  have hlaunch : launch (policy answers.length) [] answers =
      (answers.map (Slot.atMoment 0), none) := launch_none [] answers h
  simp [run, hlaunch]

lemma run_of_wake_failure {answers : List (Timed (Except ε α))} {e : ε} {stop : Nat}
    (hstop : 0 < stop) (hnone : ∀ k < stop, failureAt (policy answers.length) k answers = none)
    (hsome : failureAt (policy answers.length) stop answers = some e) :
    run answers = ⟨answers.length, stop - 1, .error e⟩ := by
  rw [run_of_launch_none (hnone 0 hstop)]
  rw [wake_failure hsome hnone answers.length 0 0 hstop (pending_le_length 0 answers)]

/-- Without a failure either policy gives all values in the order of the answers, after the longest
wait and not after the sum of the waits. -/
theorem run_of_no_failure {answers : List (Timed (Except ε α))}
    (hok : ∀ t ∈ answers, ¬t.Fails) :
    run answers = ⟨answers.length, longestWait answers, .ok (values answers)⟩ := by
  have hwake := wake_no_failure (p := policy answers.length) hok answers.length 0
    (pending_le_length 0 answers)
  rw [Nat.zero_sub, Nat.max_eq_right (Nat.zero_le _)] at hwake
  rw [run_of_launch_none (failureAt_none_of_no_failure _ 0 hok)]
  rw [hwake]

/-- The failing answer at place `k` comes first in time, and before others of its moment in the
list. -/
structure EarliestFailure (answers : List (Timed (Except ε α))) (k : Nat)
    (t : Timed (Except ε α)) (e : ε) : Prop where
  place : answers[k]? = some t
  error : t.outcome = .error e
  least : ∀ j s, answers[j]? = some s → s.Fails →
    t.moment < s.moment ∨ (t.moment = s.moment ∧ k ≤ j)

/-- The answer at place `k` is the first of the list that fails, whenever it comes. -/
structure FirstFailure (answers : List (Timed (Except ε α))) (k : Nat)
    (t : Timed (Except ε α)) (e : ε) : Prop where
  place : answers[k]? = some t
  error : t.outcome = .error e
  least : ∀ j s, answers[j]? = some s → s.Fails → k ≤ j

lemma split_at_place {l : List β} {k : Nat} {t : β} (h : l[k]? = some t) :
    l = l.take k ++ t :: l.drop (k + 1) := by
  obtain ⟨hk, rfl⟩ := List.getElem?_eq_some_iff.mp h
  rw [List.getElem_cons_drop, List.take_append_drop]

lemma mem_take_place {l : List β} {k : Nat} {s : β} (h : s ∈ l.take k) :
    ∃ j < k, l[j]? = some s := by
  obtain ⟨j, hj⟩ := List.mem_iff_getElem?.mp h
  rw [List.getElem?_take] at hj
  by_cases hjk : j < k
  · rw [if_pos hjk] at hj
    exact ⟨j, hjk, hj⟩
  · rw [if_neg hjk] at hj
    cases hj

lemma take_succ_place {l : List β} {k : Nat} {t : β} (h : l[k]? = some t) :
    l.take (k + 1) = l.take k ++ [t] := by
  rw [List.take_add_one, h]
  rfl

lemma EarliestFailure.append {l : List (Timed (Except ε α))} {k : Nat} {t : Timed (Except ε α)}
    {e : ε} (h : EarliestFailure l k t e) {l' : List (Timed (Except ε α))}
    (hok : ∀ s ∈ l', ¬s.Fails) : EarliestFailure (l ++ l') k t e := by
  have hk := (List.getElem?_eq_some_iff.mp h.place).1
  refine ⟨by rw [List.getElem?_append_left hk, h.place], h.error, ?_⟩
  intro j s hs hf
  by_cases hj : j < l.length
  · rw [List.getElem?_append_left hj] at hs
    exact h.least j s hs hf
  · rw [List.getElem?_append_right (Nat.not_lt.mp hj)] at hs
    exact absurd hf (hok s (List.mem_of_getElem? hs))

lemma FirstFailure.append {l : List (Timed (Except ε α))} {k : Nat} {t : Timed (Except ε α)}
    {e : ε} (h : FirstFailure l k t e) (l' : List (Timed (Except ε α))) :
    FirstFailure (l ++ l') k t e := by
  have hk := (List.getElem?_eq_some_iff.mp h.place).1
  refine ⟨by rw [List.getElem?_append_left hk, h.place], h.error, ?_⟩
  intro j s hs hf
  by_cases hj : j < l.length
  · rw [List.getElem?_append_left hj] at hs
    exact h.least j s hs hf
  · omega

lemma exists_earliestFailure {answers : List (Timed (Except ε α))}
    (h : ∃ t ∈ answers, t.Fails) : ∃ k t e, EarliestFailure answers k t e := by
  induction answers with
  | nil => simp at h
  | cons t rest ih =>
    by_cases hrest : ∃ s ∈ rest, s.Fails
    · obtain ⟨k, s, f, hs⟩ := ih hrest
      by_cases ht : t.Fails ∧ t.moment ≤ s.moment
      · obtain ⟨⟨e, he⟩, hm⟩ := ht
        refine ⟨0, t, e, rfl, he, ?_⟩
        intro j r hr hf
        cases j with
        | zero =>
          obtain rfl : t = r := by simpa using hr
          exact Or.inr ⟨rfl, le_rfl⟩
        | succ j =>
          have := hs.least j r hr hf
          omega
      · refine ⟨k + 1, s, f, hs.place, hs.error, ?_⟩
        intro j r hr hf
        cases j with
        | zero =>
          obtain rfl : t = r := by simpa using hr
          exact Or.inl (not_le.mp (fun hm => ht ⟨hf, hm⟩))
        | succ j =>
          have := hs.least j r hr hf
          omega
    · rw [List.exists_mem_cons_iff] at h
      obtain ⟨e, he⟩ := h.resolve_right hrest
      refine ⟨0, t, e, rfl, he, ?_⟩
      intro j r hr hf
      cases j with
      | zero =>
        obtain rfl : t = r := by simpa using hr
        exact Or.inr ⟨rfl, le_rfl⟩
      | succ j => exact absurd ⟨r, List.mem_of_getElem? hr, hf⟩ hrest

lemma exists_firstFailure {answers : List (Timed (Except ε α))}
    (h : ∃ t ∈ answers, t.Fails) : ∃ k t e, FirstFailure answers k t e := by
  induction answers with
  | nil => simp at h
  | cons t rest ih =>
    by_cases ht : t.Fails
    · obtain ⟨e, he⟩ := ht
      exact ⟨0, t, e, rfl, he, fun j _ _ _ => Nat.zero_le j⟩
    · rw [List.exists_mem_cons_iff] at h
      obtain ⟨k, s, e, hs⟩ := ih (h.resolve_left ht)
      refine ⟨k + 1, s, e, hs.place, hs.error, ?_⟩
      intro j r hr hf
      cases j with
      | zero =>
        obtain rfl : t = r := by simpa using hr
        exact absurd hf ht
      | succ j => exact Nat.succ_le_succ (hs.least j r hr hf)

/-- Under `anyFailure` the join ends with the earliest failure, at its moment. It stops asking only
if that moment is the launch. -/
theorem run_anyFailure {answers : List (Timed (Except ε α))} {k : Nat} {t : Timed (Except ε α)}
    {e : ε} (hp : policy answers.length = .anyFailure) (h : EarliestFailure answers k t e) :
    run answers = ⟨if t.moment = 0 then k + 1 else answers.length, t.wait, .error e⟩ := by
  have hw := t.wait_eq_moment_sub
  have hsplit := split_at_place h.place
  have hlength : (answers.take k).length = k :=
    List.length_take_of_le (List.getElem?_eq_some_iff.mp h.place).1.le
  have hbefore : ∀ s ∈ answers.take k, s.Fails → t.moment < s.moment := by
    intro s hs hf
    obtain ⟨j, hj, hplace⟩ := mem_take_place hs
    have := h.least j s hplace hf
    omega
  by_cases hzero : t.moment = 0
  · have hearly : ∀ s ∈ answers.take k, s.Fails → 0 < s.moment := by
      intro s hs hf
      have := hbefore s hs hf
      omega
    have hlaunch := run_of_launch_failure hsplit
      (by rw [hp]; exact failureAt_any_none hearly)
      (by rw [hp]; exact failureAt_any_some hearly h.error (by omega) [])
    rw [hlaunch, if_pos hzero, hw, hzero, hlength]
  · have hnone : ∀ m < t.moment, failureAt (policy answers.length) m answers = none := by
      intro m hm
      rw [hp]
      apply failureAt_any_none
      intro s hs hf
      obtain ⟨j, hj⟩ := List.mem_iff_getElem?.mp hs
      have := h.least j s hj hf
      omega
    have hsome : failureAt (policy answers.length) t.moment answers = some e := by
      rw [hp, hsplit]
      exact failureAt_any_some hbefore h.error le_rfl _
    rw [run_of_wake_failure (by omega) hnone hsome, if_neg hzero, hw]

/-- Under `inOrder` the join ends with the first failure of the list, when that answer and all
before it have come. -/
theorem run_inOrder {answers : List (Timed (Except ε α))} {k : Nat} {t : Timed (Except ε α)}
    {e : ε} (hp : policy answers.length = .inOrder) (h : FirstFailure answers k t e) :
    run answers =
      ⟨if lastMoment (answers.take (k + 1)) = 0 then k + 1 else answers.length,
        longestWait (answers.take (k + 1)), .error e⟩ := by
  have hsplit := split_at_place h.place
  have hlength : (answers.take k).length = k :=
    List.length_take_of_le (List.getElem?_eq_some_iff.mp h.place).1.le
  have hbefore : ∀ s ∈ answers.take k, ¬s.Fails := by
    intro s hs hf
    obtain ⟨j, hj, hplace⟩ := mem_take_place hs
    have := h.least j s hplace hf
    omega
  rw [longestWait_eq_lastMoment_sub, take_succ_place h.place]
  generalize hpre : answers.take k = pre at hsplit hlength hbefore
  have harrived : ∀ s ∈ pre ++ [t], s.moment ≤ lastMoment (pre ++ [t]) :=
    lastMoment_le_iff.mp le_rfl
  have hshow : ∀ rest,
      failureAt .inOrder (lastMoment (pre ++ [t])) (pre ++ t :: rest) = some e := by
    intro rest
    rw [failureAt_of_no_failure hbefore (fun s hs => harrived s (by simp [hs]))]
    exact failureAt_of_arrived_error h.error (harrived t (by simp)) rest
  by_cases hzero : lastMoment (pre ++ [t]) = 0
  · have hlaunch := run_of_launch_failure hsplit
      (by rw [hp]; exact failureAt_none_of_no_failure _ 0 hbefore)
      (by rw [hp, ← hzero]; exact hshow [])
    rw [hlaunch, if_pos hzero, hzero, hlength]
  · have hnone : ∀ m < lastMoment (pre ++ [t]),
        failureAt (policy answers.length) m answers = none := by
      intro m hm
      rw [hp, hsplit]
      by_cases hlate : ∃ s ∈ pre, m < s.moment
      · exact failureAt_inOrder_none hbefore hlate _
      · -- Everything before the failure has come, so it is the failing answer that is late.
        have hcome : ∀ s ∈ pre, s.moment ≤ m := by
          intro s hs
          by_contra hs'
          exact hlate ⟨s, hs, by omega⟩
        obtain ⟨s, hs, hsm⟩ := exists_late_of_lt_lastMoment hm
        have hst : s = t := by
          rcases List.mem_append.mp hs with hs | hs
          · exact absurd hsm (Nat.not_lt.mpr (hcome s hs))
          · exact List.mem_singleton.mp hs
        subst hst
        rw [failureAt_of_no_failure hbefore hcome]
        exact failureAt_inOrder_cons_waiting hsm _
    have hsome : failureAt (policy answers.length) (lastMoment (pre ++ [t])) answers = some e := by
      rw [hp, hsplit]
      exact hshow _
    rw [run_of_wake_failure (by omega) hnone hsome, if_neg hzero]

end Join

end Backlog
