import Backlog.Proofs.ReadAll

/-!
# Which failure ends the reads

Up to thirty reads end with the failure that comes first; of failures without suspension the first
in the list ends all at once, and nothing behind it is even asked for. More reads end with the first
failure of the list, as soon as everything before it is there. Both are said of the delays and
outcomes of the reads alone.
-/

namespace Backlog.Invocation

open Join

/-- The read at a place of the list fails: without suspension, or after so many milliseconds. -/
def FailsAt (queues : List Queue) (visit : Visit) (k : Nat) (delay : Option Nat) (e : Fault) :
    Prop :=
  ∃ q, queues[k]? = some q ∧ visit.read k q.key = ⟨delay, .error e⟩

/-- The keys that were asked for, in the order in which they were. -/
def askedKeys (queues : List Queue) (joined : Joined Fault Reading) : List String :=
  (queues.take joined.started).map Queue.key

section FailsAt

variable {queues : List Queue} {visit : Visit} {k : Nat} {delay : Option Nat} {e : Fault}

lemma failsAt_iff :
    FailsAt queues visit k delay e ↔ (answers queues visit)[k]? = some ⟨delay, .error e⟩ := by
  rw [answers_getElem?, Option.map_eq_some_iff]
  rfl

lemma failsAt_of_place {t : Timed (Except Fault UInt64)}
    (hplace : (answers queues visit)[k]? = some t) (herror : t.outcome = .error e) :
    FailsAt queues visit k t.delay e := by
  rw [failsAt_iff, hplace, ← herror]

lemma exists_fails_of_failsAt (h : FailsAt queues visit k delay e) :
    ∃ t ∈ answers queues visit, t.Fails :=
  ⟨_, List.mem_of_getElem? (failsAt_iff.mp h), e, rfl⟩

lemma FailsAt.lt_length (h : FailsAt queues visit k delay e) : k < queues.length := by
  obtain ⟨q, hq, _⟩ := h
  exact (List.getElem?_eq_some_iff.mp hq).1

lemma askedKeys_of_all {joined : Joined Fault Reading} (h : joined.started = queues.length) :
    askedKeys queues joined = queues.map Queue.key := by
  rw [askedKeys, h, List.take_length]

lemma askedKeys_of_some (queues : List Queue) {joined : Joined Fault Reading} {n : Nat}
    (h : joined.started = n) :
    askedKeys queues joined = (queues.map Queue.key).take n := by
  rw [askedKeys, h, List.map_take]

end FailsAt

/-! ### Up to thirty reads -/

/-- The earliest failure is the first in the list of those without suspension. If there is none, it
is the first in time, and before others of its time in the list. -/
lemma earliest_cases {queues : List Queue} {visit : Visit} {k : Nat}
    {t : Timed (Except Fault UInt64)} {e : Fault}
    (h : EarliestFailure (answers queues visit) k t e) :
    (t.delay = none ∧ ∀ j f, FailsAt queues visit j none f → k ≤ j) ∨
      ∃ ms, t.delay = some ms ∧ (∀ j f, ¬FailsAt queues visit j none f) ∧
        ∀ j n f, FailsAt queues visit j (some n) f → ms < n ∨ (ms = n ∧ k ≤ j) := by
  have hleast : ∀ j (s : Timed (Except Fault UInt64)) f, s.outcome = .error f →
      FailsAt queues visit j s.delay f →
        t.moment < s.moment ∨ (t.moment = s.moment ∧ k ≤ j) := by
    intro j s f hs hj
    rw [failsAt_iff, ← hs] at hj
    exact h.least j s hj ⟨f, hs⟩
  cases hdelay : t.delay with
  | none =>
    refine Or.inl ⟨rfl, fun j f hj => ?_⟩
    have hle := hleast j ⟨none, .error f⟩ f rfl hj
    simp only [Timed.moment, hdelay] at hle
    omega
  | some ms =>
    refine Or.inr ⟨ms, rfl, fun j f hj => ?_, fun j n f hj => ?_⟩
    · have hle := hleast j ⟨none, .error f⟩ f rfl hj
      simp only [Timed.moment, hdelay] at hle
      omega
    · have hle := hleast j ⟨some n, .error f⟩ f rfl hj
      simp only [Timed.moment, hdelay] at hle
      omega

/-- How reads that are watched one by one end. -/
structure EndsWithEarliest (queues : List Queue) (visit : Visit) (joined : Joined Fault Reading) :
    Prop where
  /-- Of the failures without suspension the first in the list ends it, before anything behind that
  queue is asked for. -/
  immediate : (∃ k e, FailsAt queues visit k none e) →
    ∃ k e, FailsAt queues visit k none e ∧ (∀ j f, FailsAt queues visit j none f → k ≤ j) ∧
      joined.result = .error e ∧ joined.elapsed = 0 ∧
      askedKeys queues joined = (queues.map Queue.key).take (k + 1) ∧
      (askedKeys queues joined).length = k + 1
  /-- Without such a failure all are asked for, and the first in time ends it at its own time,
  whatever is still to come. -/
  delayed : (¬∃ k e, FailsAt queues visit k none e) →
    ∃ k ms e, FailsAt queues visit k (some ms) e ∧
      (∀ j n f, FailsAt queues visit j (some n) f → ms < n ∨ (ms = n ∧ k ≤ j)) ∧
      joined.result = .error e ∧ joined.elapsed = ms ∧
      askedKeys queues joined = queues.map Queue.key

/-- Up to thirty reads, some of which fail, end with the earliest failure. -/
theorem few_reads_end_with_earliest (queues : List Queue) (visit : Visit) (clock : Clock)
    (hlen : queues.length ≤ 30) (hfail : ∃ k delay e, FailsAt queues visit k delay e) :
    EndsWithEarliest queues visit (readAll queues (answers queues visit) clock) := by
  obtain ⟨i, delay, f, hi⟩ := hfail
  obtain ⟨k, t, e, hearliest⟩ := exists_earliestFailure (exists_fails_of_failsAt hi)
  have hat := failsAt_of_place hearliest.place hearliest.error
  have hk := hat.lt_length
  rw [readAll_of_few hlen hearliest]
  rcases earliest_cases hearliest with ⟨hnone, hfirst⟩ | ⟨ms, hsome, hlate, hfirst⟩
  · rw [hnone] at hat
    have hmoment : t.moment = 0 := by simp only [Timed.moment, hnone]
    have hwait : t.wait = 0 := by simp only [Timed.wait, hnone, Option.getD_none]
    rw [if_pos hmoment, hwait]
    constructor
    · intro _
      have hkeys : askedKeys queues ⟨k + 1, 0, .error e⟩ = (queues.map Queue.key).take (k + 1) :=
        askedKeys_of_some queues rfl
      refine ⟨k, e, hat, hfirst, rfl, rfl, hkeys, ?_⟩
      rw [hkeys, List.length_take, List.length_map, Nat.min_eq_left hk]
    · intro hnot
      exact absurd ⟨k, e, hat⟩ hnot
  · rw [hsome] at hat
    have hmoment : t.moment ≠ 0 := by simp [Timed.moment, hsome]
    have hwait : t.wait = ms := by simp only [Timed.wait, hsome, Option.getD_some]
    rw [if_neg hmoment, hwait]
    constructor
    · rintro ⟨j, g, hj⟩
      exact absurd hj (hlate j g)
    · intro _
      exact ⟨k, ms, e, hat, hfirst, rfl, rfl, askedKeys_of_all rfl⟩

/-- Two queues that fail at one time, and two others, one of which takes longer than that. -/
def unevenQueues : List Queue := [⟨"a", "A"⟩, ⟨"b", "B"⟩, ⟨"c", "C"⟩, ⟨"d", "D"⟩]

def unevenVisit : Visit where
  connect := ⟨none, .ok ()⟩
  read i _ :=
    match i with
    | 0 => ⟨some 90, .ok 1⟩
    | 1 => ⟨some 40, .error (.read "b" "slow")⟩
    | 2 => ⟨none, .ok 2⟩
    | _ => ⟨some 40, .error (.read "d" "slow")⟩
  disconnect := none

/-- The four reads end with the failure of the second queue, while the first is still to come. -/
theorem uneven_reads_end_with_earliest :
    unevenQueues.length ≤ 30 ∧ (∃ k delay e, FailsAt unevenQueues unevenVisit k delay e) ∧
    EndsWithEarliest unevenQueues unevenVisit
      (readAll unevenQueues (answers unevenQueues unevenVisit) Instant.ofMilliseconds) := by
  have hlen : unevenQueues.length ≤ 30 := by decide
  have hfail : ∃ k delay e, FailsAt unevenQueues unevenVisit k delay e :=
    ⟨1, some 40, .read "b" "slow", ⟨"b", "B"⟩, rfl, rfl⟩
  exact ⟨hlen, hfail,
    few_reads_end_with_earliest unevenQueues unevenVisit Instant.ofMilliseconds hlen hfail⟩

/-! ### More than thirty reads -/

/-- The read at a place comes without suspension. -/
def Immediate (queues : List Queue) (visit : Visit) (k : Nat) : Prop :=
  ∀ q, queues[k]? = some q → (visit.read k q.key).delay = none

/-- The first answers are there at the launch exactly if none of them is suspended. -/
lemma lastMoment_take_eq_zero_iff {queues : List Queue} {visit : Visit} {k : Nat} :
    lastMoment ((answers queues visit).take (k + 1)) = 0 ↔ ∀ j ≤ k, Immediate queues visit j := by
  have hzero : ∀ t : Timed (Except Fault UInt64), t.moment ≤ 0 ↔ t.delay = none := by
    rintro ⟨_ | ms, outcome⟩ <;> simp [Timed.moment]
  rw [← Nat.le_zero, lastMoment_le_iff]
  constructor
  · intro h j hj q hq
    apply (hzero _).mp
    apply h
    apply List.mem_of_getElem? (i := j)
    rw [List.getElem?_take, if_pos (Nat.lt_succ_of_le hj), answers_getElem?, hq]
    rfl
  · intro h t ht
    obtain ⟨j, hj, hplace⟩ := mem_take_place ht
    rw [answers_getElem?] at hplace
    obtain ⟨q, hq, rfl⟩ := Option.map_eq_some_iff.mp hplace
    exact (hzero _).mpr (h j (Nat.le_of_lt_succ hj) q hq)

/-- What stands behind a place does not count among the answers up to it. -/
lemma take_answers_congr {queues : List Queue} {visit visit' : Visit} {k : Nat}
    (h : ∀ j ≤ k, ∀ q, queues[j]? = some q → visit'.read j q.key = visit.read j q.key) :
    (answers queues visit').take (k + 1) = (answers queues visit).take (k + 1) := by
  apply List.ext_getElem?
  intro j
  rw [List.getElem?_take, List.getElem?_take, answers_getElem?, answers_getElem?]
  by_cases hj : j < k + 1
  · rw [if_pos hj, if_pos hj]
    cases hq : queues[j]? with
    | none => rfl
    | some q => rw [Option.map_some, Option.map_some, h j (Nat.le_of_lt_succ hj) q hq]
  · rw [if_neg hj, if_neg hj]

/-- How reads that are handed on in the order of the list end. -/
structure EndsWithFirst (queues : List Queue) (visit : Visit) (clock : Clock)
    (joined : Joined Fault Reading) (k : Nat) (e : Fault) : Prop where
  result : joined.result = .error e
  /-- The longest of the waits up to the failure is the time of the whole. -/
  elapsed : joined.elapsed = longestWait ((answers queues visit).take (k + 1))
  immediate : (∀ j ≤ k, Immediate queues visit j) →
    askedKeys queues joined = (queues.map Queue.key).take (k + 1) ∧
      (askedKeys queues joined).length = k + 1
  suspended : (¬∀ j ≤ k, Immediate queues visit j) →
    askedKeys queues joined = queues.map Queue.key
  /-- Reads behind the failure count for nothing, however long they take and whatever they give. -/
  behind : ∀ visit' : Visit,
    (∀ j ≤ k, ∀ q, queues[j]? = some q → visit'.read j q.key = visit.read j q.key) →
      readAll queues (answers queues visit') clock = joined

/-- More than thirty reads, some of which fail, end with the first failure of the list. -/
theorem many_reads_end_with_first (queues : List Queue) (visit : Visit) (clock : Clock)
    (hlen : 30 < queues.length) (hfail : ∃ k delay e, FailsAt queues visit k delay e) :
    ∃ k delay e, FailsAt queues visit k delay e ∧
      (∀ j delay' f, FailsAt queues visit j delay' f → k ≤ j) ∧
      EndsWithFirst queues visit clock (readAll queues (answers queues visit) clock) k e := by
  obtain ⟨i, delay, f, hi⟩ := hfail
  obtain ⟨k, t, e, hfirst⟩ := exists_firstFailure (exists_fails_of_failsAt hi)
  have hat := failsAt_of_place hfirst.place hfirst.error
  have hk := hat.lt_length
  have hjoined := readAll_of_many hlen hfirst clock
  refine ⟨k, t.delay, e, hat, ?_, ?_⟩
  · intro j delay' g hj
    exact hfirst.least j _ (failsAt_iff.mp hj) ⟨g, rfl⟩
  constructor
  · rw [hjoined]
  · rw [hjoined]
  · intro himmediate
    have hzero := lastMoment_take_eq_zero_iff.mpr himmediate
    have hstarted : (readAll queues (answers queues visit) clock).started = k + 1 := by
      rw [hjoined]
      exact if_pos hzero
    have hkeys := askedKeys_of_some queues hstarted
    refine ⟨hkeys, ?_⟩
    rw [hkeys, List.length_take, List.length_map, Nat.min_eq_left hk]
  · intro hsuspended
    have hlate := mt lastMoment_take_eq_zero_iff.mp hsuspended
    apply askedKeys_of_all
    rw [hjoined]
    exact if_neg hlate
  · intro visit' hsame
    have htake := take_answers_congr hsame
    have hplace : ∀ j ≤ k, (answers queues visit')[j]? = (answers queues visit)[j]? := by
      intro j hj
      have := congrArg (·[j]?) htake
      simpa only [List.getElem?_take, if_pos (Nat.lt_succ_of_le hj)] using this
    have hfirst' : FirstFailure (answers queues visit') k t e := by
      refine ⟨by rw [hplace k le_rfl, hfirst.place], hfirst.error, ?_⟩
      intro j s hs hf
      by_contra hj
      rw [hplace j (Nat.le_of_not_le hj)] at hs
      exact hj (hfirst.least j s hs hf)
    rw [readAll_of_many hlen hfirst' clock, htake, hjoined]

/-- Behind two queues that fail in the reverse order of the list, so many healthy ones that the
first failure of the list is waited for. -/
theorem crossed_reads_end_with_first :
    let queues := crossedQueues ++ paddingQueues 29
    30 < queues.length ∧ (∃ k delay e, FailsAt queues crossedVisit k delay e) ∧
    ∃ k delay e, FailsAt queues crossedVisit k delay e ∧
      (∀ j delay' f, FailsAt queues crossedVisit j delay' f → k ≤ j) ∧
      EndsWithFirst queues crossedVisit Instant.ofMilliseconds
        (readAll queues (answers queues crossedVisit) Instant.ofMilliseconds) k e := by
  intro queues
  have hlen : 30 < queues.length := by simp [queues, crossedQueues, paddingQueues]
  have hfail : ∃ k delay e, FailsAt queues crossedVisit k delay e :=
    ⟨1, some 20, .read "b" "early", ⟨"b", "B"⟩, rfl, rfl⟩
  exact ⟨hlen, hfail,
    many_reads_end_with_first queues crossedVisit Instant.ofMilliseconds hlen hfail⟩

end Backlog.Invocation
