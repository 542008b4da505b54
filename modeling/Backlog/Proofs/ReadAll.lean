import Backlog.Invocation
import Backlog.Proofs.JoinRun

/-!
# Reading all queues

What `readAll` gives, when, and after how many questions, from the answers alone. A success does not
depend on the policy of the join; a failure does, so healthy queues added to a list can change
which failure is reported and when, as soon as they make the list longer than thirty.
-/

namespace Backlog.Invocation

open Join

/-- The answers of a visit, each with its queue and as of the moment at which it comes. -/
def measurements (queues : List Queue) (visit : Visit) (clock : Clock) :
    List (Timed (Except Fault Reading)) :=
  List.zipWith (measurement clock) queues (answers queues visit)

lemma answers_length (queues : List Queue) (visit : Visit) :
    (answers queues visit).length = queues.length := by
  simp [answers]

lemma answers_getElem? (queues : List Queue) (visit : Visit) (i : Nat) :
    (answers queues visit)[i]? = queues[i]?.map fun q => visit.read i q.key := by
  simp [answers]

lemma measurements_length (queues : List Queue) (visit : Visit) (clock : Clock) :
    (measurements queues visit clock).length = queues.length := by
  simp [measurements, answers_length]

lemma measurements_getElem? (queues : List Queue) (visit : Visit) (clock : Clock) (i : Nat) :
    (measurements queues visit clock)[i]? =
      queues[i]?.map fun q => measurement clock q (visit.read i q.key) := by
  rw [measurements, List.getElem?_zipWith, answers_getElem?]
  cases queues[i]? <;> rfl

lemma readAll_eq_run (queues : List Queue) (visit : Visit) (clock : Clock) :
    readAll queues (answers queues visit) clock = Join.run (measurements queues visit clock) := rfl

lemma measurement_error_iff {clock : Clock} {q : Queue} {t : Timed (Except Fault UInt64)}
    {e : Fault} : (measurement clock q t).outcome = .error e ↔ t.outcome = .error e := by
  rcases t with ⟨delay, f | n⟩ <;> simp [measurement, Except.map]

lemma measurement_fails_iff {clock : Clock} {q : Queue} {t : Timed (Except Fault UInt64)} :
    (measurement clock q t).Fails ↔ t.Fails := by
  simp only [Timed.Fails, measurement_error_iff]

lemma map_wait_measurements (queues : List Queue) (visit : Visit) (clock : Clock) :
    (measurements queues visit clock).map Timed.wait = (answers queues visit).map Timed.wait := by
  apply List.ext_getElem?
  intro i
  rw [List.getElem?_map, List.getElem?_map, measurements_getElem?, answers_getElem?]
  cases queues[i]? <;> rfl

lemma longestWait_measurements (queues : List Queue) (visit : Visit) (clock : Clock) :
    longestWait (measurements queues visit clock) = longestWait (answers queues visit) := by
  rw [longestWait, map_wait_measurements]
  rfl

lemma longestWait_take_measurements (queues : List Queue) (visit : Visit) (clock : Clock)
    (k : Nat) : longestWait ((measurements queues visit clock).take k) =
      longestWait ((answers queues visit).take k) := by
  simp only [longestWait, List.map_take, map_wait_measurements]

lemma lastMoment_take_measurements (queues : List Queue) (visit : Visit) (clock : Clock)
    (k : Nat) : lastMoment ((measurements queues visit clock).take k) =
      lastMoment ((answers queues visit).take k) := by
  have h : (measurements queues visit clock).map Timed.moment =
      (answers queues visit).map Timed.moment := by
    apply List.ext_getElem?
    intro i
    rw [List.getElem?_map, List.getElem?_map, measurements_getElem?, answers_getElem?]
    cases queues[i]? <;> rfl
  simp only [lastMoment, List.map_take, h]

/-- The measurement at a place is that of the queue and of the answer there. -/
lemma measurements_place {queues : List Queue} {visit : Visit} {clock : Clock} {k : Nat}
    {m : Timed (Except Fault Reading)} (h : (measurements queues visit clock)[k]? = some m) :
    ∃ q t, queues[k]? = some q ∧ (answers queues visit)[k]? = some t ∧
      m = measurement clock q t := by
  rw [measurements_getElem?] at h
  rw [answers_getElem?]
  cases hq : queues[k]? with
  | none => rw [hq] at h; cases h
  | some q =>
    rw [hq] at h
    exact ⟨q, _, rfl, rfl, by simpa using h.symm⟩

lemma answers_place {queues : List Queue} {visit : Visit} {k : Nat}
    {t : Timed (Except Fault UInt64)} (clock : Clock) (h : (answers queues visit)[k]? = some t) :
    ∃ q, queues[k]? = some q ∧ (measurements queues visit clock)[k]? =
      some (measurement clock q t) := by
  rw [answers_getElem?] at h
  rw [measurements_getElem?]
  cases hq : queues[k]? with
  | none => rw [hq] at h; cases h
  | some q =>
    rw [hq] at h
    obtain rfl : visit.read k q.key = t := by simpa using h
    exact ⟨q, rfl, rfl⟩

/-! ### Failure -/

lemma earliestFailure_measurements {queues : List Queue} {visit : Visit} {k : Nat}
    {t : Timed (Except Fault UInt64)} {e : Fault}
    (h : EarliestFailure (answers queues visit) k t e) (clock : Clock) :
    ∃ m, EarliestFailure (measurements queues visit clock) k m e ∧ m.delay = t.delay := by
  obtain ⟨q, _, hm⟩ := answers_place clock h.place
  refine ⟨measurement clock q t, ⟨hm, measurement_error_iff.mpr h.error, ?_⟩, rfl⟩
  intro j s hs hf
  obtain ⟨q', t', _, ht', rfl⟩ := measurements_place hs
  exact h.least j t' ht' (measurement_fails_iff.mp hf)

lemma firstFailure_measurements {queues : List Queue} {visit : Visit} {k : Nat}
    {t : Timed (Except Fault UInt64)} {e : Fault}
    (h : FirstFailure (answers queues visit) k t e) (clock : Clock) :
    ∃ m, FirstFailure (measurements queues visit clock) k m e := by
  obtain ⟨q, _, hm⟩ := answers_place clock h.place
  refine ⟨measurement clock q t, hm, measurement_error_iff.mpr h.error, ?_⟩
  intro j s hs hf
  obtain ⟨q', t', _, ht', rfl⟩ := measurements_place hs
  exact h.least j t' ht' (measurement_fails_iff.mp hf)

/-- Up to thirty reads end with the earliest failure. -/
theorem readAll_of_few {queues : List Queue} {visit : Visit} {k : Nat}
    {t : Timed (Except Fault UInt64)} {e : Fault} (hlen : queues.length ≤ 30)
    (h : EarliestFailure (answers queues visit) k t e) (clock : Clock) :
    readAll queues (answers queues visit) clock =
      ⟨if t.moment = 0 then k + 1 else queues.length, t.wait, .error e⟩ := by
  obtain ⟨m, hm, hdelay⟩ := earliestFailure_measurements h clock
  have hp : policy (measurements queues visit clock).length = .anyFailure := by
    rw [measurements_length, policy, if_pos hlen]
  have hmoment : m.moment = t.moment := by simp only [Timed.moment, hdelay]
  have hwait : m.wait = t.wait := by simp only [Timed.wait, hdelay]
  rw [readAll_eq_run, run_anyFailure hp hm, measurements_length, hmoment, hwait]

/-- More than thirty reads end with the first failure of the list, however long what stands before
it takes. -/
theorem readAll_of_many {queues : List Queue} {visit : Visit} {k : Nat}
    {t : Timed (Except Fault UInt64)} {e : Fault} (hlen : 30 < queues.length)
    (h : FirstFailure (answers queues visit) k t e) (clock : Clock) :
    readAll queues (answers queues visit) clock =
      ⟨if lastMoment ((answers queues visit).take (k + 1)) = 0 then k + 1 else queues.length,
        longestWait ((answers queues visit).take (k + 1)), .error e⟩ := by
  obtain ⟨m, hm⟩ := firstFailure_measurements h clock
  have hp : policy (measurements queues visit clock).length = .inOrder := by
    rw [measurements_length, policy, if_neg (by omega)]
  rw [readAll_eq_run, run_inOrder hp hm, measurements_length, lastMoment_take_measurements,
    longestWait_take_measurements]

/-- Where all answers come at one moment, either policy reports the first failure of the list. -/
lemma readAll_of_firstFailure {queues : List Queue} {visit : Visit} {k : Nat}
    {t : Timed (Except Fault UInt64)} {e : Fault}
    (h : FirstFailure (answers queues visit) k t e)
    (hmoment : ∀ s ∈ answers queues visit, s.moment = t.moment) (clock : Clock) :
    (readAll queues (answers queues visit) clock).result = .error e := by
  by_cases hlen : queues.length ≤ 30
  · have hearliest : EarliestFailure (answers queues visit) k t e := by
      refine ⟨h.place, h.error, fun j s hs hfails => Or.inr ⟨?_, h.least j s hs hfails⟩⟩
      exact (hmoment s (List.mem_of_getElem? hs)).symm
    rw [readAll_of_few hlen hearliest]
  · rw [readAll_of_many (by omega) h]

lemma failsWith_of_few {queues : List Queue} {visit : Visit} {k : Nat}
    {t : Timed (Except Fault UInt64)} {e : Fault} (hlen : queues.length ≤ 30)
    (h : EarliestFailure (answers queues visit) k t e) (clock : Clock) :
    (readAll queues (answers queues visit) clock).FailsWith e t.wait := by
  rw [readAll_of_few hlen h]
  exact ⟨rfl, rfl⟩

lemma failsWith_of_many {queues : List Queue} {visit : Visit} {k : Nat}
    {t : Timed (Except Fault UInt64)} {e : Fault} (hlen : 30 < queues.length)
    (h : FirstFailure (answers queues visit) k t e) (clock : Clock) :
    (readAll queues (answers queues visit) clock).FailsWith e
      (longestWait ((answers queues visit).take (k + 1))) := by
  rw [readAll_of_many hlen h]
  exact ⟨rfl, rfl⟩

/-! ### Success -/

/-- Every queue is answered with a length. -/
def AllRead (queues : List Queue) (visit : Visit) : Prop :=
  ∀ i q, queues[i]? = some q → ∃ n, (visit.read i q.key).outcome = .ok n

lemma allRead_iff {queues : List Queue} {visit : Visit} :
    AllRead queues visit ↔ ∀ t ∈ answers queues visit, ¬t.Fails := by
  constructor
  · intro h t ht
    obtain ⟨i, hi⟩ := List.mem_iff_getElem?.mp ht
    rw [answers_getElem?] at hi
    obtain ⟨q, hq, rfl⟩ := Option.map_eq_some_iff.mp hi
    exact (Timed.not_fails_iff _).mpr (h i q hq)
  · intro h i q hq
    apply (Timed.not_fails_iff _).mp
    apply h
    apply List.mem_iff_getElem?.mpr
    exact ⟨i, by rw [answers_getElem?, hq]; rfl⟩

lemma measurements_not_fail {queues : List Queue} {visit : Visit} (h : AllRead queues visit)
    (clock : Clock) : ∀ m ∈ measurements queues visit clock, ¬m.Fails := by
  intro m hm
  obtain ⟨i, hi⟩ := List.mem_iff_getElem?.mp hm
  obtain ⟨q, t, _, ht, rfl⟩ := measurements_place hi
  rw [measurement_fails_iff]
  exact allRead_iff.mp h t (List.mem_of_getElem? ht)

lemma exists_fails_of_not_allRead {queues : List Queue} {visit : Visit}
    (h : ¬AllRead queues visit) : ∃ t ∈ answers queues visit, t.Fails := by
  rw [allRead_iff] at h
  simpa using h

lemma readAll_fails {queues : List Queue} {visit : Visit} (h : ¬AllRead queues visit)
    (clock : Clock) : ∃ f, (readAll queues (answers queues visit) clock).result = .error f := by
  by_cases hlen : queues.length ≤ 30
  · obtain ⟨k, t, e, he⟩ := exists_earliestFailure (exists_fails_of_not_allRead h)
    exact ⟨e, by rw [readAll_of_few hlen he]⟩
  · obtain ⟨k, t, e, he⟩ := exists_firstFailure (exists_fails_of_not_allRead h)
    exact ⟨e, by rw [readAll_of_many (by omega) he]⟩

lemma readAll_of_allRead {queues : List Queue} {visit : Visit} (h : AllRead queues visit)
    (clock : Clock) : readAll queues (answers queues visit) clock =
      ⟨queues.length, longestWait (answers queues visit),
        .ok (values (measurements queues visit clock))⟩ := by
  rw [readAll_eq_run, run_of_no_failure (measurements_not_fail h clock), measurements_length,
    longestWait_measurements]

/-- The fault of a wait that failed is one of the answers. -/
lemma exists_answer_of_error {queues : List Queue} {visit : Visit} {clock : Clock} {f : Fault}
    (h : (readAll queues (answers queues visit) clock).result = .error f) :
    ∃ i q, queues[i]? = some q ∧ (visit.read i q.key).outcome = .error f := by
  have hplace : ∀ {k : Nat} {t : Timed (Except Fault UInt64)} {e : Fault},
      (answers queues visit)[k]? = some t → t.outcome = .error e →
        ∃ i q, queues[i]? = some q ∧ (visit.read i q.key).outcome = .error e := by
    intro k t e hk ht
    rw [answers_getElem?] at hk
    obtain ⟨q, hq, rfl⟩ := Option.map_eq_some_iff.mp hk
    exact ⟨k, q, hq, ht⟩
  have hfail : ¬AllRead queues visit := by
    intro hall
    rw [readAll_of_allRead hall] at h
    cases h
  by_cases hlen : queues.length ≤ 30
  · obtain ⟨k, t, e, he⟩ := exists_earliestFailure (exists_fails_of_not_allRead hfail)
    rw [readAll_of_few hlen he] at h
    obtain rfl := Except.error.inj h
    exact hplace he.place he.error
  · obtain ⟨k, t, e, he⟩ := exists_firstFailure (exists_fails_of_not_allRead hfail)
    rw [readAll_of_many (by omega) he] at h
    obtain rfl := Except.error.inj h
    exact hplace he.place he.error

/-- The reading at a place is of the queue there, with the length that was answered for it. -/
lemma readings_getElem? {queues : List Queue} {visit : Visit} (h : AllRead queues visit)
    (clock : Clock) {i : Nat} {q : Queue} (hq : queues[i]? = some q) :
    ∃ n, (visit.read i q.key).outcome = .ok n ∧
      (values (measurements queues visit clock))[i]? =
        some ⟨q, n, clock (visit.read i q.key).wait⟩ := by
  obtain ⟨n, hn⟩ := h i q hq
  refine ⟨n, hn, ?_⟩
  rw [values_getElem? (measurements_not_fail h clock), measurements_getElem?, hq]
  simp [measurement, hn, Except.map, Except.toOption]

lemma readings_getElem?_none {queues : List Queue} {visit : Visit} (h : AllRead queues visit)
    (clock : Clock) {i : Nat} (hq : queues[i]? = none) :
    (values (measurements queues visit clock))[i]? = none := by
  rw [values_getElem? (measurements_not_fail h clock), measurements_getElem?, hq]
  rfl

lemma readings_length {queues : List Queue} {visit : Visit} (h : AllRead queues visit)
    (clock : Clock) : (values (measurements queues visit clock)).length = queues.length := by
  rw [values_length (measurements_not_fail h clock), measurements_length]

lemma readings_queue {queues : List Queue} {visit : Visit} (h : AllRead queues visit)
    (clock : Clock) : (values (measurements queues visit clock)).map Reading.queue = queues := by
  apply List.ext_getElem?
  intro i
  rw [List.getElem?_map]
  cases hq : queues[i]? with
  | none =>
    rw [readings_getElem?_none h clock hq]
    rfl
  | some q =>
    obtain ⟨n, _, hr⟩ := readings_getElem? h clock hq
    rw [hr]
    rfl

lemma readings_outcome {queues : List Queue} {visit : Visit} (h : AllRead queues visit)
    (clock : Clock) : (values (measurements queues visit clock)).map (fun r => .ok r.length) =
      (answers queues visit).map Timed.outcome := by
  apply List.ext_getElem?
  intro i
  rw [List.getElem?_map, List.getElem?_map, answers_getElem?]
  cases hq : queues[i]? with
  | none =>
    rw [readings_getElem?_none h clock hq]
    rfl
  | some q =>
    obtain ⟨n, hn, hr⟩ := readings_getElem? h clock hq
    rw [hr, Option.map_some, Option.map_some, Option.map_some, hn]

lemma readAll_started_le (queues : List Queue) (visit : Visit) (clock : Clock) :
    (readAll queues (answers queues visit) clock).started ≤ queues.length := by
  have hplace : ∀ {k : Nat} {t : Timed (Except Fault UInt64)},
      (answers queues visit)[k]? = some t → k + 1 ≤ queues.length := by
    intro k t h
    rw [← answers_length queues visit]
    exact (List.getElem?_eq_some_iff.mp h).1
  by_cases h : AllRead queues visit
  · rw [readAll_of_allRead h]
  · by_cases hlen : queues.length ≤ 30
    · obtain ⟨k, t, e, he⟩ := exists_earliestFailure (exists_fails_of_not_allRead h)
      have := hplace he.place
      rw [readAll_of_few hlen he]
      dsimp only
      split <;> omega
    · obtain ⟨k, t, e, he⟩ := exists_firstFailure (exists_fails_of_not_allRead h)
      have := hplace he.place
      rw [readAll_of_many (by omega) he]
      dsimp only
      split <;> omega

lemma allRead_of_readAll_ok {queues : List Queue} {visit : Visit} {clock : Clock}
    {rs : List Reading}
    (h : (readAll queues (answers queues visit) clock).result = .ok rs) :
    AllRead queues visit := by
  by_contra hnot
  obtain ⟨f, hf⟩ := readAll_fails hnot clock
  rw [hf] at h
  cases h

/-- What the readings say of their queues depends on the outcomes of the reads alone. -/
lemma readings_congr {queues : List Queue} {visit visit' : Visit} {clock clock' : Clock}
    (h : AllRead queues visit)
    (hsame : ∀ i q, queues[i]? = some q →
      (visit'.read i q.key).outcome = (visit.read i q.key).outcome) :
    (values (measurements queues visit' clock')).map (fun r => (r.queue, r.length)) =
      (values (measurements queues visit clock)).map (fun r => (r.queue, r.length)) := by
  have h' : AllRead queues visit' := by
    intro i q hq
    obtain ⟨n, hn⟩ := h i q hq
    exact ⟨n, (hsame i q hq).trans hn⟩
  apply List.ext_getElem?
  intro i
  rw [List.getElem?_map, List.getElem?_map]
  cases hq : queues[i]? with
  | none => rw [readings_getElem?_none h' clock' hq, readings_getElem?_none h clock hq]
  | some q =>
    obtain ⟨n, hn, hr⟩ := readings_getElem? h clock hq
    obtain ⟨n', hn', hr'⟩ := readings_getElem? h' clock' hq
    rw [hsame i q hq, hn] at hn'
    obtain rfl : n = n' := by simpa using hn'
    rw [hr, hr']
    rfl

/-- The readings come if and only if every read succeeds. They are then those of the queues in the
order of the list, each with the length of its own read; all reads have been started; and the time
of the whole is the longest of the waits. Other waits change nothing but that time. -/
theorem readAll_succeeds_iff (queues : List Queue) (visit : Visit) (clock : Clock) :
    let joined := readAll queues (answers queues visit) clock
    ((∃ rs, joined.result = .ok rs) ↔ AllRead queues visit) ∧
    (∀ rs, joined.result = .ok rs →
      rs.length = queues.length ∧
      (∀ i q, queues[i]? = some q → ∃ r, rs[i]? = some r ∧ r.queue = q ∧
        (visit.read i q.key).outcome = .ok r.length) ∧
      queues.take joined.started = queues ∧
      joined.elapsed = longestWait (answers queues visit)) ∧
    (∀ (visit' : Visit) (clock' : Clock),
      (∀ i q, queues[i]? = some q →
        (visit'.read i q.key).outcome = (visit.read i q.key).outcome) →
      ∀ rs, joined.result = .ok rs →
        ∃ rs', (readAll queues (answers queues visit') clock').result = .ok rs' ∧
          rs'.map (fun r => (r.queue, r.length)) = rs.map (fun r => (r.queue, r.length))) := by
  intro joined
  refine ⟨⟨?_, ?_⟩, ?_, ?_⟩
  · rintro ⟨rs, hrs⟩
    exact allRead_of_readAll_ok hrs
  · intro h
    exact ⟨_, congrArg Joined.result (readAll_of_allRead h clock)⟩
  · intro rs hrs
    have h := allRead_of_readAll_ok hrs
    have heq : joined = _ := readAll_of_allRead h clock
    rw [heq] at hrs ⊢
    obtain rfl := Except.ok.inj hrs
    refine ⟨readings_length h clock, ?_, List.take_length, rfl⟩
    intro i q hq
    obtain ⟨n, hn, hr⟩ := readings_getElem? h clock hq
    exact ⟨_, hr, rfl, hn⟩
  · intro visit' clock' hsame rs hrs
    have h := allRead_of_readAll_ok hrs
    have h' : AllRead queues visit' := by
      intro i q hq
      obtain ⟨n, hn⟩ := h i q hq
      exact ⟨n, (hsame i q hq).trans hn⟩
    have heq : joined = _ := readAll_of_allRead h clock
    rw [heq] at hrs
    obtain rfl := Except.ok.inj hrs
    exact ⟨_, congrArg Joined.result (readAll_of_allRead h' clock'), readings_congr h hsame⟩

/-! ### Healthy queues beside failing ones -/

lemma answers_append (queues more : List Queue) (visit : Visit) :
    answers (queues ++ more) visit = answers queues visit ++
      more.mapIdx fun i q => visit.read (queues.length + i) q.key := by
  simp only [answers, List.mapIdx_append, Nat.add_comm]

/-- Healthy queues added to a list leave the reported failure and its time as they are, the earliest
failure at its own time, exactly as long as the list stays within thirty or the first failure of
the list is the earliest one and nothing before it takes longer. Beyond thirty it is always the
first failure of the list that is reported, when all before it have answered. -/
theorem failure_beside_healthy_queues (queues healthy : List Queue) (visit : Visit) (clock : Clock)
    (hfail : ¬AllRead queues visit)
    (hhealthy : ∀ i q, healthy[i]? = some q →
      ∃ n, (visit.read (queues.length + i) q.key).outcome = .ok n) :
    let few := readAll queues (answers queues visit) clock
    let many := readAll (queues ++ healthy) (answers (queues ++ healthy) visit) clock
    ∃ k t e j s f, EarliestFailure (answers queues visit) k t e ∧
      FirstFailure (answers queues visit) j s f ∧
      (few.FailsWith e t.wait ∧ many.FailsWith e t.wait ↔
        (queues ++ healthy).length ≤ 30 ∨
          (f = e ∧ longestWait ((answers queues visit).take (j + 1)) = t.wait)) ∧
      ((∃ g ms, few.FailsWith g ms ∧ many.FailsWith g ms) ↔
        (queues ++ healthy).length ≤ 30 ∨ 30 < queues.length ∨
          (f = e ∧ longestWait ((answers queues visit).take (j + 1)) = t.wait)) ∧
      (30 < (queues ++ healthy).length →
        many.FailsWith f (longestWait ((answers queues visit).take (j + 1)))) := by
  intro few many
  obtain ⟨k, t, e, he⟩ := exists_earliestFailure (exists_fails_of_not_allRead hfail)
  obtain ⟨j, s, f, hf⟩ := exists_firstFailure (exists_fails_of_not_allRead hfail)
  have hok : ∀ r ∈ healthy.mapIdx (fun i q => visit.read (queues.length + i) q.key),
      ¬r.Fails := by
    intro r hr
    obtain ⟨i, hi, rfl⟩ := List.mem_mapIdx.mp hr
    exact (Timed.not_fails_iff _).mpr (hhealthy i _ (List.getElem?_eq_getElem hi))
  have he' : EarliestFailure (answers (queues ++ healthy) visit) k t e := by
    rw [answers_append]
    exact he.append hok
  have hf' : FirstFailure (answers (queues ++ healthy) visit) j s f := by
    rw [answers_append]
    exact hf.append _
  have htake : (answers (queues ++ healthy) visit).take (j + 1) =
      (answers queues visit).take (j + 1) := by
    rw [answers_append]
    exact List.take_append_of_le_length (List.getElem?_eq_some_iff.mp hf.place).1
  have hmanyLarge : 30 < (queues ++ healthy).length →
      many.FailsWith f (longestWait ((answers queues visit).take (j + 1))) := by
    intro hlen
    rw [← htake]
    exact failsWith_of_many hlen hf' clock
  refine ⟨k, t, e, j, s, f, he, hf, ?_, ?_, hmanyLarge⟩
  -- Either length decides which failure its join reports.
  · by_cases hlen : (queues ++ healthy).length ≤ 30
    · have hfew : queues.length ≤ 30 := by
        rw [List.length_append] at hlen
        omega
      have hboth := And.intro (failsWith_of_few hfew he clock) (failsWith_of_few hlen he' clock)
      exact iff_of_true hboth (Or.inl hlen)
    · rw [or_iff_right hlen, (hmanyLarge (by omega)).iff]
      constructor
      · exact And.right
      · rintro ⟨rfl, hwait⟩
        refine ⟨?_, rfl, hwait⟩
        by_cases hfew : queues.length ≤ 30
        · exact failsWith_of_few hfew he clock
        · rw [← hwait]
          exact failsWith_of_many (by omega) hf clock
  · by_cases hlen : (queues ++ healthy).length ≤ 30
    · have hfew : queues.length ≤ 30 := by
        rw [List.length_append] at hlen
        omega
      have hboth := And.intro (failsWith_of_few hfew he clock) (failsWith_of_few hlen he' clock)
      exact iff_of_true ⟨e, t.wait, hboth⟩ (Or.inl hlen)
    · rw [or_iff_right hlen]
      by_cases hfew : queues.length ≤ 30
      · rw [(failsWith_of_few hfew he clock).alike_iff (hmanyLarge (by omega)),
          or_iff_right (by omega), eq_comm, eq_comm (a := t.wait)]
      · have hboth := And.intro (failsWith_of_many (by omega) hf clock) (hmanyLarge (by omega))
        exact iff_of_true ⟨f, _, hboth⟩ (Or.inl (by omega))

/-- Two queues that fail, the second one earlier. -/
def crossedQueues : List Queue := [⟨"a", "A"⟩, ⟨"b", "B"⟩]

def crossedVisit : Visit where
  connect := ⟨none, .ok ()⟩
  read i _ :=
    match i with
    | 0 => ⟨some 70, .error (.read "a" "late")⟩
    | 1 => ⟨some 20, .error (.read "b" "early")⟩
    | _ => ⟨none, .ok 0⟩
  disconnect := none

def paddingQueues (count : Nat) : List Queue :=
  (List.range count).map fun i => ⟨"q" ++ Numeral.text i, "M" ++ Numeral.text i⟩

/-- Alone, the two queues end the wait with the early failure; beside twenty-nine healthy ones, with
the late one. -/
theorem crossed_failures_reported_apart :
    (∀ i ≤ 28, crossedVisit.read (2 + i) ("q" ++ Numeral.text i) = ⟨none, .ok 0⟩) ∧
    (readAll crossedQueues (answers crossedQueues crossedVisit) Instant.ofMilliseconds).FailsWith
      (.read "b" "early") 20 ∧
    (readAll (crossedQueues ++ paddingQueues 29)
      (answers (crossedQueues ++ paddingQueues 29) crossedVisit)
      Instant.ofMilliseconds).FailsWith (.read "a" "late") 70 := by
  refine ⟨?_, ⟨rfl, rfl⟩, rfl, rfl⟩
  intro i _
  rw [Nat.add_comm]
  rfl

/-- Both hypotheses hold of the two crossed failures and twenty-nine queues beside them. -/
theorem failure_beside_twenty_nine_queues :
    ¬AllRead crossedQueues crossedVisit ∧
    (∀ i q, (paddingQueues 29)[i]? = some q →
      ∃ n, (crossedVisit.read (crossedQueues.length + i) q.key).outcome = .ok n) ∧
    let all := crossedQueues ++ paddingQueues 29
    let few := readAll crossedQueues (answers crossedQueues crossedVisit) Instant.ofMilliseconds
    let many := readAll all (answers all crossedVisit) Instant.ofMilliseconds
    ∃ k t e j s f, EarliestFailure (answers crossedQueues crossedVisit) k t e ∧
      FirstFailure (answers crossedQueues crossedVisit) j s f ∧
      (few.FailsWith e t.wait ∧ many.FailsWith e t.wait ↔
        all.length ≤ 30 ∨
          (f = e ∧ longestWait ((answers crossedQueues crossedVisit).take (j + 1)) = t.wait)) ∧
      ((∃ g ms, few.FailsWith g ms ∧ many.FailsWith g ms) ↔
        all.length ≤ 30 ∨ 30 < crossedQueues.length ∨
          (f = e ∧ longestWait ((answers crossedQueues crossedVisit).take (j + 1)) = t.wait)) ∧
      (30 < all.length →
        many.FailsWith f (longestWait ((answers crossedQueues crossedVisit).take (j + 1)))) := by
  have hfail : ¬AllRead crossedQueues crossedVisit := by
    intro h
    obtain ⟨n, hn⟩ := h 0 _ rfl
    cases hn
  have hhealthy : ∀ i q, (paddingQueues 29)[i]? = some q →
      ∃ n, (crossedVisit.read (crossedQueues.length + i) q.key).outcome = .ok n := by
    intro i q _
    rw [Nat.add_comm]
    exact ⟨0, rfl⟩
  exact ⟨hfail, hhealthy, failure_beside_healthy_queues crossedQueues (paddingQueues 29)
    crossedVisit Instant.ofMilliseconds hfail hhealthy⟩

end Backlog.Invocation
