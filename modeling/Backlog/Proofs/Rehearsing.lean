import Backlog.Proofs.Lifecycle
import Backlog.Rehearsal
import Mathlib.Data.List.Induction

/-!
# Rehearsals against a reference

What invocations against the stand-ins do is told from the list of instructions alone: whether
connecting is refused, which queue of the list is the first that fails, and how long the queues are.
Every invocation answers alike up to the times in it, whatever came before it, and so each tally is
the number of invocations times what one of them counts.
-/

namespace Backlog

/-! ### Without the times -/

/-- The time that stands in the place of all others. -/
def Instant.undated : Instant := Instant.ofMilliseconds 0

def Reading.undated (r : Reading) : Reading := { r with observed := .undated }

def Envelope.undated (e : Envelope) : Envelope :=
  { e with summary := { e.summary with readings := e.summary.readings.map Reading.undated } }

def Batch.undated (b : Batch) : Batch :=
  { b with data := b.data.map fun d => { d with timestamp := .undated } }

lemma Envelope.undated_success (rs : List Reading) :
    (Envelope.ofSummary (.success rs)).undated =
      .ofSummary (.success (rs.map Reading.undated)) := by
  have hjson : (Summary.success (rs.map Reading.undated)).toJson = (Summary.success rs).toJson := by
    simp only [Summary.success, Summary.toJson, List.map_map]
    rfl
  rw [ofSummary, ofSummary, hjson]
  rfl

lemma Batch.undated_ofReadings (metricNamespace : String) (rs : List Reading) (now : Instant) :
    (ofReadings metricNamespace rs now).undated =
      ofReadings metricNamespace (rs.map Reading.undated) .undated := by
  simp only [undated, ofReadings, List.map_map]
  rfl

namespace Rehearsal

/-! ### The reference -/

/-- What an instruction says of a key. -/
def Instruction.about? (key : String) : Instruction → Option (Except String UInt64)
  | .length key' value => if key' = key then some (.ok value) else none
  | .readError key' reason => if key' = key then some (.error reason) else none
  | .refuse _ => none

def Instruction.refusal? : Instruction → Option String
  | .refuse reason => some reason
  | _ => none

section Reference

variable (is : List Instruction)

/-- The last refusal. -/
def refusal? : Option String := (is.filterMap Instruction.refusal?).getLast?

/-- What is read for a key: what the last instruction about it says, or zero. -/
def scripted (key : String) : Except String UInt64 :=
  (is.filterMap (Instruction.about? key)).getLast?.getD (.ok 0)

/-- The fault of reading a queue. -/
def readFault? (q : Queue) : Option Fault :=
  match scripted is q.key with
  | .ok _ => none
  | .error reason => some (.read q.key reason)

/-- The place of the first queue that fails. -/
def failing? (queues : List Queue) : Option Nat :=
  queues.findIdx? fun q => (readFault? is q).isSome

/-- The reading of a queue that does not fail, without its time. -/
def expectedReading (q : Queue) : Reading :=
  ⟨q, (scripted is q.key).toOption.getD 0, .undated⟩

def expectedBatch (c : Config) : Batch :=
  .ofReadings c.metricNamespace (c.queues.map (expectedReading is)) .undated

/-- The answer of every invocation: a refused connection comes before a failing queue, the first of
the list, and that comes before a failing publisher. -/
def expectedResult (p : StandinPublisher) (c : Config) : Except Fault Envelope :=
  match refusal? is with
  | some reason => .error (.connection c.store.endpoint reason)
  | none =>
    match c.queues.findSome? (readFault? is) with
    | some fault => .error fault
    | none =>
      match p with
      | .failing reason => .error (.publish reason)
      | .accepting => .ok (.ofSummary (.success (c.queues.map (expectedReading is))))

/-- How often one invocation disconnects. -/
def disconnects : Nat := if refusal? is = none then 1 else 0

/-- How many queues one invocation reads: up to the first that fails, or all. -/
def reads (queues : List Queue) : Nat :=
  if refusal? is = none then
    match failing? is queues with
    | some i => i + 1
    | none => queues.length
  else 0

/-- How many batches one invocation tries to publish. -/
def attempts (queues : List Queue) : Nat :=
  if refusal? is = none ∧ failing? is queues = none then 1 else 0

end Reference

/-! ### The store as instructed -/

section Instructed

variable {is : List Instruction}

lemma ofInstructions_concat (is : List Instruction) (i : Instruction) :
    StandinStore.ofInstructions (is ++ [i]) = (StandinStore.ofInstructions is).instruct i := by
  rw [StandinStore.ofInstructions, List.foldl_append]
  rfl

/-- An instruction about a key hides what was said of it before. -/
lemma lookup_instruct (s : StandinStore) (i : Instruction) (key : String) :
    (s.instruct i).replies.lookup key = (i.about? key).or (s.replies.lookup key) := by
  have hcons (key' : String) (told : Except String UInt64) :
      ((key', told) :: s.replies).lookup key =
        (if key' = key then some told else none).or (s.replies.lookup key) := by
    rw [List.lookup_cons]
    by_cases hkey : key' = key
    · simp [hkey]
    · have hne : (key == key') = false := beq_eq_false_iff_ne.mpr (Ne.symm hkey)
      simp [hkey, hne]
  cases i with
  | length key' value => exact hcons key' (.ok value)
  | readError key' reason => exact hcons key' (.error reason)
  | refuse reason => rfl

lemma lookup_ofInstructions (is : List Instruction) (key : String) :
    (StandinStore.ofInstructions is).replies.lookup key =
      (is.filterMap (Instruction.about? key)).getLast? := by
  induction is using List.reverseRecOn with
  | nil => rfl
  | append_singleton is i ih =>
    rw [ofInstructions_concat, lookup_instruct, ih, List.filterMap_append, List.getLast?_append]
    cases h : i.about? key <;> simp [h]

lemma refusal_ofInstructions (is : List Instruction) :
    (StandinStore.ofInstructions is).refusal = refusal? is := by
  induction is using List.reverseRecOn with
  | nil => rfl
  | append_singleton is i ih =>
    rw [ofInstructions_concat, refusal?, List.filterMap_append]
    cases i <;> simp [StandinStore.instruct, Instruction.refusal?, ih, refusal?]

lemma reply_ofInstructions (is : List Instruction) (key : String) :
    (StandinStore.ofInstructions is).reply key = (scripted is key).mapError (.read key) := by
  rw [StandinStore.reply, lookup_ofInstructions, scripted]
  cases (is.filterMap (Instruction.about? key)).getLast? with
  | none => rfl
  | some told => cases told <;> rfl

lemma readFault?_eq_some_iff {q : Queue} {fault : Fault} :
    readFault? is q = some fault ↔ (StandinStore.ofInstructions is).reply q.key = .error fault := by
  rw [reply_ofInstructions, readFault?]
  cases scripted is q.key <;> simp [Except.mapError]

lemma reply_of_readFault?_eq_none {q : Queue} (h : readFault? is q = none) :
    (StandinStore.ofInstructions is).reply q.key = .ok (expectedReading is q).length := by
  rw [reply_ofInstructions, expectedReading]
  rw [readFault?] at h
  cases hscript : scripted is q.key with
  | ok n => rfl
  | error reason =>
    rw [hscript] at h
    cases h

end Instructed

/-! ### The reads of one invocation -/

open Invocation Join

section Reads

variable {is : List Instruction} {c : Config}

/-- The store that the instructions make. -/
abbrev instructed (is : List Instruction) : Store := (StandinStore.ofInstructions is).store

lemma instructed_getElem? (is : List Instruction) (c : Config) (i : Nat) :
    (answers c.queues (instructed is c))[i]? = c.queues[i]?.map fun q =>
      ⟨none, (StandinStore.ofInstructions is).reply q.key⟩ := answers_getElem? _ _ i

/-- All answers of a stand-in come at once. -/
lemma instructed_moment {t : Timed (Except Fault UInt64)} {i : Nat}
    (h : (answers c.queues (instructed is c))[i]? = some t) :
    t.moment = 0 := by
  rw [instructed_getElem?, Option.map_eq_some_iff] at h
  obtain ⟨q, _, rfl⟩ := h
  rfl

/-- A queue that fails behind queues that do not. -/
structure FailsFirst (is : List Instruction) (queues : List Queue) (k : Nat) (fault : Fault) :
    Prop where
  here : ∃ q, queues[k]? = some q ∧ readFault? is q = some fault
  before : ∀ j q, j < k → queues[j]? = some q → readFault? is q = none

lemma FailsFirst.firstFailure {k : Nat} {fault : Fault} (h : FailsFirst is c.queues k fault) :
    ∃ t, FirstFailure (answers c.queues (instructed is c)) k t fault := by
  obtain ⟨q, hq, hfault⟩ := h.here
  refine ⟨⟨none, (StandinStore.ofInstructions is).reply q.key⟩, ?_, ?_, ?_⟩
  · rw [instructed_getElem?, hq]
    rfl
  · exact readFault?_eq_some_iff.mp hfault
  · rintro j s hs ⟨e, he⟩
    rw [instructed_getElem?, Option.map_eq_some_iff] at hs
    obtain ⟨q', hq', rfl⟩ := hs
    by_contra hlt
    have hnone := h.before j q' (Nat.lt_of_not_le hlt) hq'
    rw [readFault?_eq_some_iff.mpr he] at hnone
    cases hnone

/-- A failing queue ends the reads at its place, whichever way they are joined. -/
lemma FailsFirst.reading_eq {k : Nat} {fault : Fault} (h : FailsFirst is c.queues k fault)
    (clock : Clock) :
    (reading c (instructed is c) clock).started = k + 1 ∧
      (reading c (instructed is c) clock).result = .error fault := by
  obtain ⟨t, ht⟩ := h.firstFailure
  have hmoment := instructed_moment ht.place
  by_cases hlen : c.queues.length ≤ 30
  · have hearliest : EarliestFailure (answers c.queues (instructed is c))
        k t fault := by
      -- No moment is earlier than another, so the place alone decides.
      refine ⟨ht.place, ht.error, fun j s hs hfails => Or.inr ⟨?_, ht.least j s hs hfails⟩⟩
      rw [hmoment, instructed_moment hs]
    rw [reading, readAll_of_few hlen hearliest, if_pos hmoment]
    exact ⟨rfl, rfl⟩
  · have hlast : lastMoment ((answers c.queues
        (instructed is c)).take (k + 1)) = 0 := by
      rw [← Nat.le_zero, lastMoment_le_iff]
      intro s hs
      obtain ⟨j, _, hj⟩ := mem_take_place hs
      exact Nat.le_of_eq (instructed_moment hj)
    rw [reading, readAll_of_many (Nat.lt_of_not_le hlen) ht, if_pos hlast]
    exact ⟨rfl, rfl⟩

lemma allRead_of_no_fault (h : ∀ q ∈ c.queues, readFault? is q = none) :
    AllRead c.queues (instructed is c) := by
  intro i q hq
  exact ⟨_, reply_of_readFault?_eq_none (h q (List.mem_of_getElem? hq))⟩

lemma undated_readings (h : ∀ q ∈ c.queues, readFault? is q = none) (clock : Clock) :
    (values (measurements c.queues (instructed is c) clock)).map Reading.undated =
      c.queues.map (expectedReading is) := by
  have hall := allRead_of_no_fault h
  apply List.ext_getElem?
  intro i
  rw [List.getElem?_map, List.getElem?_map]
  cases hq : c.queues[i]? with
  | none =>
    rw [readings_getElem?_none hall clock hq]
    rfl
  | some q =>
    obtain ⟨n, hn, hr⟩ := readings_getElem? hall clock hq
    have hlength := reply_of_readFault?_eq_none (h q (List.mem_of_getElem? hq))
    have hsame : n = (expectedReading is q).length := Except.ok.inj (hn.symm.trans hlength)
    rw [hr, hsame]
    rfl

/-- Where no queue fails, all are read, as they were told. -/
lemma reading_of_no_fault (h : ∀ q ∈ c.queues, readFault? is q = none) (clock : Clock) :
    ∃ rs, rs.map Reading.undated = c.queues.map (expectedReading is) ∧
      (reading c (instructed is c) clock).started = c.queues.length ∧
      (reading c (instructed is c) clock).result = .ok rs := by
  have hjoined : reading c (instructed is c) clock = _ :=
    readAll_of_allRead (allRead_of_no_fault h) _
  exact ⟨_, undated_readings h _, congrArg Joined.started hjoined, congrArg Joined.result hjoined⟩

/-- Either a queue fails first or none fails. -/
lemma failsFirst_or_none (is : List Instruction) (queues : List Queue) :
    (∃ k fault, failing? is queues = some k ∧ queues.findSome? (readFault? is) = some fault ∧
      FailsFirst is queues k fault) ∨
    (failing? is queues = none ∧ queues.findSome? (readFault? is) = none ∧
      ∀ q ∈ queues, readFault? is q = none) := by
  cases hfind : queues.findSome? (readFault? is) with
  | none =>
    have hnone := List.findSome?_eq_none_iff.mp hfind
    refine Or.inr ⟨?_, rfl, hnone⟩
    rw [failing?, List.findIdx?_eq_none_iff]
    intro q hq
    rw [hnone q hq]
    rfl
  | some fault =>
    obtain ⟨before, q, after, rfl, hfault, hbefore⟩ := List.findSome?_eq_some_iff.mp hfind
    refine Or.inl ⟨before.length, fault, ?_, rfl, ⟨q, by simp, hfault⟩, ?_⟩
    · rw [failing?, List.findIdx?_append, List.findIdx?_cons, hfault]
      have hnone : before.findIdx? (fun q => (readFault? is q).isSome) = none := by
        rw [List.findIdx?_eq_none_iff]
        intro q' hq'
        rw [hbefore q' hq']
        rfl
      simp [hnone]
    · intro j q' hj hq'
      rw [List.getElem?_append_left hj] at hq'
      exact hbefore q' (List.mem_of_getElem? hq')

end Reads

/-! ### Tallies -/

lemma count_readActions (queues : List Queue) (t : StoreTally) :
    (queues.map fun q => Action.read q.key).foldl StoreTally.count t =
      { t with reads := t.reads + queues.length } := by
  induction queues generalizing t with
  | nil => rfl
  | cons q rest ih =>
    rw [List.map_cons, List.foldl_cons, ih, List.length_cons]
    simp only [StoreTally.count, Nat.add_assoc, Nat.add_comm 1]

/-- What one invocation answers and counts. -/
structure Rehearsed (is : List Instruction) (p : StandinPublisher) (c : Config) (i : Invocation) :
    Prop where
  result : i.result.map Envelope.undated = expectedResult is p c
  tally : ∀ t : StoreTally,
    t.add i = ⟨t.connects + 1, t.reads + reads is c.queues, t.disconnects + disconnects is⟩
  batches : i.batches.map Batch.undated =
    List.replicate (attempts is c.queues) (expectedBatch is c)

section Invocations

variable {is : List Instruction} {p : StandinPublisher} {c : Config} {clock : Clock}

lemma connect_of_refusal {reason : String} (h : refusal? is = some reason) :
    (instructed is c).connect.outcome = .error (.connection c.store.endpoint reason) := by
  simp only [StandinStore.store, refusal_ofInstructions, h]

lemma connect_of_no_refusal (h : refusal? is = none) :
    (instructed is c).connect.outcome = .ok () := by
  simp only [StandinStore.store, refusal_ofInstructions, h]

lemma rehearsed_of_refusal {reason : String} (h : refusal? is = some reason) :
    Rehearsed is p c (run c (instructed is) clock p.publisher) := by
  obtain ⟨hactions, hresult⟩ := run_of_refusal clock p.publisher (connect_of_refusal (c := c) h)
  constructor
  · simp only [hresult, expectedResult, h]
    rfl
  · intro t
    rw [StoreTally.add, hactions]
    simp [StoreTally.count, reads, disconnects, h]
  · rw [Invocation.batches, hactions]
    simp [Action.batch?, attempts, h]

lemma rehearsed_of_failing {k : Nat} {fault : Fault} (h : refusal? is = none)
    (hfirst : FailsFirst is c.queues k fault) (hplace : failing? is c.queues = some k)
    (hfault : c.queues.findSome? (readFault? is) = some fault) :
    Rehearsed is p c (run c (instructed is) clock p.publisher) := by
  obtain ⟨hstarted, hread⟩ := hfirst.reading_eq clock
  obtain ⟨hactions, hresult⟩ := run_of_unread p.publisher (connect_of_no_refusal h) hread
  have hlength : (c.queues.take (k + 1)).length = k + 1 := by
    obtain ⟨q, hq, _⟩ := hfirst.here
    rw [List.length_take]
    exact Nat.min_eq_left (List.getElem?_eq_some_iff.mp hq).1
  rw [hstarted] at hactions
  constructor
  · simp only [hresult, expectedResult, h, hfault]
    rfl
  · intro t
    rw [StoreTally.add, hactions, List.foldl_cons, List.foldl_append, readActions,
      count_readActions, hlength, reads, disconnects, h, hplace]
    rfl
  · rw [Invocation.batches, hactions, List.filterMap_cons, List.filterMap_append,
      batch?_readActions, attempts, hplace]
    simp [Action.batch?]

lemma rehearsed_of_readings (h : refusal? is = none)
    (hnone : ∀ q ∈ c.queues, readFault? is q = none) (hplace : failing? is c.queues = none)
    (hfault : c.queues.findSome? (readFault? is) = none) :
    Rehearsed is p c (run c (instructed is) clock p.publisher) := by
  obtain ⟨rs, hrs, hstarted, hread⟩ := reading_of_no_fault hnone clock
  obtain ⟨hactions, hresult⟩ := run_of_readings p.publisher (connect_of_no_refusal h) hread
  have hbatch : (batchOf c (instructed is c) clock rs).undated = expectedBatch is c := by
    rw [batchOf, Batch.undated_ofReadings, hrs, expectedBatch]
  rw [hstarted] at hactions
  constructor
  · simp only [hresult, expectedResult, h, hfault]
    cases p with
    | failing reason => rfl
    | accepting =>
      change Except.ok (Envelope.ofSummary (.success rs)).undated = _
      rw [Envelope.undated_success, hrs]
  · intro t
    rw [StoreTally.add, hactions, List.foldl_cons, List.foldl_append, readActions,
      count_readActions, List.take_length, reads, disconnects, h, hplace]
    rfl
  · rw [Invocation.batches, hactions, List.filterMap_cons, List.filterMap_append,
      batch?_readActions, attempts, hplace, h]
    simp [Action.batch?, hbatch]

/-- Whatever the instructions are, an invocation goes as they say. -/
theorem rehearsed_run (is : List Instruction) (p : StandinPublisher) (c : Config) (clock : Clock) :
    Rehearsed is p c (run c (instructed is) clock p.publisher) := by
  cases h : refusal? is with
  | some reason => exact rehearsed_of_refusal h
  | none =>
    rcases failsFirst_or_none is c.queues with ⟨k, fault, hplace, hfault, hfirst⟩ | hnone
    · exact rehearsed_of_failing h hfirst hplace hfault
    · exact rehearsed_of_readings h hnone.2.2 hnone.1 hnone.2.1

end Invocations

/-! ### Sessions -/

/-- What a session has counted after so many invocations. -/
structure Session.Tallied (is : List Instruction) (p : StandinPublisher) (c : Config) (n : Nat)
    (s : Session) : Prop where
  store : s.store = .ofInstructions is
  publisher : s.publisher = p
  connects : s.storeTally.connects = n
  disconnects : s.storeTally.disconnects = n * disconnects is
  reads : s.storeTally.reads = n * reads is c.queues
  attempts : s.publisherTally.attempts = n * attempts is c.queues
  /-- A publisher that accepts keeps a batch for each attempt, the same but for the times. -/
  kept : p = .accepting → s.publisherTally.accepted.map Batch.undated =
    List.replicate (n * Rehearsal.attempts is c.queues) (expectedBatch is c)
  /-- One that fails keeps none. -/
  unkept : ∀ reason, p = .failing reason → s.publisherTally.accepted = []

namespace Session.Tallied

variable {is : List Instruction} {p : StandinPublisher} {c : Config} {n : Nat} {s : Session}

lemma start (is : List Instruction) (p : StandinPublisher) (c : Config) :
    (Session.start (.ofInstructions is) p).Tallied is p c 0 where
  store := rfl
  publisher := rfl
  connects := rfl
  disconnects := (Nat.zero_mul _).symm
  reads := (Nat.zero_mul _).symm
  attempts := (Nat.zero_mul _).symm
  kept _ := by
    rw [Nat.zero_mul]
    rfl
  unkept _ _ := rfl

lemma rehearsed (h : s.Tallied is p c n) (clock : Clock) :
    Rehearsed is p c (s.invoke c clock).1 := by
  rw [Session.invoke, h.store, h.publisher]
  exact rehearsed_run is p c clock

/-- One more invocation counts once more. -/
lemma invoke (h : s.Tallied is p c n) (clock : Clock) :
    (s.invoke c clock).2.Tallied is p c (n + 1) := by
  have hi := h.rehearsed clock
  have htally : (s.invoke c clock).2.storeTally = s.storeTally.add (s.invoke c clock).1 := rfl
  rw [hi.tally] at htally
  have hattempts := congrArg List.length hi.batches
  rw [List.length_map, List.length_replicate] at hattempts
  have hkept : (s.invoke c clock).2.publisherTally.accepted =
      s.publisherTally.accepted ++ p.accepted (s.invoke c clock).1.batches := by
    rw [← h.publisher]
    rfl
  constructor
  · exact h.store
  · exact h.publisher
  · rw [htally, h.connects]
  · rw [htally, h.disconnects, Nat.succ_mul]
  · rw [htally, h.reads, Nat.succ_mul]
  · rw [Nat.succ_mul, ← h.attempts, ← hattempts]
    rfl
  · rintro rfl
    rw [hkept, List.map_append, h.kept rfl, Nat.succ_mul, ← List.replicate_append_replicate,
      ← hi.batches]
    rfl
  · rintro reason rfl
    rw [hkept, h.unkept reason rfl]
    rfl

/-- Many more count as many times more, and each of them answers alike. -/
lemma invokeAll (h : s.Tallied is p c n) (clocks : List Clock) :
    (Session.invokeAll c s clocks).1.length = clocks.length ∧
      (∀ i ∈ (Session.invokeAll c s clocks).1, Rehearsed is p c i) ∧
      (Session.invokeAll c s clocks).2.Tallied is p c (n + clocks.length) := by
  -- The count so far is general, since each invocation begins where the last one ended.
  induction clocks generalizing s n with
  | nil => exact ⟨rfl, fun _ hi => absurd hi List.not_mem_nil, h⟩
  | cons clock clocks ih =>
    obtain ⟨hlength, hall, htallied⟩ := ih (h.invoke clock)
    refine ⟨congrArg Nat.succ hlength, ?_, ?_⟩
    · rintro i (_ | ⟨_, hi⟩)
      · exact h.rehearsed clock
      · exact hall i hi
    · rw [List.length_cons, Nat.add_comm clocks.length, ← Nat.add_assoc]
      exact htallied

end Session.Tallied

/-- Any number of invocations against stand-ins, instructed in any order, goes as the instructions
say: all answer alike, up to the times, and all together count each thing as many times as there
are invocations. -/
theorem invocations_match_reference (is : List Instruction) (p : StandinPublisher) (c : Config)
    (clocks : List Clock) :
    let rehearsal := Session.invokeAll c (.start (.ofInstructions is) p) clocks
    rehearsal.1.length = clocks.length ∧
      (∀ i ∈ rehearsal.1, i.result.map Envelope.undated = expectedResult is p c) ∧
      rehearsal.2.Tallied is p c clocks.length := by
  obtain ⟨hlength, hall, htallied⟩ := (Session.Tallied.start is p c).invokeAll clocks
  rw [Nat.zero_add] at htallied
  exact ⟨hlength, fun i hi => (hall i hi).result, htallied⟩

end Rehearsal

end Backlog
