import Backlog.Proofs.Lifecycle
import Backlog.Proofs.Publishing

/-!
# Runs against the limits of a request

A batch is refused for the first limit that it breaks: that it holds something, that it does not
hold too much, and that no datum has too many dimensions, of which the first with too many is named.
The batch of an invocation has one datum with one dimension for each queue, so a dry run over a
store that answers comes down to the number of queues; where that is too small or too large, the
fault comes after all reads, and the store is disconnected from all the same.
-/

namespace Backlog

namespace BatchFault

/-- The texts after a count are one text. -/
lemma append_ending {a b c ending : String} (h : a ++ (b ++ c) = ending) (start : String) :
    start ++ a ++ b ++ c = start ++ ending := by
  rw [← h, String.append_assoc, String.append_assoc]

lemma message_tooManyData (count : Nat) : (tooManyData count).message =
    "metric batch has " ++ Numeral.text count ++ " data points (limit: 1000)" := by
  have hlimit : " data points (limit: " ++ (Numeral.text Batch.maxData ++ ")") =
      " data points (limit: 1000)" := by decide +kernel
  exact append_ending hlimit ("metric batch has " ++ Numeral.text count)

lemma message_tooManyDimensions (metric : String) (count : Nat) :
    (tooManyDimensions metric count).message =
      "metric '" ++ metric ++ "' has " ++ Numeral.text count ++ " dimensions (limit: 30)" := by
  have hlimit : " dimensions (limit: " ++ (Numeral.text Batch.maxDimensions ++ ")") =
      " dimensions (limit: 30)" := by decide +kernel
  exact append_ending hlimit ("metric '" ++ metric ++ "' has " ++ Numeral.text count)

end BatchFault

namespace Batch

/-- The first limit that a batch breaks. -/
inductive Breaks (b : Batch) : BatchFault → Prop where
  | empty (h : b.data.length = 0) : Breaks b .empty
  | data (h : 1000 < b.data.length) : Breaks b (.tooManyData b.data.length)
  | dimensions {before after : List Datum} {d : Datum} (hfew : b.data.length ≤ 1000)
      (hdata : b.data = before ++ d :: after) (h : 30 < d.dimensions.length)
      (hbefore : ∀ e ∈ before, e.dimensions.length ≤ 30) :
      Breaks b (.tooManyDimensions d.metric d.dimensions.length)

theorem fault?_eq_some_iff {b : Batch} {fault : BatchFault} :
    b.fault? = some fault ↔ b.Breaks fault := by
  unfold fault?
  constructor
  · intro h
    split_ifs at h with hempty hmany
    · obtain rfl := Option.some.inj h
      exact .empty hempty
    · obtain rfl := Option.some.inj h
      exact .data hmany
    · cases hfind : b.data.find? fun d => decide (maxDimensions < d.dimensions.length) with
      | none =>
        rw [hfind] at h
        cases h
      | some d =>
        rw [hfind] at h
        obtain rfl := Option.some.inj h
        obtain ⟨hd, before, after, hdata, hbefore⟩ := List.find?_eq_some_iff_append.mp hfind
        refine .dimensions (Nat.not_lt.mp hmany) hdata (of_decide_eq_true hd) ?_
        intro e he
        have hnot : ¬maxDimensions < e.dimensions.length := by simpa using hbefore e he
        exact Nat.not_lt.mp hnot
  · rintro (hempty | hmany | @⟨before, after, d, hfew, hdata, hd, hbefore⟩)
    · rw [if_pos hempty]
    · have hne : b.data.length ≠ 0 := by omega
      have hmost : maxData < b.data.length := hmany
      rw [if_neg hne, if_pos hmost]
    · have hfind : (b.data.find? fun d => decide (maxDimensions < d.dimensions.length)) =
          some d := by
        refine List.find?_eq_some_iff_append.mpr ⟨decide_eq_true hd, before, after, hdata, ?_⟩
        intro e he
        have hnot : ¬maxDimensions < e.dimensions.length := Nat.not_lt.mpr (hbefore e he)
        simpa using hnot
      have hne : b.data.length ≠ 0 := by simp [hdata]
      have hmost : ¬maxData < b.data.length := Nat.not_lt.mpr hfew
      rw [if_neg hne, if_neg hmost, hfind]

/-- A batch of readings breaks none but the limits on their number. -/
lemma fault?_ofReadings (metricNamespace : String) (rs : List Reading) (now : Instant) :
    (ofReadings metricNamespace rs now).fault? =
      if rs.length = 0 then some .empty
      else if 1000 < rs.length then some (.tooManyData rs.length) else none := by
  have hlength : (ofReadings metricNamespace rs now).data.length = rs.length := List.length_map _
  have hfind : ((ofReadings metricNamespace rs now).data.find? fun d =>
      decide (maxDimensions < d.dimensions.length)) = none := by
    rw [List.find?_eq_none]
    intro d hd
    obtain ⟨r, _, rfl⟩ := List.mem_map.mp hd
    have hone : ¬maxDimensions < (Datum.ofReading r now).dimensions.length := by
      simp [Datum.ofReading, maxDimensions]
    simpa using hone
  rw [fault?, hlength, hfind]
  rfl

end Batch

namespace Invocation

open Join Publisher

/-- A dry run that connects and reads the length of every queue. -/
structure ReadsAll (c : Config) (i : Invocation) : Prop where
  /-- It connects, reads all, tries to publish one batch, and disconnects. -/
  actions : ∃ batch, i.journal.actions = .connect c.store.endpoint ::
    ((c.queues.map fun q => .read q.key) ++ [.publish batch, .disconnect])
  succeeds : (∃ e, i.result = .ok e) ↔ 1 ≤ c.queues.length ∧ c.queues.length ≤ 1000
  empty : c.queues.length = 0 → i.result = .error (.publish "metric batch is empty")
  crowded : 1000 < c.queues.length → i.result = .error (.publish
    ("metric batch has " ++ Numeral.text c.queues.length ++ " data points (limit: 1000)"))

/-- What a dry run answers about a batch of readings depends on their number. -/
lemma outcome_dryRun_ofReadings (metricNamespace : String) (rs : List Reading) (now : Instant) :
    (dryRun (.ofReadings metricNamespace rs now)).outcome =
      if rs.length = 0 then .error (.publish BatchFault.empty.message)
      else if 1000 < rs.length then .error (.publish (BatchFault.tooManyData rs.length).message)
      else .ok () := by
  rw [dryRun, Batch.fault?_ofReadings]
  split_ifs <;> rfl

lemma readsAll_of_allRead {c : Config} {store : Store} (clock : Clock)
    (h : (store c).connect.outcome = .ok ()) (hread : AllRead c.queues (store c)) :
    ReadsAll c (run c store clock dryRun) := by
  have hjoined : reading c (store c) clock = _ := readAll_of_allRead hread _
  have hlength := readings_length hread fun ms => clock ((store c).connect.wait + ms)
  generalize values _ = rs at hjoined hlength
  have hreadings : (reading c (store c) clock).result = _ := congrArg Joined.result hjoined
  obtain ⟨hactions, hresult⟩ := run_of_readings dryRun h hreadings
  rw [batchOf, outcome_dryRun_ofReadings, hlength] at hresult
  constructor
  · rw [hactions, congrArg Joined.started hjoined, readActions, List.take_length]
    exact ⟨_, rfl⟩
  · rw [hresult]
    split_ifs with hempty hmany
    · simp [Except.map, hempty]
    · simp [Except.map, hmany]
    · simp only [Except.map, Except.ok.injEq, exists_eq', true_iff]
      omega
  · intro hempty
    rw [hresult, if_pos hempty]
    rfl
  · intro hmany
    rw [hresult, if_neg (by omega), if_pos hmany, BatchFault.message_tooManyData]
    rfl

/-- A batch is refused if and only if it breaks a limit, and for the first one that it breaks. So a
dry run that connects and reads every length, whatever the configuration, succeeds if and only if
there are from one to a thousand queues, and it has always read all of them and disconnects. -/
theorem refused_for_first_limit :
    (∀ b : Batch, (b.fault? = none ↔ b.WithinLimits) ∧
      ∀ fault, b.fault? = some fault ↔ b.Breaks fault) ∧
    (∀ b : Batch, ∀ fault, b.fault? = some fault →
      (dryRun b).outcome = .error (.publish fault.message)) ∧
    (∀ count, (BatchFault.tooManyData count).message =
      "metric batch has " ++ Numeral.text count ++ " data points (limit: 1000)") ∧
    (∀ metric count, (BatchFault.tooManyDimensions metric count).message =
      "metric '" ++ metric ++ "' has " ++ Numeral.text count ++ " dimensions (limit: 30)") ∧
    ∀ (c : Config) (store : Store) (clock : Clock), (store c).connect.outcome = .ok () →
      AllRead c.queues (store c) → ReadsAll c (run c store clock dryRun) := by
  refine ⟨fun b => ⟨Batch.fault?_eq_none_iff, fun _ => Batch.fault?_eq_some_iff⟩, ?_,
    BatchFault.message_tooManyData, BatchFault.message_tooManyDimensions,
    fun _ _ clock h hread => readsAll_of_allRead clock h hread⟩
  intro b fault h
  rw [dryRun_of_fault h]

/-- The same queue a thousand and one times. -/
def crowdedConfig : Config where
  store := ⟨"localhost", StoreConfig.defaultPort, none, StoreConfig.defaultDatabase, true⟩
  metricNamespace := Config.defaultNamespace
  queues := List.replicate 1001 .urls

def readyStore : Store := fun _ =>
  { connect := ⟨some 5, .ok ()⟩, read := fun i _ => ⟨some i, .ok 7⟩, disconnect := none }

theorem crowded_dry_run_refused :
    let i := run crowdedConfig readyStore Instant.ofMilliseconds dryRun
    i.result = .error (.publish "metric batch has 1001 data points (limit: 1000)") ∧
      ∃ batch, i.journal.actions = .connect "localhost:6379" ::
        (List.replicate 1001 (.read "urls") ++ [.publish batch, .disconnect]) := by
  intro i
  have hlength : crowdedConfig.queues.length = 1001 := List.length_replicate
  have hread : AllRead crowdedConfig.queues (readyStore crowdedConfig) := fun _ _ _ => ⟨7, rfl⟩
  have hreads : ReadsAll crowdedConfig i :=
    refused_for_first_limit.2.2.2.2 crowdedConfig readyStore _ rfl hread
  constructor
  · rw [hreads.crowded (by omega), hlength]
    rfl
  · have hendpoint : crowdedConfig.store.endpoint = "localhost:6379" := by decide +kernel
    have hmap : (crowdedConfig.queues.map fun q => Action.read q.key) =
        List.replicate 1001 (.read "urls") := List.map_replicate
    obtain ⟨batch, hactions⟩ := hreads.actions
    exact ⟨batch, by rw [hactions, hendpoint, hmap]⟩

end Invocation

end Backlog
