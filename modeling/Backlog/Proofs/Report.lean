import Backlog.Proofs.Consistency
import Backlog.Proofs.JsonText
import Backlog.Proofs.Lifecycle
import Mathlib.Data.List.Nodup

/-!
# What is published and what is answered

Both are made from one list of readings, and the readings are of the queues of the configuration in
their order. In a configuration that was checked no two queues share a key or a metric; the member
names of an answer keep that apart, since they only add the same ending to each key, and none of
them is the name of the message.
-/

namespace Backlog

namespace Json

/-- The last member of a name, where `member?` takes the first. -/
def lastMember? (name : String) : Json → Option Json
  | .object members => members.reverse.lookup name
  | _ => none

lemma lookup_of_mem {members : List (String × Json)} (h : (members.map Prod.fst).Nodup)
    {name : String} {j : Json} (hmem : (name, j) ∈ members) : members.lookup name = some j := by
  obtain ⟨before, after, rfl⟩ := List.append_of_mem hmem
  apply List.lookup_eq_some_iff.mpr
  refine ⟨before, after, rfl, ?_⟩
  intro m hm
  rw [List.map_append, List.nodup_append] at h
  have hne := h.2.2 m.1 (List.mem_map_of_mem hm) name (by simp)
  simpa using Ne.symm hne

/-- Where no name is repeated, the first member of a name is the last. -/
theorem lastMember?_eq_member? {members : List (String × Json)}
    (h : (members.map Prod.fst).Nodup) (name : String) :
    (object members).lastMember? name = (object members).member? name := by
  have hreverse : (members.reverse.map Prod.fst).Nodup := by
    rw [List.map_reverse]
    exact List.nodup_reverse.mpr h
  rw [lastMember?, member?]
  cases hfirst : members.lookup name with
  | none =>
    rw [List.lookup_eq_none_iff] at hfirst ⊢
    intro m hm
    exact hfirst m (List.mem_reverse.mp hm)
  | some j =>
    obtain ⟨before, after, rfl, _⟩ := List.lookup_eq_some_iff.mp hfirst
    apply lookup_of_mem hreverse
    simp

end Json

namespace Summary

lemma memberName_injective : Function.Injective memberName := by
  intro key key' h
  exact (String.append_left_inj _).mp h

lemma memberName_ne_message (key : String) : memberName key ≠ "message" := by
  intro h
  have hlast := congrArg (fun name => name.toList.getLast?) h
  simp [memberName] at hlast

lemma member?_memberName (s : Summary) (key : String) :
    s.toJson.member? (memberName key) = (s.lengthOf? key).map fun n => .nat n.toNat := by
  have hmessage : (memberName key == "message") = false :=
    beq_eq_false_iff_ne.mpr (memberName_ne_message key)
  rw [toJson, Json.member?, List.lookup_cons, hmessage, lengthOf?]
  dsimp only
  induction s.readings with
  | nil => rfl
  | cons r rest ih =>
    rw [List.map_cons, List.lookup_cons, List.find?_cons]
    by_cases hkey : r.queue.key = key
    · simp [hkey]
    · have hname : (memberName key == memberName r.queue.key) = false := by
        rw [beq_eq_false_iff_ne]
        exact fun h => hkey (memberName_injective h).symm
      simp only [hname, hkey, decide_false]
      exact ih

lemma lengthOf?_of_mem {s : Summary} (h : (s.readings.map fun r => r.queue.key).Nodup)
    {r : Reading} (hr : r ∈ s.readings) : s.lengthOf? r.queue.key = some r.length := by
  cases hfind : s.readings.find? fun r' => decide (r'.queue.key = r.queue.key) with
  | none =>
    rw [List.find?_eq_none] at hfind
    exact absurd (decide_eq_true rfl) (hfind r hr)
  | some r' =>
    have hkey : r'.queue.key = r.queue.key := by simpa using List.find?_some hfind
    have hsame : r' = r := List.inj_on_of_nodup_map h (List.mem_of_find?_eq_some hfind) hr hkey
    rw [lengthOf?, hfind, hsame, Option.map_some]

lemma lengthOf?_eq_none {s : Summary} {key : String}
    (h : key ∉ s.readings.map fun r => r.queue.key) : s.lengthOf? key = none := by
  rw [lengthOf?, Option.map_eq_none_iff, List.find?_eq_none]
  intro r hr hkey
  apply h
  exact List.mem_map.mpr ⟨r, hr, by simpa using hkey⟩

/-- The body of an envelope is read back as the object of its summary, whatever the keys are. -/
theorem read_body (s : Summary) : Json.read (Envelope.ofSummary s).body = .ok s.toJson := by
  apply Json.read_text
  apply Json.Fits.object
  rw [List.forall_mem_cons]
  refine ⟨Json.Fits.string _ s.message, ?_⟩
  intro m hm
  obtain ⟨r, _, rfl⟩ := List.mem_map.mp hm
  exact Json.fits_nat _ r.length.toNat

end Summary

/-! ### Agreement -/

/-- The datum that reports a length. -/
def Queue.datum (t : Instant) (q : Queue) (n : UInt64) : Datum :=
  ⟨q.metric, [⟨"QueueName", q.key⟩], .ofNat n.toNat, t, .count⟩

/-- The members of an answer about some queues: the message and their lengths. -/
def answerMembers (queues : List Queue) (lengths : List UInt64) : List (String × Json) :=
  ("message", .string "Metrics updated") ::
    List.zipWith (fun q n => (q.key ++ "QueueLength", .nat n.toNat)) queues lengths

/-- A batch and an envelope that say the same: these lengths of the queues of a configuration. -/
structure Agreement (c : Config) (lengths : List UInt64) (batch : Batch) (e : Envelope) :
    Prop where
  metricNamespace : batch.metricNamespace = c.metricNamespace
  count : batch.data.length = c.queues.length
  /-- All data are stamped with one time. -/
  data : ∃ t, batch.data = List.zipWith (Queue.datum t) c.queues lengths
  metrics : (batch.data.map Datum.metric).Nodup
  dimensions : (batch.data.flatMap fun d => d.dimensions.map Dimension.value).Nodup
  measured : ∀ q n, (q, n) ∈ c.queues.zip lengths → e.summary.lengthOf? q.key = some n
  unmeasured : ∀ key, key ∉ c.queues.map Queue.key → e.summary.lengthOf? key = none
  body : Json.read e.body = .ok (.object (answerMembers c.queues lengths))
  members : (answerMembers c.queues lengths).length = c.queues.length + 1
  names : ((answerMembers c.queues lengths).map Prod.fst).Nodup
  /-- It does not matter which of several members of a name a reader of the body keeps. -/
  readers : ∀ j, Json.read e.body = .ok j → ∀ name, j.lastMember? name = j.member? name
  lookup : ∀ j, Json.read e.body = .ok j → ∀ key,
    j.member? (key ++ "QueueLength") = (e.summary.lengthOf? key).map fun n => .nat n.toNat

lemma zipWith_readings {α : Type} (f : Queue → UInt64 → α) (rs : List Reading) :
    List.zipWith f (rs.map Reading.queue) (rs.map Reading.length) =
      rs.map fun r => f r.queue r.length := by
  rw [List.zipWith_map, List.zipWith_self]

lemma toJson_success (rs : List Reading) : (Summary.success rs).toJson =
    .object (answerMembers (rs.map Reading.queue) (rs.map Reading.length)) := by
  rw [answerMembers, zipWith_readings]
  rfl

lemma answerMembers_names_nodup {rs : List Reading}
    (h : (rs.map fun r => r.queue.key).Nodup) :
    ((answerMembers (rs.map Reading.queue) (rs.map Reading.length)).map Prod.fst).Nodup := by
  rw [answerMembers, zipWith_readings, List.map_cons, List.map_map, List.nodup_cons]
  constructor
  · intro hmem
    obtain ⟨r, _, hr⟩ := List.mem_map.mp hmem
    exact Summary.memberName_ne_message r.queue.key hr
  · have hnames := h.map Summary.memberName_injective
    rwa [List.map_map] at hnames

/-- Readings of the queues of a consistent configuration are published and answered alike. -/
theorem agreement_of_readings {c : Config} (hc : c.Consistent) {rs : List Reading}
    (hqueues : rs.map Reading.queue = c.queues) (t : Instant) :
    Agreement c (rs.map Reading.length) (.ofReadings c.metricNamespace rs t)
      (.ofSummary (.success rs)) := by
  have hkeys : (rs.map fun r => r.queue.key).Nodup := by
    have h := hc.keys
    rwa [← hqueues, List.map_map] at h
  have hmetrics : (rs.map fun r => r.queue.metric).Nodup := by
    have h := hc.metrics
    rwa [← hqueues, List.map_map] at h
  have hbody := Summary.read_body (.success rs)
  rw [toJson_success] at hbody
  have hnames := answerMembers_names_nodup hkeys
  constructor
  · rfl
  · simp [Batch.ofReadings, ← hqueues]
  · refine ⟨t, ?_⟩
    rw [← hqueues, zipWith_readings]
    rfl
  · simpa [Batch.ofReadings, Datum.ofReading, Function.comp_def] using hmetrics
  · simpa [Batch.ofReadings, Datum.ofReading, List.flatMap_map, ← List.map_eq_flatMap] using hkeys
  · intro q n hmem
    rw [← hqueues, List.zip, zipWith_readings] at hmem
    obtain ⟨r, hr, heq⟩ := List.mem_map.mp hmem
    obtain ⟨rfl, rfl⟩ := Prod.mk.inj heq
    exact Summary.lengthOf?_of_mem hkeys hr
  · intro key hkey
    apply Summary.lengthOf?_eq_none
    rw [← hqueues, List.map_map] at hkey
    exact hkey
  · rw [← hqueues]
    exact hbody
  · simp [answerMembers, ← hqueues]
  · rw [← hqueues]
    exact hnames
  · intro j hj name
    rw [hbody] at hj
    obtain rfl := Except.ok.inj hj
    exact Json.lastMember?_eq_member? hnames name
  · intro j hj key
    rw [Summary.read_body] at hj
    obtain rfl := Except.ok.inj hj
    exact Summary.member?_memberName (.success rs) key

namespace Invocation

lemma batches_of_readings {c : Config} {store : Store} {clock : Clock} {rs : List Reading}
    (publisher : Publisher) (h : (store c).connect.outcome = .ok ())
    (hread : (reading c (store c) clock).result = .ok rs) :
    (run c store clock publisher).batches = [batchOf c (store c) clock rs] := by
  rw [batches, (run_of_readings publisher h hread).1, List.filterMap_cons, List.filterMap_append,
    batch?_readActions]
  rfl

/-- A run that succeeds has read all queues, and published and answered what it read. -/
lemma readings_of_success {c : Config} {store : Store} {clock : Clock} {publisher : Publisher}
    {e : Envelope} (h : (run c store clock publisher).result = .ok e) :
    ∃ rs t, rs.map Reading.queue = c.queues ∧
      rs.map (fun r => .ok r.length) = (answers c.queues (store c)).map Timed.outcome ∧
      (run c store clock publisher).batches = [.ofReadings c.metricNamespace rs t] ∧
      e = .ofSummary (.success rs) := by
  cases hconnect : (store c).connect.outcome with
  | error f =>
    rw [(run_of_refusal clock publisher hconnect).2] at h
    cases h
  | ok =>
    by_cases hall : AllRead c.queues (store c)
    · have hjoined : reading c (store c) clock = _ := readAll_of_allRead hall _
      have hread := congrArg Joined.result hjoined
      have hbatches := batches_of_readings publisher hconnect hread
      rw [(run_of_readings publisher hconnect hread).2] at h
      refine ⟨_, _, readings_queue hall _, readings_outcome hall _, hbatches, ?_⟩
      cases hpublished : (publisher (batchOf c (store c) clock _)).outcome with
      | error f =>
        rw [hpublished] at h
        cases h
      | ok =>
        rw [hpublished] at h
        exact (Except.ok.inj h).symm
    · obtain ⟨f, hread⟩ : ∃ f, (reading c (store c) clock).result = .error f := readAll_fails hall _
      rw [(run_of_unread publisher hconnect hread).2] at h
      cases h

/-- What is published and what is answered agree in every invocation that succeeds with a
configuration that was checked. -/
theorem published_and_answered_agree {d : Draft} {c : Config} {store : Store} {clock : Clock}
    {publisher : Publisher} {e : Envelope} (hbuild : d.build = .ok c)
    (hrun : (run c store clock publisher).result = .ok e) :
    c.queues ≠ [] ∧ ∃ lengths batch,
      lengths.map Except.ok = (answers c.queues (store c)).map Timed.outcome ∧
      (run c store clock publisher).batches = [batch] ∧ Agreement c lengths batch e := by
  have hc := Draft.consistent_of_build hbuild
  obtain ⟨rs, t, hqueues, houtcomes, hbatches, rfl⟩ := readings_of_success hrun
  refine ⟨hc.queues, rs.map Reading.length, _, ?_, hbatches, agreement_of_readings hc hqueues t⟩
  rw [List.map_map]
  exact houtcomes

/-- A store that answers about the second of the default queues before the first. -/
def crossedStore : Store := fun _ => {
  connect := ⟨some 5, .ok ()⟩
  read := fun i _ => if i = 0 then ⟨some 30, .ok 3⟩ else ⟨some 10, .ok 18446744073709551615⟩
  disconnect := none }

def defaultConfig (host : String) : Config where
  store := ⟨host, StoreConfig.defaultPort, none, StoreConfig.defaultDatabase, true⟩
  metricNamespace := Config.defaultNamespace
  queues := Queue.defaults

/-- The default queues on a dry run. -/
theorem default_queues_agree :
    let c := defaultConfig "localhost"
    let e := Envelope.ofSummary (.success [⟨.urls, 3, .ofMilliseconds 35⟩,
      ⟨.rag, 18446744073709551615, .ofMilliseconds 15⟩])
    let i := run c crossedStore Instant.ofMilliseconds Publisher.dryRun
    ({ host := some "localhost" } : Draft).build = .ok c ∧ i.result = .ok e ∧
      c.queues ≠ [] ∧ ∃ lengths batch,
        lengths.map Except.ok = (answers c.queues (crossedStore c)).map Timed.outcome ∧
        i.batches = [batch] ∧ Agreement c lengths batch e := by
  intro c e i
  have hbuild : ({ host := some "localhost" } : Draft).build = .ok c := by decide +kernel
  have hrun : i.result = .ok e := rfl
  exact ⟨hbuild, hrun, published_and_answered_agree hbuild hrun⟩

end Invocation

end Backlog
