import Backlog.Proofs.ReadAll

/-!
# The course of an invocation

An invocation takes one of three courses: the connection is refused, a read fails, or the readings
come and are published. In the last two it disconnects once, as the last thing it does. The
theorem at the end says so for every configuration, checked or not, and every store and publisher.
-/

namespace Backlog

namespace Journal

@[simp] lemma actions_nil : actions [] = [] := rfl

@[simp] lemma actions_did (a : Action) (j : Journal) : actions (.did a :: j) = a :: actions j := rfl

@[simp] lemma actions_noted (e : Event) (j : Journal) : actions (.noted e :: j) = actions j := rfl

@[simp] lemma actions_append (j j' : Journal) : actions (j ++ j') = actions j ++ actions j' :=
  List.filterMap_append

lemma actions_effects (effects : List Effect) : actions (effects.map Effect.entry) = [] := by
  induction effects with
  | nil => rfl
  | cons effect rest ih => cases effect <;> exact ih

lemma actions_remarks (remarks : List Remark) : actions (remarks.map Remark.entry) = [] := by
  induction remarks with
  | nil => rfl
  | cons remark rest ih => cases remark <;> exact ih

lemma actions_map_noted {α : Type} (event : α → Event) (l : List α) :
    actions (l.map fun a => .noted (event a)) = [] := by
  simp [actions]

lemma actions_map_did {α : Type} (action : α → Action) (l : List α) :
    actions (l.map fun a => .did (action a)) = l.map action := by
  simp [actions]

end Journal

namespace Invocation

open Join

/-- The reads of the first queues of a list. -/
def readActions (queues : List Queue) (started : Nat) : List Action :=
  (queues.take started).map fun q => .read q.key

/-- The join of the reads of an invocation, with the clock as it is after connecting. -/
def reading (c : Config) (visit : Visit) (clock : Clock) : Joined Fault Reading :=
  readAll c.queues (answers c.queues visit) fun ms => clock (visit.connect.wait + ms)

/-- The batch of some readings, stamped when the last of them has come. -/
def batchOf (c : Config) (visit : Visit) (clock : Clock) (rs : List Reading) : Batch :=
  .ofReadings c.metricNamespace rs (clock (visit.connect.wait + (reading c visit clock).elapsed))

lemma publish_actions (c : Config) (rs : List Reading) (now : Instant) (publisher : Publisher) :
    (publish c rs now publisher).journal.actions =
      [.publish (.ofReadings c.metricNamespace rs now)] := by
  cases h : (publisher (.ofReadings c.metricNamespace rs now)).outcome <;>
    simp [publish, h, Journal.actions_effects]

lemma publish_result (c : Config) (rs : List Reading) (now : Instant) (publisher : Publisher) :
    (publish c rs now publisher).result =
      (publisher (.ofReadings c.metricNamespace rs now)).outcome.map fun _ => .success rs := by
  cases h : (publisher (.ofReadings c.metricNamespace rs now)).outcome <;>
    simp [publish, h, Except.map]

/-! ### The three courses -/

section Courses

variable {c : Config} {store : Store} (clock : Clock) (publisher : Publisher)

lemma run_of_refusal {f : Fault} (h : (store c).connect.outcome = .error f) :
    (run c store clock publisher).journal.actions = [.connect c.store.endpoint] ∧
      (run c store clock publisher).result = .error f := by
  simp [run, h]

variable {clock}

lemma run_of_unread {f : Fault} (h : (store c).connect.outcome = .ok ())
    (hread : (reading c (store c) clock).result = .error f) :
    (run c store clock publisher).journal.actions = .connect c.store.endpoint ::
        (readActions c.queues (reading c (store c) clock).started ++ [.disconnect]) ∧
      (run c store clock publisher).result = .error f := by
  unfold reading at hread
  simp [run, h, work, hread, reading, readActions, Journal.actions_map_did,
    Journal.actions_remarks, Except.map, -List.map_take]

lemma run_of_readings {rs : List Reading} (h : (store c).connect.outcome = .ok ())
    (hread : (reading c (store c) clock).result = .ok rs) :
    (run c store clock publisher).journal.actions = .connect c.store.endpoint ::
        (readActions c.queues (reading c (store c) clock).started ++
          [.publish (batchOf c (store c) clock rs), .disconnect]) ∧
      (run c store clock publisher).result =
        (publisher (batchOf c (store c) clock rs)).outcome.map
          fun _ => .ofSummary (.success rs) := by
  have hmap : ∀ o : Except Fault Unit, (o.map fun _ => Summary.success rs).map Envelope.ofSummary =
      o.map fun _ => .ofSummary (.success rs) := by
    intro o
    cases o <;> rfl
  unfold reading at hread
  simp [run, h, work, hread, reading, batchOf, readActions, Journal.actions_map_did,
    Journal.actions_map_noted, Journal.actions_remarks, publish_actions, publish_result, hmap,
    -List.map_take]

end Courses

lemma publish_not_mem_readActions (batch : Batch) (queues : List Queue) (started : Nat) :
    Action.publish batch ∉ readActions queues started := by
  intro h
  obtain ⟨q, _, hq⟩ := List.mem_map.mp h
  cases hq

lemma batch?_readActions (queues : List Queue) (started : Nat) :
    (readActions queues started).filterMap Action.batch? = [] := by
  rw [readActions, List.filterMap_map]
  exact List.filterMap_eq_nil_iff.mpr fun _ _ => rfl

/-- What an invocation does, in order, and what it answers. -/
structure Lifecycle (c : Config) (visit : Visit) (clock : Clock) (publisher : Publisher)
    (i : Invocation) : Prop where
  /-- Nothing follows a refused connection, and its fault is the answer. -/
  refused : ∀ f, visit.connect.outcome = .error f →
    i.journal.actions = [.connect c.store.endpoint] ∧ i.result = .error f
  /-- After connecting: reads in the order of the list, a batch or none, and one disconnect. There
  is a batch exactly when all reads were started and came back with a length. -/
  connected : visit.connect.outcome = .ok () → ∃ started batch?,
    started ≤ c.queues.length ∧
    i.journal.actions = .connect c.store.endpoint ::
      (readActions c.queues started ++ (Option.toList batch?).map .publish ++ [.disconnect]) ∧
    (batch?.isSome ↔ started = c.queues.length ∧ AllRead c.queues visit)
  /-- A batch holds the readings and is stamped when the last of them has come. -/
  published : ∀ batch, .publish batch ∈ i.journal.actions → ∃ rs,
    (reading c visit clock).result = .ok rs ∧ batch = batchOf c visit clock rs ∧
    ∀ t ∈ answers c.queues visit, t.wait ≤ (reading c visit clock).elapsed
  /-- Nothing fails but connecting, the reads and publishing. -/
  answered : (∃ e, i.result = .ok e) ↔ visit.connect.outcome = .ok () ∧
    AllRead c.queues visit ∧
    ∃ batch, .publish batch ∈ i.journal.actions ∧ (publisher batch).outcome = .ok ()
  /-- After connecting, the fault that is answered is that of the reads. -/
  unread : visit.connect.outcome = .ok () → ∀ f,
    (reading c visit clock).result = .error f → i.result = .error f
  /-- After the reads, the fault that is answered is that of the publisher. -/
  unpublished : ∀ batch f, .publish batch ∈ i.journal.actions →
    (publisher batch).outcome = .error f → i.result = .error f

lemma lifecycle_of_refusal {c : Config} {store : Store} {clock : Clock} {publisher : Publisher}
    {f : Fault} (h : (store c).connect.outcome = .error f) :
    Lifecycle c (store c) clock publisher (run c store clock publisher) := by
  obtain ⟨hactions, hresult⟩ := run_of_refusal clock publisher h
  have hnot : (store c).connect.outcome ≠ .ok () := by
    rw [h]
    simp
  have hnone : ∀ batch, Action.publish batch ∉ (run c store clock publisher).journal.actions := by
    rw [hactions]
    simp
  constructor
  · intro g hg
    rw [h] at hg
    obtain rfl := Except.error.inj hg
    exact ⟨hactions, hresult⟩
  · exact fun hok => absurd hok hnot
  · exact fun batch hmem => absurd hmem (hnone batch)
  · rw [hresult]
    simp [hnot]
  · exact fun hok => absurd hok hnot
  · exact fun batch _ hmem => absurd hmem (hnone batch)

lemma lifecycle_of_unread {c : Config} {store : Store} {clock : Clock} {publisher : Publisher}
    (h : (store c).connect.outcome = .ok ()) (hread : ¬AllRead c.queues (store c)) :
    Lifecycle c (store c) clock publisher (run c store clock publisher) := by
  obtain ⟨f, hf⟩ : ∃ f, (reading c (store c) clock).result = .error f := readAll_fails hread _
  obtain ⟨hactions, hresult⟩ := run_of_unread publisher h hf
  have hnone : ∀ batch, Action.publish batch ∉ (run c store clock publisher).journal.actions := by
    rw [hactions]
    simp [publish_not_mem_readActions]
  constructor
  · intro g hg
    rw [h] at hg
    cases hg
  · intro _
    refine ⟨(reading c (store c) clock).started, none, readAll_started_le _ _ _, ?_, ?_⟩
    · simpa using hactions
    · simp [hread]
  · exact fun batch hmem => absurd hmem (hnone batch)
  · rw [hresult]
    simp [hread]
  · intro _ g hg
    rw [hf] at hg
    obtain rfl := Except.error.inj hg
    exact hresult
  · exact fun batch _ hmem => absurd hmem (hnone batch)

lemma lifecycle_of_readings {c : Config} {store : Store} {clock : Clock} {publisher : Publisher}
    (h : (store c).connect.outcome = .ok ()) (hread : AllRead c.queues (store c)) :
    Lifecycle c (store c) clock publisher (run c store clock publisher) := by
  have hjoined : reading c (store c) clock = _ := readAll_of_allRead hread _
  generalize values _ = rs at hjoined
  have hrs : (reading c (store c) clock).result = .ok rs := congrArg Joined.result hjoined
  obtain ⟨hactions, hresult⟩ := run_of_readings publisher h hrs
  have honly : ∀ batch, Action.publish batch ∈ (run c store clock publisher).journal.actions ↔
      batch = batchOf c (store c) clock rs := by
    rw [hactions]
    simp [publish_not_mem_readActions]
  constructor
  · intro g hg
    rw [h] at hg
    cases hg
  · intro _
    refine ⟨c.queues.length, some (batchOf c (store c) clock rs), le_rfl, ?_, ?_⟩
    · rw [hactions, congrArg Joined.started hjoined]
      simp
    · simp [hread]
  · intro batch hmem
    refine ⟨rs, hrs, (honly batch).mp hmem, ?_⟩
    intro t ht
    rw [congrArg Joined.elapsed hjoined]
    exact wait_le_longestWait ht
  · rw [hresult]
    simp only [h, hread, honly, true_and, exists_eq_left]
    cases (publisher (batchOf c (store c) clock rs)).outcome <;> simp [Except.map]
  · intro _ g hg
    rw [hrs] at hg
    cases hg
  · intro batch g hmem hfail
    rw [(honly batch).mp hmem] at hfail
    rw [hresult, hfail]
    rfl

/-- An invocation from an environment begins once the configuration is there. -/
lemma ofEnvironment_eq {store : Store} (clock : Clock) (publisher : Publisher) (env : Environment) :
    ofEnvironment env store clock publisher =
      match env.config with
      | .error fault => refused fault.toFault
      | .ok c => run c store clock publisher := by
  rw [ofEnvironment, Environment.config]
  cases env.draft with
  | error fault => rfl
  | ok d => rfl

/-- The course of every invocation, and that a refused configuration leads to no action at all. -/
theorem run_lifecycle (store : Store) (clock : Clock) (publisher : Publisher) :
    (∀ c, Lifecycle c (store c) clock publisher (run c store clock publisher)) ∧
    (∀ d : Draft,
      (∀ c, d.build = .ok c →
        ofDraft d store clock publisher = run c store clock publisher) ∧
      (∀ f, d.build = .error f → (ofDraft d store clock publisher).journal.actions = [] ∧
        (ofDraft d store clock publisher).result = .error f.toFault)) ∧
    (∀ env : Environment,
      (∀ c, env.config = .ok c →
        ofEnvironment env store clock publisher = run c store clock publisher) ∧
      (∀ f, env.config = .error f → (ofEnvironment env store clock publisher).journal.actions = [] ∧
        (ofEnvironment env store clock publisher).result = .error f.toFault)) := by
  refine ⟨fun c => ?_, fun d => ⟨?_, ?_⟩, fun env => ⟨?_, ?_⟩⟩
  · cases h : (store c).connect.outcome with
    | error f => exact lifecycle_of_refusal h
    | ok =>
      by_cases hread : AllRead c.queues (store c)
      · exact lifecycle_of_readings h hread
      · exact lifecycle_of_unread h hread
  · intro c h
    simp [ofDraft, h]
  · intro f h
    simp [ofDraft, h, refused]
  · intro c h
    cases hd : env.draft with
    | error g => simp [Environment.config, hd, Bind.bind, Except.bind] at h
    | ok d =>
      have hbuild : d.build = .ok c := by
        simpa [Environment.config, hd, Bind.bind, Except.bind] using h
      simp [ofEnvironment, hd, ofDraft, hbuild]
  · intro f h
    cases hd : env.draft with
    | error g =>
      have hg : g = f := by
        simpa [Environment.config, hd, Bind.bind, Except.bind] using h
      simp [ofEnvironment, hd, refused, hg]
    | ok d =>
      have hbuild : d.build = .error f := by
        simpa [Environment.config, hd, Bind.bind, Except.bind] using h
      simp [ofEnvironment, hd, ofDraft, hbuild, refused]

end Invocation

end Backlog
