import Backlog.Config.Draft
import Mathlib.Tactic.Common

/-!
# Consistent configurations

A draft becomes a configuration only if nothing in it is empty and its queues can be told apart, by
key and by metric. The check goes through the queues once and carries what is taken already; it
finds nothing exactly when no queue takes what an earlier one has, and so no two queues share a key
or a metric.
-/

namespace Backlog

/-- What a configuration promises to those that work with it. -/
structure Config.Consistent (c : Config) : Prop where
  host : c.store.host ≠ ""
  metricNamespace : c.metricNamespace ≠ ""
  queues : c.queues ≠ []
  parts : ∀ q ∈ c.queues, q.key ≠ "" ∧ q.metric ≠ ""
  keys : (c.queues.map Queue.key).Nodup
  metrics : (c.queues.map Queue.metric).Nodup

namespace Draft

theorem queueFault?_eq_none_iff {keys metrics : List String} {queues : List Queue} :
    queueFault? keys metrics queues = none ↔
      (∀ q ∈ queues, (q.key ≠ "" ∧ q.metric ≠ "") ∧ q.key ∉ keys ∧ q.metric ∉ metrics) ∧
      (queues.map Queue.key).Nodup ∧ (queues.map Queue.metric).Nodup := by
  induction queues generalizing keys metrics with
  | nil => simp [queueFault?]
  | cons q rest ih =>
    rw [queueFault?, List.forall_mem_cons, List.map_cons, List.map_cons, List.nodup_cons,
      List.nodup_cons]
    by_cases hempty : q.key = "" ∨ q.metric = ""
    · rw [if_pos hempty]
      simp only [reduceCtorEq, false_iff]
      rintro ⟨⟨⟨⟨hkey, hmetric⟩, _⟩, _⟩, _⟩
      exact hempty.elim hkey hmetric
    by_cases hkey : q.key ∈ keys
    · simp [hempty, hkey]
    by_cases hmetric : q.metric ∈ metrics
    · simp [hempty, hkey, hmetric]
    rw [if_neg hempty, if_neg hkey, if_neg hmetric, ih]
    rw [not_or] at hempty
    simp only [List.mem_cons, not_or, List.mem_map, not_exists, not_and]
    constructor
    · rintro ⟨hrest, hkeys, hmetrics⟩
      refine ⟨⟨⟨hempty, hkey, hmetric⟩, ?_⟩, ⟨?_, hkeys⟩, ?_, hmetrics⟩
      · intro r hr
        obtain ⟨hparts, ⟨_, hk⟩, _, hm⟩ := hrest r hr
        exact ⟨hparts, hk, hm⟩
      · exact fun r hr => (hrest r hr).2.1.1
      · exact fun r hr => (hrest r hr).2.2.1
    · rintro ⟨⟨_, hrest⟩, ⟨hk, hkeys⟩, hm, hmetrics⟩
      refine ⟨?_, hkeys, hmetrics⟩
      intro r hr
      obtain ⟨hparts, hk', hm'⟩ := hrest r hr
      exact ⟨hparts, ⟨hk r hr, hk'⟩, hm r hr, hm'⟩

theorem consistent_of_build {d : Draft} {c : Config} (h : d.build = .ok c) : c.Consistent := by
  unfold build at h
  split at h
  · cases h
  · next host _ =>
    split_ifs at h with hhost hnamespace hqueues
    split at h
    · cases h
    · next hnone =>
      obtain rfl := Except.ok.inj h
      obtain ⟨hparts, hkeys, hmetrics⟩ := queueFault?_eq_none_iff.mp hnone
      exact ⟨hhost, hnamespace, hqueues, fun q hq => (hparts q hq).1, hkeys, hmetrics⟩

end Draft

/-- Queues that can be watched together: there are some, no part of them is empty, and no two have
the same key or the same metric. -/
structure Queue.Distinguishable (queues : List Queue) : Prop where
  some : queues ≠ []
  parts : ∀ q ∈ queues, q.key ≠ "" ∧ q.metric ≠ ""
  keys : (queues.map Queue.key).Nodup
  metrics : (queues.map Queue.metric).Nodup

lemma Queue.distinguishable_defaults : Queue.Distinguishable Queue.defaults := by
  constructor <;> decide

namespace Draft

/-- What a draft is refused for on account of its queues. -/
def listFault? (queues : List Queue) : Option ConfigFault :=
  if queues = [] then some .noQueues else queueFault? [] [] queues

theorem listFault?_eq_none_iff {queues : List Queue} :
    listFault? queues = none ↔ Queue.Distinguishable queues := by
  rw [listFault?]
  by_cases hqueues : queues = []
  · rw [if_pos hqueues]
    simp only [reduceCtorEq, false_iff]
    exact fun h => h.some hqueues
  · rw [if_neg hqueues, queueFault?_eq_none_iff]
    constructor
    · rintro ⟨hparts, hkeys, hmetrics⟩
      exact ⟨hqueues, fun q hq => (hparts q hq).1, hkeys, hmetrics⟩
    · intro h
      exact ⟨fun q hq => ⟨h.parts q hq, by simp, by simp⟩, h.keys, h.metrics⟩

/-- A draft as it stands, with a host. -/
def settled (d : Draft) (host : String) : Config where
  store :=
    { host := host, port := d.port, password := d.password, database := d.database, tls := d.tls }
  metricNamespace := d.metricNamespace
  queues := d.queues

lemma build_of_no_host {d : Draft} (h : d.host = none) : d.build = .error .noHost := by
  rw [build, h]

lemma build_of_host {d : Draft} {host : String} (hhost : d.host = some host) (hne : host ≠ "")
    (hnamespace : d.metricNamespace ≠ "") :
    d.build = match listFault? d.queues with
      | some fault => .error fault
      | none => .ok (d.settled host) := by
  rw [build, hhost, listFault?]
  dsimp only
  rw [if_neg hne, if_neg hnamespace]
  by_cases hqueues : d.queues = []
  · rw [if_pos hqueues, if_pos hqueues]
  · rw [if_neg hqueues, if_neg hqueues]
    cases queueFault? [] [] d.queues <;> rfl

end Draft

end Backlog
