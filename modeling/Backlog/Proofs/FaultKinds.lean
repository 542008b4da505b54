import Backlog.Proofs.EventLog
import Backlog.Proofs.Rounds

/-!
# Which kind of fault comes from where

Both publishers fail with faults of publishing, and a Redis server, whatever it answers, makes for
faults of connecting and of reading. With a store that keeps to these two, the kind of a fault tells
the phase in which an invocation failed, so that none of its faults is about the configuration.
-/

namespace Backlog

/-- The kind of the faults in which an invocation can fail at a stage. -/
def Stage.faultKind : Stage → String
  | validating => "config"
  | connecting => "connection"
  | reading => "read"
  | publishing => "publish"

/-- A store whose faults are about connecting or, once it is connected, about reading. -/
structure Store.Honest (store : Store) : Prop where
  connect : ∀ c f, (store c).connect.outcome = .error f → f.kind = "connection"
  read : ∀ c i key f, (store c).connect.outcome = .ok () →
    ((store c).read i key).outcome = .error f → f.kind = "read"

namespace Redis

lemma toLength_kind {key : String} {o : Outcome} {f : Fault}
    (h : Session.toLength key o = .error f) : f.kind = "read" := by
  obtain ⟨reason, rfl⟩ := Session.toLength_error h
  rfl

lemma lengths_kind {s : Session} {keys : List String} {f : Fault}
    (h : .error f ∈ (s.lengths keys).1) : f.kind = "read" := by
  obtain ⟨i, hi⟩ := List.mem_iff_getElem?.mp h
  obtain ⟨key, o, _, _, ho⟩ := List.getElem?_zipWith_eq_some.mp hi
  exact toLength_kind ho

/-- A Redis server cannot be made to fail in any other way, also where its link is cut. -/
theorem store_honest (net : Network) : (store net).Honest := by
  constructor
  · intro c f h
    unfold store visit at h
    cases hs : Session.connect net c.store with
    | error u =>
      rw [hs] at h
      obtain rfl := Except.error.inj h
      rfl
    | ok s =>
      rw [hs] at h
      cases h
  · intro c i key f hok h
    unfold store visit at hok h
    cases hs : Session.connect net c.store with
    | error u =>
      rw [hs] at hok
      cases hok
    | ok s =>
      rw [hs] at h
      replace h : (s.lengths (c.queues.map Queue.key)).1.getD i
          (.error (.read key Refusal.closed.message)) = .error f := h
      rw [List.getD_eq_getElem?_getD] at h
      cases hi : (s.lengths (c.queues.map Queue.key)).1[i]? with
      | none =>
        rw [hi] at h
        obtain rfl := Except.error.inj h
        rfl
      | some result =>
        rw [hi] at h
        obtain rfl : result = .error f := h
        exact lengths_kind (List.mem_of_getElem? hi)

end Redis

namespace Publisher

/-- A publisher whose faults are about publishing. -/
def Honest (publisher : Publisher) : Prop :=
  ∀ b f, (publisher b).outcome = .error f → f.kind = "publish"

lemma dryRun_honest : dryRun.Honest := by
  intro b f h
  cases hb : b.fault? with
  | some fault =>
    rw [dryRun_of_fault hb] at h
    obtain rfl := Except.error.inj h
    rfl
  | none =>
    rw [dryRun, hb] at h
    cases h

lemma fault?_kind {answer : PutResponse} {f : Fault} (h : answer.fault? = some f) :
    f.kind = "publish" := by
  cases answer with
  | unreachable reason =>
    obtain rfl := Option.some.inj h
    rfl
  | answered status code message =>
    rw [PutResponse.fault?] at h
    split at h
    · cases h
    · obtain rfl := Option.some.inj h
      rfl

lemma service_honest (answer : PutRequest → PutResponse) : (service answer).Honest := by
  intro b f h
  cases hb : b.fault? with
  | some fault =>
    rw [service_of_fault hb] at h
    obtain rfl := Except.error.inj h
    rfl
  | none =>
    cases ha : (answer (.ofBatch b)).fault? with
    | none =>
      rw [service_of_acceptance hb ha] at h
      cases h
    | some g =>
      rw [service_of_rejection hb ha] at h
      obtain rfl := Except.error.inj h
      exact fault?_kind ha

end Publisher

namespace Invocation

variable {c : Config} {store : Store} {clock : Clock} {publisher : Publisher} {f : Fault}

/-- The kind of a fault is that of the stage at which it came up. -/
theorem FailsIn.kind {stage : Stage} (h : FailsIn c (store c) clock publisher stage f)
    (hstore : store.Honest) (hpublisher : publisher.Honest) : stage.faultKind = f.kind := by
  cases h with
  | connecting hconnect => exact (hstore.connect c f hconnect).symm
  | reading hconnect hread =>
    obtain ⟨i, q, _, hq⟩ := exists_answer_of_error hread
    exact (hstore.read c i q.key f hconnect hq).symm
  | publishing _ _ hpublish => exact (hpublisher _ f hpublish).symm

/-- Once there is a configuration, nothing that goes wrong is blamed on it. -/
theorem run_kind_ne_config (hstore : store.Honest) (hpublisher : publisher.Honest)
    (h : (run c store clock publisher).result = .error f) : f.kind ≠ "config" := by
  obtain ⟨stage, _, _, _, hstage⟩ := (run_account c store clock publisher).failed f h
  have hkind := hstage.kind hstore hpublisher
  intro hconfig
  rw [hconfig] at hkind
  cases hstage <;> simp [Stage.faultKind] at hkind

end Invocation

end Backlog
