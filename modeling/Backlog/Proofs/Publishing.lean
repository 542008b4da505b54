import Backlog.Publisher
import Mathlib.Data.List.Forall2
import Mathlib.Tactic.MkIffOfInductiveProp

/-!
# Dry runs and requests

A batch within the limits is logged whole on a dry run and sent in one request otherwise; a batch
that breaks a limit is refused by both with one fault, and neither does anything. The request has a
datum for each datum of the batch, in order, which differs in nothing but the precision of its time.
-/

namespace Backlog

namespace Instant

/-- Nanoseconds since the start of 1970, those of a leap second included. -/
def nanoseconds (t : Instant) : Int := t.seconds * 1000000000 + t.nanos

/-- Whole milliseconds are the last ones that have passed, also before 1970. -/
theorem milliseconds_floor (t : Instant) :
    t.milliseconds * 1000000 ≤ t.nanoseconds ∧ t.nanoseconds < (t.milliseconds + 1) * 1000000 := by
  unfold milliseconds nanoseconds
  omega

end Instant

/-- The limits of a request, each on its own. -/
@[mk_iff]
structure Batch.WithinLimits (b : Batch) : Prop where
  some : 1 ≤ b.data.length
  data : b.data.length ≤ 1000
  dimensions : ∀ d ∈ b.data, d.dimensions.length ≤ 30

theorem Batch.fault?_eq_none_iff {b : Batch} : b.fault? = none ↔ b.WithinLimits := by
  rw [withinLimits_iff, fault?]
  by_cases hempty : b.data.length = 0
  · simp [hempty]
  by_cases hmany : maxData < b.data.length
  · have hnot : ¬b.data.length ≤ 1000 := Nat.not_le.mpr hmany
    simp [hempty, hmany, hnot]
  rw [if_neg hempty, if_neg hmany]
  have hpos : 1 ≤ b.data.length := Nat.pos_of_ne_zero hempty
  have hfew : b.data.length ≤ 1000 := Nat.not_lt.mp hmany
  simp only [hpos, hfew, true_and]
  cases hfind : b.data.find? fun d => decide (maxDimensions < d.dimensions.length) with
  | none =>
    rw [List.find?_eq_none] at hfind
    simp only [decide_eq_true_eq, Nat.not_lt] at hfind
    exact iff_of_true rfl hfind
  | some d =>
    have hlarge : maxDimensions < d.dimensions.length := by simpa using List.find?_some hfind
    refine iff_of_false (Option.some_ne_none _) fun hall => ?_
    exact Nat.not_lt.mpr (hall d (List.mem_of_find?_eq_some hfind)) hlarge

namespace Delivery

/-- What a publisher notes in the log. -/
def events (d : Delivery) : List Event := Journal.events (d.effects.map Effect.entry)

/-- What a publisher asks of the metrics service. -/
def requests (d : Delivery) : List PutRequest := Journal.requests (d.effects.map Effect.entry)

end Delivery

namespace PutDatum

/-- A datum of a request that says of a datum all but what is below a millisecond of its time. -/
structure Reports (p : PutDatum) (d : Datum) : Prop where
  metric : p.metric = d.metric
  dimensions : p.dimensions = d.dimensions
  value : p.value = d.value
  unit : p.unit = .count
  time : p.milliseconds * 1000000 ≤ d.timestamp.nanoseconds ∧
    d.timestamp.nanoseconds < (p.milliseconds + 1) * 1000000

lemma reports_ofDatum (d : Datum) : (PutRequest.ofDatum d).Reports d where
  metric := rfl
  dimensions := rfl
  value := rfl
  unit := rfl
  time := d.timestamp.milliseconds_floor

/-- A datum of a request and an item of a payload that name the same metric, dimensions, value and
unit. -/
structure Matches (p : PutDatum) (item : Json) : Prop where
  metric : item.member? "metric_name" = some (.string p.metric)
  dimensions : item.member? "dimensions" = some (.array (p.dimensions.map Dimension.toJson))
  value : item.member? "value" = some p.value.toJson
  unit : item.member? "unit" = some (.string p.unit.name)

lemma matches_ofDatum (d : Datum) : (PutRequest.ofDatum d).Matches d.toJson := by
  constructor <;> rfl

end PutDatum

namespace PutRequest

lemma reports_ofBatch (b : Batch) : List.Forall₂ PutDatum.Reports (ofBatch b).data b.data := by
  rw [ofBatch, List.forall₂_map_left_iff, List.forall₂_same]
  exact fun d _ => PutDatum.reports_ofDatum d

lemma matches_ofBatch (b : Batch) :
    List.Forall₂ PutDatum.Matches (ofBatch b).data (b.data.map Datum.toJson) := by
  rw [ofBatch, List.forall₂_map_left_iff, List.forall₂_map_right_iff, List.forall₂_same]
  exact fun d _ => PutDatum.matches_ofDatum d

end PutRequest

namespace Publisher

/-- The two publishers side by side, with a service that answers in some way. -/
structure Alike (answer : PutRequest → PutResponse) (b : Batch) : Prop where
  limits : b.fault? = none ↔ b.WithinLimits
  /-- A batch that breaks a limit is refused for it by both, at once and without any effect. -/
  refused : ∀ fault, b.fault? = some fault →
    dryRun b = ⟨[], none, .error (.publish fault.message)⟩ ∧
      service answer b = ⟨[], none, .error (.publish fault.message)⟩
  /-- A dry run notes one event, which holds the whole batch, and succeeds. -/
  logged : b.fault? = none → (dryRun b).outcome = .ok () ∧ (dryRun b).requests = [] ∧
    ∃ event, (dryRun b).events = [event] ∧
      event.toJson = .object [("level", .string "INFO"),
        ("message", .string "Dry run: metric batch not sent"),
        ("namespace", .string b.metricNamespace), ("data_points", .nat b.data.length),
        ("payload", .string b.toJson.text)]
  /-- The service gets one request, whatever it answers. -/
  sent : b.fault? = none → ∃ request, (service answer b).requests = [request] ∧
    request.metricNamespace = b.metricNamespace ∧
    List.Forall₂ PutDatum.Reports request.data b.data
  /-- That the service has accepted the batch is a detail for the log, and nothing else is noted. -/
  accepted : b.fault? = none → (service answer b).outcome = .ok () →
    ∃ event, (service answer b).events = [event] ∧
      event.toJson = .object [("level", .string "DEBUG"),
        ("message", .string "PutMetricData accepted"),
        ("namespace", .string b.metricNamespace), ("data_points", .nat b.data.length)]
  unaccepted : ∀ fault, (service answer b).outcome = .error fault → (service answer b).events = []
  /-- What is logged and what is sent describe the same data. -/
  described : ∀ request ∈ (service answer b).requests, ∃ items,
    b.toJson = .object [("namespace", .string request.metricNamespace), ("data", .array items)] ∧
      List.Forall₂ PutDatum.Matches request.data items

section Refusal

variable {b : Batch} {fault : BatchFault} (h : b.fault? = some fault)

include h

lemma dryRun_of_fault : dryRun b = ⟨[], none, .error (.publish fault.message)⟩ := by
  rw [dryRun, h]
  rfl

lemma service_of_fault (answer : PutRequest → PutResponse) :
    service answer b = ⟨[], none, .error (.publish fault.message)⟩ := by
  rw [service, h]
  rfl

end Refusal

section Request

variable {answer : PutRequest → PutResponse} {b : Batch} (h : b.fault? = none)

include h

lemma service_of_acceptance (ha : (answer (.ofBatch b)).fault? = none) :
    service answer b =
      ⟨[.sent (.ofBatch b), .accepted b.metricNamespace b.data.length], none, .ok ()⟩ := by
  simp only [service, h, ha]

lemma service_of_rejection {fault : Fault} (ha : (answer (.ofBatch b)).fault? = some fault) :
    service answer b = ⟨[.sent (.ofBatch b)], none, .error fault⟩ := by
  simp only [service, h, ha]

lemma requests_service : (service answer b).requests = [.ofBatch b] := by
  cases ha : (answer (.ofBatch b)).fault? with
  | none =>
    rw [service_of_acceptance h ha]
    rfl
  | some fault =>
    rw [service_of_rejection h ha]
    rfl

end Request

/-- Every batch is treated alike, however the service answers. -/
theorem dryRun_service_alike (answer : PutRequest → PutResponse) (b : Batch) : Alike answer b where
  limits := Batch.fault?_eq_none_iff
  refused fault h := ⟨dryRun_of_fault h, service_of_fault h answer⟩
  logged h := by
    rw [dryRun, h]
    exact ⟨rfl, rfl, _, rfl, rfl⟩
  sent h := ⟨_, requests_service h, rfl, PutRequest.reports_ofBatch b⟩
  accepted h hok := by
    cases ha : (answer (.ofBatch b)).fault? with
    | none =>
      rw [service_of_acceptance h ha]
      exact ⟨_, rfl, rfl⟩
    | some fault =>
      rw [service_of_rejection h ha] at hok
      cases hok
  unaccepted fault hfault := by
    cases h : b.fault? with
    | some broken =>
      rw [service_of_fault h]
      rfl
    | none =>
      cases ha : (answer (.ofBatch b)).fault? with
      | none =>
        rw [service_of_acceptance h ha] at hfault
        cases hfault
      | some fault' =>
        rw [service_of_rejection h ha]
        rfl
  described request hrequest := by
    cases h : b.fault? with
    | some fault =>
      rw [service_of_fault h] at hrequest
      cases hrequest
    | none =>
      rw [requests_service h, List.mem_singleton] at hrequest
      subst hrequest
      exact ⟨_, rfl, PutRequest.matches_ofBatch b⟩

end Publisher

end Backlog
