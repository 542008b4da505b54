import Backlog.Proofs.Lifecycle
import Backlog.Proofs.Publishing

/-!
# What the log says of an invocation

The log of each course that an invocation can take is written out as a list of events, with what the
store and the publisher note themselves in its place. From it: an invocation notes an error if and
only if it fails, once, with its fault and the phase in which it failed; and what it did after
connecting can be told from the events alone. An invocation that is refused for its configuration
notes that and nothing else.
-/

namespace Backlog

namespace Event

/-- The key and the length that an event tells, if it is about a queue. -/
def measured? : Event → Option (String × UInt64)
  | .measured key length => some (key, length)
  | _ => none

/-- The word that stands for a stage in the log. -/
inductive Word : Stage → String → Prop where
  | validating : Word .validating "validating"
  | connecting : Word .connecting "connecting"
  | reading : Word .reading "reading"
  | publishing : Word .publishing "publishing"

lemma word_name (stage : Stage) : Word stage stage.phase.name := by
  cases stage <;> constructor

/-- An event of level error whose fields name a phase and a fault. -/
structure Blames (e : Event) (stage : Stage) (fault : Fault) : Prop where
  level : e.toJson.member? "level" = some (.string "ERROR")
  phase : ∃ word, Word stage word ∧ e.toJson.member? "phase" = some (.string word)
  kind : e.toJson.member? "kind" = some (.string fault.kind)
  error : e.toJson.member? "error" = some (.string fault.message)

lemma failed_blames (stage : Stage) (fault : Fault) : (failed stage fault).Blames stage fault where
  level := rfl
  phase := ⟨_, word_name stage, rfl⟩
  kind := rfl
  error := rfl

/-- How the log puts into words what an invocation does once it is connected. -/
structure Worded : Prop where
  measured : ∀ key length, (measured key length).toJson = .object [("level", .string "INFO"),
    ("message", .string "Queue length"), ("queue", .string key), ("length", .nat length.toNat)]
  publishing : ∀ metricNamespace points, (publishing metricNamespace points).toJson =
    .object [("level", .string "INFO"), ("message", .string "Publishing metric batch"),
      ("phase", .string "publishing"), ("namespace", .string metricNamespace),
      ("data_points", .nat points)]
  published : published.toJson =
    .object [("level", .string "INFO"), ("message", .string "Published queue metrics")]
  disconnecting : disconnecting.toJson = .object [("level", .string "INFO"),
    ("message", .string "Disconnecting from queue store"), ("phase", .string "disconnecting")]

lemma worded : Worded := ⟨fun _ _ => rfl, fun _ _ => rfl, rfl, rfl⟩

/-- What a store or a publisher notes itself. -/
inductive Aside : Event → Prop where
  | connected (endpoint : String) (database : UInt32) (tls : Bool) :
      Aside (.connected endpoint database tls)
  | disconnected (endpoint : String) (held : Nat) : Aside (.disconnected endpoint held)
  | notSent (metricNamespace : String) (points : Nat) (payload : String) :
      Aside (.notSent metricNamespace points payload)
  | accepted (metricNamespace : String) (points : Nat) : Aside (.accepted metricNamespace points)

/-- It is no error, and about no queue. -/
lemma Aside.plain {e : Event} (h : Aside e) : e.isError = false ∧ e.measured? = none := by
  cases h <;> exact ⟨rfl, rfl⟩

end Event

namespace Journal

@[simp] lemma events_nil : events [] = [] := rfl

@[simp] lemma events_did (a : Action) (j : Journal) : events (.did a :: j) = events j := rfl

@[simp] lemma events_noted (e : Event) (j : Journal) : events (.noted e :: j) = e :: events j := rfl

@[simp] lemma events_append (j j' : Journal) : events (j ++ j') = events j ++ events j' :=
  List.filterMap_append

lemma events_map_did {α : Type} (action : α → Action) (l : List α) :
    events (l.map fun a => .did (action a)) = [] := by
  simp [events]

lemma events_map_noted {α : Type} (event : α → Event) (l : List α) :
    events (l.map fun a => .noted (event a)) = l.map event := by
  simp [events]

end Journal

/-- What is noted in the course of some entries is no part of the course itself. -/
def Asides (events : List Event) : Prop := ∀ e ∈ events, e.Aside

namespace Asides

variable {events : List Event}

lemma filter_isError (h : Asides events) : events.filter Event.isError = [] := by
  rw [List.filter_eq_nil_iff]
  intro e he
  simp [(h e he).plain.1]

lemma filterMap_measured? (h : Asides events) : events.filterMap Event.measured? = [] :=
  List.filterMap_eq_nil_iff.mpr fun e he => (h e he).plain.2

lemma not_mem (h : Asides events) {e : Event} (he : ¬e.Aside) : e ∉ events :=
  fun hmem => he (h e hmem)

end Asides

lemma asides_publisher (d : Delivery) : Asides d.events := by
  intro e he
  obtain ⟨entry, hentry, he⟩ := List.mem_filterMap.mp he
  obtain ⟨effect, _, rfl⟩ := List.mem_map.mp hentry
  cases effect with
  | sent request => cases he
  | logged metricNamespace points payload =>
    obtain rfl := Option.some.inj he
    constructor
  | accepted metricNamespace points =>
    obtain rfl := Option.some.inj he
    constructor

/-- What a store notes. -/
def remarked (remarks : List Remark) : List Event := Journal.events (remarks.map Remark.entry)

lemma asides_store (remarks : List Remark) : Asides (remarked remarks) := by
  intro e he
  obtain ⟨entry, hentry, he⟩ := List.mem_filterMap.mp he
  obtain ⟨remark, _, rfl⟩ := List.mem_map.mp hentry
  cases remark <;> (obtain rfl := Option.some.inj he; constructor)

namespace Invocation

open Join

/-! ### The log of each course -/

/-- The event that comes before connecting. -/
def openingEvent (c : Config) : Event :=
  .connecting c.store.endpoint c.store.database c.store.tls c.store.password.isSome

def measuredEvent (r : Reading) : Event := .measured r.queue.key r.length

/-- The events up to the end of publishing. -/
def eventsUntilPublished (c : Config) (opened : List Event) (rs : List Reading) (d : Delivery) :
    List Event :=
  openingEvent c :: (opened ++ .reading c.queues.length ::
    (rs.map measuredEvent ++ .publishing c.metricNamespace rs.length :: d.events))

/-- The event that says how publishing ended. -/
def publishedEvent : Except Fault Unit → Event
  | .ok () => .published
  | .error fault => .failed .publishing fault

/-- The whole log of an invocation whose readings have come. -/
def eventsOfReadings (c : Config) (opened closed : List Event) (rs : List Reading) (d : Delivery) :
    List Event :=
  eventsUntilPublished c opened rs d ++ publishedEvent d.outcome :: .disconnecting :: closed

section Courses

variable {c : Config} {store : Store} (clock : Clock) (publisher : Publisher)

lemma publish_events (rs : List Reading) (now : Instant) :
    (publish c rs now publisher).journal.events =
      .publishing c.metricNamespace rs.length ::
        ((publisher (.ofReadings c.metricNamespace rs now)).events ++
          [publishedEvent (publisher (.ofReadings c.metricNamespace rs now)).outcome]) := by
  have hname : (Batch.ofReadings c.metricNamespace rs now).metricNamespace = c.metricNamespace :=
    rfl
  have hlength : (Batch.ofReadings c.metricNamespace rs now).data.length = rs.length := by
    simp [Batch.ofReadings]
  cases h : (publisher (.ofReadings c.metricNamespace rs now)).outcome <;>
    simp [publish, h, hname, hlength, publishedEvent, Delivery.events]

lemma events_of_refusal {f : Fault} (h : (store c).connect.outcome = .error f) :
    (run c store clock publisher).journal.events =
      [openingEvent c, .failed .connecting f] := by
  simp [run, h, openingEvent]

variable {clock}

lemma events_of_unread {f : Fault} (h : (store c).connect.outcome = .ok ())
    (hread : (reading c (store c) clock).result = .error f) :
    ∃ held, (run c store clock publisher).journal.events =
      openingEvent c :: (remarked (store c).opened ++
        .reading c.queues.length :: .failed .reading f :: .disconnecting ::
          remarked ((store c).closed held)) := by
  refine ⟨(reading c (store c) clock).elapsed, ?_⟩
  unfold reading at hread ⊢
  simp [run, h, work, hread, openingEvent, remarked, Journal.events_map_did, -List.map_take]

lemma events_of_readings {rs : List Reading} (h : (store c).connect.outcome = .ok ())
    (hread : (reading c (store c) clock).result = .ok rs) :
    ∃ held, (run c store clock publisher).journal.events =
      eventsOfReadings c (remarked (store c).opened) (remarked ((store c).closed held)) rs
        (publisher (batchOf c (store c) clock rs)) := by
  have hmeasured := Journal.events_map_noted measuredEvent rs
  unfold measuredEvent at hmeasured
  refine ⟨(work c (store c) (fun ms => clock ((store c).connect.wait + ms)) publisher).elapsed, ?_⟩
  unfold reading at hread
  simp [run, h, work, hread, reading, batchOf, eventsOfReadings, eventsUntilPublished, openingEvent,
    measuredEvent, remarked, Journal.events_map_did, hmeasured, publish_events, -List.map_take]

end Courses

section Readings

variable (c : Config) {opened closed : List Event} (rs : List Reading) (d : Delivery)

lemma mem_eventsUntilPublished_iff (e : Event) : e ∈ eventsUntilPublished c opened rs d ↔
    e = openingEvent c ∨ e ∈ opened ∨ e = .reading c.queues.length ∨
      (∃ r ∈ rs, measuredEvent r = e) ∨ e = .publishing c.metricNamespace rs.length ∨
        e ∈ d.events := by
  simp [eventsUntilPublished]

section Asides

variable (hopened : Asides opened)

include hopened

lemma filter_isError_eventsUntilPublished :
    (eventsUntilPublished c opened rs d).filter Event.isError = [] := by
  have hmeasured : (rs.map measuredEvent).filter Event.isError = [] := by
    simp [measuredEvent, Event.isError]
  rw [eventsUntilPublished, openingEvent]
  simp [hopened.filter_isError, hmeasured, (asides_publisher d).filter_isError, Event.isError]

/-- How publishing ended cannot be told before it has, and nothing disconnects before that. -/
lemma not_mem_eventsUntilPublished : .published ∉ eventsUntilPublished c opened rs d ∧
    .disconnecting ∉ eventsUntilPublished c opened rs d := by
  simp only [mem_eventsUntilPublished_iff, openingEvent, measuredEvent, reduceCtorEq, and_false,
    exists_false, false_or, not_or]
  exact ⟨⟨hopened.not_mem nofun, (asides_publisher d).not_mem nofun⟩,
    ⟨hopened.not_mem nofun, (asides_publisher d).not_mem nofun⟩⟩

variable (hclosed : Asides closed)

include hclosed

lemma filter_isError_eventsOfReadings :
    (eventsOfReadings c opened closed rs d).filter Event.isError =
      match d.outcome with
      | .ok () => []
      | .error f => [.failed .publishing f] := by
  rw [eventsOfReadings, List.filter_append, filter_isError_eventsUntilPublished c rs d hopened]
  cases d.outcome with
  | ok =>
    rw [publishedEvent, List.filter_cons_of_neg Bool.false_ne_true,
      List.filter_cons_of_neg Bool.false_ne_true, hclosed.filter_isError, List.nil_append]
  | error f =>
    rw [publishedEvent, List.filter_cons_of_pos rfl, List.filter_cons_of_neg Bool.false_ne_true,
      hclosed.filter_isError, List.nil_append]

lemma filterMap_measured?_eventsOfReadings :
    (eventsOfReadings c opened closed rs d).filterMap Event.measured? =
      rs.map fun r => (r.queue.key, r.length) := by
  have hmeasured : (rs.map measuredEvent).filterMap Event.measured? =
      rs.map fun r => (r.queue.key, r.length) := by
    rw [List.filterMap_map, ← List.filterMap_eq_map]
    rfl
  have hclosing : (publishedEvent d.outcome :: .disconnecting :: closed).filterMap
      Event.measured? = [] := by
    rw [List.filterMap_cons_none (by cases d.outcome <;> rfl), List.filterMap_cons_none rfl,
      hclosed.filterMap_measured?]
  rw [eventsOfReadings, eventsUntilPublished, openingEvent, List.filterMap_append, hclosing,
    List.filterMap_cons_none rfl, List.filterMap_append, hopened.filterMap_measured?,
    List.nil_append, List.filterMap_cons_none rfl, List.filterMap_append, hmeasured,
    List.filterMap_cons_none rfl, (asides_publisher d).filterMap_measured?, List.append_nil,
    List.append_nil]

lemma publishing_mem_eventsOfReadings_iff {metricNamespace : String} {points : Nat} :
    .publishing metricNamespace points ∈ eventsOfReadings c opened closed rs d ↔
      metricNamespace = c.metricNamespace ∧ points = rs.length := by
  have hclosing : .publishing metricNamespace points ∉
      publishedEvent d.outcome :: .disconnecting :: closed := by
    have hlast : .publishing metricNamespace points ∉ closed := hclosed.not_mem nofun
    cases d.outcome <;> simp [publishedEvent, hlast]
  have hfirst : .publishing metricNamespace points ∉ opened := hopened.not_mem nofun
  have hnoted : .publishing metricNamespace points ∉ d.events := (asides_publisher d).not_mem nofun
  rw [eventsOfReadings, List.mem_append, mem_eventsUntilPublished_iff]
  simp [hclosing, hfirst, hnoted, openingEvent, measuredEvent]

lemma published_mem_eventsOfReadings_iff :
    .published ∈ eventsOfReadings c opened closed rs d ↔ d.outcome = .ok () := by
  have hbefore := (not_mem_eventsUntilPublished c rs d hopened).1
  have hafter : .published ∉ closed := hclosed.not_mem nofun
  cases h : d.outcome <;> simp [eventsOfReadings, hbefore, hafter, h, publishedEvent]

lemma eventsOfReadings_disconnected : ∃ before,
    eventsOfReadings c opened closed rs d = before ++ .disconnecting :: closed ∧
      .disconnecting ∉ before ∧ .disconnecting ∉ closed := by
  have hbefore := (not_mem_eventsUntilPublished c rs d hopened).2
  refine ⟨eventsUntilPublished c opened rs d ++ [publishedEvent d.outcome], ?_, ?_,
    hclosed.not_mem nofun⟩
  · rw [eventsOfReadings, List.append_cons]
  · cases d.outcome <;> simp [hbefore, publishedEvent]

end Asides

end Readings

/-! ### What it says -/

/-- The stage at which an invocation fails, and the fault with which it fails there. -/
inductive FailsIn (c : Config) (visit : Visit) (clock : Clock) (publisher : Publisher) :
    Stage → Fault → Prop where
  | connecting {f : Fault} (h : visit.connect.outcome = .error f) :
      FailsIn c visit clock publisher .connecting f
  | reading {f : Fault} (h : visit.connect.outcome = .ok ())
      (hread : (reading c visit clock).result = .error f) :
      FailsIn c visit clock publisher .reading f
  | publishing {rs : List Reading} {f : Fault} (h : visit.connect.outcome = .ok ())
      (hread : (reading c visit clock).result = .ok rs)
      (hpublish : (publisher (batchOf c visit clock rs)).outcome = .error f) :
      FailsIn c visit clock publisher .publishing f

/-- A log that says of an invocation what it did and how it ended. -/
structure Account (c : Config) (visit : Visit) (clock : Clock) (publisher : Publisher)
    (i : Invocation) : Prop where
  quiet : ∀ e, i.result = .ok e → i.journal.events.filter Event.isError = []
  /-- A failure is noted once, with its phase and its fault. -/
  failed : ∀ f, i.result = .error f → ∃ stage event,
    i.journal.events.filter Event.isError = [event] ∧ event.Blames stage f ∧
      FailsIn c visit clock publisher stage f
  /-- After connecting, disconnecting is noted once, and nothing is noted after that but what the
  store has to say itself. -/
  disconnected : visit.connect.outcome = .ok () → ∃ before held,
    i.journal.events = before ++ .disconnecting :: remarked (visit.closed held) ∧
      .disconnecting ∉ before ∧ .disconnecting ∉ remarked (visit.closed held) ∧
      (remarked (visit.closed held)).filter Event.isError = []
  unconnected : ∀ f, visit.connect.outcome = .error f → .disconnecting ∉ i.journal.events
  /-- Where all reads succeed, there is an event for each queue, in order and with its length. -/
  measured : visit.connect.outcome = .ok () → AllRead c.queues visit → ∃ lengths,
    lengths.map Except.ok = (answers c.queues visit).map Timed.outcome ∧
      i.journal.events.filterMap Event.measured? = List.zip (c.queues.map Queue.key) lengths
  unmeasured : ¬(visit.connect.outcome = .ok () ∧ AllRead c.queues visit) →
    i.journal.events.filterMap Event.measured? = []
  publishing : ∀ metricNamespace points,
    .publishing metricNamespace points ∈ i.journal.events ↔
      ∃ batch, .publish batch ∈ i.journal.actions ∧ batch.metricNamespace = metricNamespace ∧
        batch.data.length = points
  published : .published ∈ i.journal.events ↔
    ∃ batch, .publish batch ∈ i.journal.actions ∧ (publisher batch).outcome = .ok ()

lemma account_of_refusal {c : Config} {store : Store} {clock : Clock} {publisher : Publisher}
    {f : Fault} (h : (store c).connect.outcome = .error f) :
    Account c (store c) clock publisher (run c store clock publisher) := by
  obtain ⟨hactions, hresult⟩ := run_of_refusal clock publisher h
  have hevents := events_of_refusal clock publisher h
  constructor
  · intro e he
    rw [hresult] at he
    cases he
  · intro g hg
    rw [hresult] at hg
    obtain rfl := Except.error.inj hg
    refine ⟨.connecting, _, ?_, Event.failed_blames .connecting f, .connecting h⟩
    rw [hevents]
    rfl
  · intro hok
    rw [h] at hok
    cases hok
  · intro _ _
    rw [hevents]
    simp [openingEvent]
  · intro hok
    rw [h] at hok
    cases hok
  · intro _
    rw [hevents]
    rfl
  · intro metricNamespace points
    rw [hevents, hactions]
    simp [openingEvent]
  · rw [hevents, hactions]
    simp [openingEvent]

lemma account_of_unread {c : Config} {store : Store} {clock : Clock} {publisher : Publisher}
    (h : (store c).connect.outcome = .ok ()) (hall : ¬AllRead c.queues (store c)) :
    Account c (store c) clock publisher (run c store clock publisher) := by
  obtain ⟨f, hread⟩ : ∃ f, (reading c (store c) clock).result = .error f := readAll_fails hall _
  obtain ⟨hactions, hresult⟩ := run_of_unread publisher h hread
  obtain ⟨held, hevents⟩ := events_of_unread publisher h hread
  have hopened := asides_store (store c).opened
  have hclosed := asides_store ((store c).closed held)
  generalize remarked (store c).opened = opened at hevents hopened
  constructor
  · intro e he
    rw [hresult] at he
    cases he
  · intro g hg
    rw [hresult] at hg
    obtain rfl := Except.error.inj hg
    refine ⟨.reading, _, ?_, Event.failed_blames .reading f, .reading h hread⟩
    rw [hevents, openingEvent, List.filter_cons_of_neg Bool.false_ne_true, List.filter_append,
      hopened.filter_isError, List.nil_append, List.filter_cons_of_neg Bool.false_ne_true,
      List.filter_cons_of_pos rfl, List.filter_cons_of_neg Bool.false_ne_true,
      hclosed.filter_isError]
  · intro _
    have hnot : .disconnecting ∉ opened := hopened.not_mem nofun
    refine ⟨openingEvent c :: (opened ++ [.reading c.queues.length, .failed .reading f]), held, ?_,
      ?_, hclosed.not_mem nofun, hclosed.filter_isError⟩
    · simp [hevents]
    · simp [openingEvent, hnot]
  · intro g hg
    rw [h] at hg
    cases hg
  · exact fun _ hread => absurd hread hall
  · intro _
    rw [hevents, openingEvent, List.filterMap_cons_none rfl, List.filterMap_append,
      hopened.filterMap_measured?, List.nil_append, List.filterMap_cons_none rfl,
      List.filterMap_cons_none rfl, List.filterMap_cons_none rfl, hclosed.filterMap_measured?]
  · intro metricNamespace points
    have hnot : .publishing metricNamespace points ∉ opened := hopened.not_mem nofun
    have hnot' : .publishing metricNamespace points ∉ remarked ((store c).closed held) :=
      hclosed.not_mem nofun
    rw [hevents, hactions]
    simp [openingEvent, publish_not_mem_readActions, hnot, hnot']
  · have hnot : .published ∉ opened := hopened.not_mem nofun
    have hnot' : .published ∉ remarked ((store c).closed held) := hclosed.not_mem nofun
    rw [hevents, hactions]
    simp [openingEvent, publish_not_mem_readActions, hnot, hnot']

lemma account_of_readings {c : Config} {store : Store} {clock : Clock} {publisher : Publisher}
    (h : (store c).connect.outcome = .ok ()) (hall : AllRead c.queues (store c)) :
    Account c (store c) clock publisher (run c store clock publisher) := by
  have hjoined : reading c (store c) clock = _ := readAll_of_allRead hall _
  have hqueues := readings_queue hall fun ms => clock ((store c).connect.wait + ms)
  have houtcomes := readings_outcome hall fun ms => clock ((store c).connect.wait + ms)
  generalize values _ = rs at hjoined hqueues houtcomes
  have hread : (reading c (store c) clock).result = .ok rs := congrArg Joined.result hjoined
  obtain ⟨hactions, hresult⟩ := run_of_readings publisher h hread
  obtain ⟨held, hevents⟩ := events_of_readings publisher h hread
  have hopened := asides_store (store c).opened
  have hclosed := asides_store ((store c).closed held)
  have honly : ∀ batch, Action.publish batch ∈ (run c store clock publisher).journal.actions ↔
      batch = batchOf c (store c) clock rs := by
    rw [hactions]
    simp [publish_not_mem_readActions]
  have hlength : (batchOf c (store c) clock rs).data.length = rs.length := by
    simp [batchOf, Batch.ofReadings]
  have herrors := filter_isError_eventsOfReadings c rs (publisher (batchOf c (store c) clock rs))
    hopened hclosed
  rw [← hevents] at herrors
  constructor
  · intro e he
    cases ho : (publisher (batchOf c (store c) clock rs)).outcome with
    | error f =>
      rw [hresult, ho] at he
      cases he
    | ok =>
      rw [ho] at herrors
      exact herrors
  · intro f hf
    cases ho : (publisher (batchOf c (store c) clock rs)).outcome with
    | ok =>
      rw [hresult, ho] at hf
      cases hf
    | error g =>
      rw [hresult, ho] at hf
      obtain rfl := Except.error.inj hf
      rw [ho] at herrors
      exact ⟨.publishing, _, herrors, Event.failed_blames .publishing g, .publishing h hread ho⟩
  · intro _
    obtain ⟨before, hsplit, hbefore, hafter⟩ := eventsOfReadings_disconnected c rs
      (publisher (batchOf c (store c) clock rs)) hopened hclosed
    exact ⟨before, held, hevents.trans hsplit, hbefore, hafter, hclosed.filter_isError⟩
  · intro f hf
    rw [h] at hf
    cases hf
  · intro _ _
    refine ⟨rs.map Reading.length, ?_, ?_⟩
    · rw [List.map_map]
      exact houtcomes
    · rw [hevents, filterMap_measured?_eventsOfReadings c rs _ hopened hclosed, ← hqueues, List.zip,
        List.zipWith_map, List.zipWith_map_left, List.zipWith_self]
  · exact fun hnot => absurd ⟨h, hall⟩ hnot
  · intro metricNamespace points
    rw [hevents, publishing_mem_eventsOfReadings_iff c rs _ hopened hclosed]
    simp only [honly, exists_eq_left, hlength]
    exact and_congr eq_comm eq_comm
  · rw [hevents, published_mem_eventsOfReadings_iff c rs _ hopened hclosed]
    simp only [honly, exists_eq_left]

lemma run_account (c : Config) (store : Store) (clock : Clock) (publisher : Publisher) :
    Account c (store c) clock publisher (run c store clock publisher) := by
  cases h : (store c).connect.outcome with
  | error f => exact account_of_refusal h
  | ok =>
    by_cases hall : AllRead c.queues (store c)
    · exact account_of_readings h hall
    · exact account_of_unread h hall

/-- The log of every invocation says what it did and how it ended, whatever the store and the
publisher do; one that is refused for its configuration, loaded or built, notes that alone. -/
theorem log_tells_what_happened (store : Store) (clock : Clock) (publisher : Publisher) :
    Event.Worded ∧
    (∀ c, Account c (store c) clock publisher (run c store clock publisher)) ∧
    (∀ d : Draft,
      (∀ c, d.build = .ok c → ofDraft d store clock publisher = run c store clock publisher) ∧
      (∀ f, d.build = .error f → ∃ event,
        (ofDraft d store clock publisher).journal.events = [event] ∧
          event.Blames .validating f.toFault ∧
          (ofDraft d store clock publisher).result = .error f.toFault)) ∧
    ∀ env : Environment,
      (∀ c, env.config = .ok c →
        ofEnvironment env store clock publisher = run c store clock publisher) ∧
      (∀ f, env.config = .error f → ∃ event,
        (ofEnvironment env store clock publisher).journal.events = [event] ∧
          event.Blames .validating f.toFault ∧
          (ofEnvironment env store clock publisher).result = .error f.toFault) := by
  refine ⟨Event.worded, fun c => run_account c store clock publisher, fun d => ⟨?_, ?_⟩,
    fun env => ⟨?_, ?_⟩⟩
  · intro c h
    simp [ofDraft, h]
  · intro f h
    refine ⟨_, ?_, Event.failed_blames .validating f.toFault, ?_⟩ <;> simp [ofDraft, h, refused]
  · intro c h
    rw [ofEnvironment_eq, h]
  · intro f h
    rw [ofEnvironment_eq, h]
    exact ⟨_, rfl, Event.failed_blames .validating f.toFault, rfl⟩

end Invocation

end Backlog
