import Backlog.Metric.PutRequest

/-!
The journal of an invocation: what it did and what it noted, in order.
-/

namespace Backlog

/-- The phases of an invocation. -/
inductive Phase where
  | validating
  | connecting
  | reading
  | publishing
  | disconnecting
deriving DecidableEq, Repr

namespace Phase

def name : Phase → String
  | validating => "validating"
  | connecting => "connecting"
  | reading => "reading"
  | publishing => "publishing"
  | disconnecting => "disconnecting"

def inspect : Phase → String
  | validating => "Validating"
  | connecting => "Connecting"
  | reading => "Reading"
  | publishing => "Publishing"
  | disconnecting => "Disconnecting"

end Phase

/-- The phases in which an invocation can fail: once it is connected, it always disconnects. -/
inductive Stage where
  | validating
  | connecting
  | reading
  | publishing
deriving DecidableEq, Repr

namespace Stage

def phase : Stage → Phase
  | validating => .validating
  | connecting => .connecting
  | reading => .reading
  | publishing => .publishing

/-- How the end of an invocation at a stage is announced. -/
def failureMessage : Stage → String
  | validating => "Invalid probe configuration"
  | connecting => "Queue store connection failed"
  | reading => "Queue length query failed"
  | publishing => "Metric publish failed"

end Stage

/-- What others can see an invocation do. -/
inductive Action where
  | connect (endpoint : String)
  | read (key : String)
  | publish (batch : Batch)
  | disconnect
deriving DecidableEq

/-- The batch that is handed over, if one is. -/
def Action.batch? : Action → Option Batch
  | publish batch => some batch
  | _ => none

/-- What is noted. That a connection is there or has been given up, after so many milliseconds, is
noted by the store, and what has become of a batch by the publisher. -/
inductive Event where
  | connecting (endpoint : String) (database : UInt32) (tls authenticated : Bool)
  | connected (endpoint : String) (database : UInt32) (tls : Bool)
  | failed (stage : Stage) (fault : Fault)
  | reading (queues : Nat)
  | measured (key : String) (length : UInt64)
  | publishing (metricNamespace : String) (points : Nat)
  | notSent (metricNamespace : String) (points : Nat) (payload : String)
  | accepted (metricNamespace : String) (points : Nat)
  | published
  | disconnecting
  | disconnected (endpoint : String) (held : Nat)
  | aborted (fault : Fault)
deriving DecidableEq

namespace Event

def isError : Event → Bool
  | failed .. => true
  | aborted _ => true
  | _ => false

/-- What only helps to find out about a store or a publisher. -/
def isDetail : Event → Bool
  | connected .. => true
  | accepted .. => true
  | disconnected .. => true
  | _ => false

def message : Event → String
  | connecting .. => "Connecting to queue store"
  | connected .. => "Redis connection established"
  | failed stage _ => stage.failureMessage
  | reading _ => "Querying queue lengths"
  | measured .. => "Queue length"
  | publishing .. => "Publishing metric batch"
  | notSent .. => "Dry run: metric batch not sent"
  | accepted .. => "PutMetricData accepted"
  | published => "Published queue metrics"
  | disconnecting => "Disconnecting from queue store"
  | disconnected .. => "Redis connection closed"
  | aborted _ => "Invocation failed"

def faultFields (f : Fault) : List (String × Json) :=
  [("kind", .string f.kind), ("error", .string f.message)]

def fields : Event → List (String × Json)
  | connecting endpoint database tls authenticated =>
    [("phase", .string Phase.connecting.name), ("endpoint", .string endpoint),
      ("db", .nat database.toNat), ("tls", .bool tls), ("authenticated", .bool authenticated)]
  | connected endpoint database tls =>
    [("endpoint", .string endpoint), ("db", .nat database.toNat), ("tls", .bool tls)]
  | failed stage fault => ("phase", .string stage.phase.name) :: faultFields fault
  | reading queues => [("phase", .string Phase.reading.name), ("queues", .nat queues)]
  | measured key length => [("queue", .string key), ("length", .nat length.toNat)]
  | publishing metricNamespace points =>
    [("phase", .string Phase.publishing.name), ("namespace", .string metricNamespace),
      ("data_points", .nat points)]
  | notSent metricNamespace points payload =>
    [("namespace", .string metricNamespace), ("data_points", .nat points),
      ("payload", .string payload)]
  | accepted metricNamespace points =>
    [("namespace", .string metricNamespace), ("data_points", .nat points)]
  | published => []
  | disconnecting => [("phase", .string Phase.disconnecting.name)]
  | disconnected endpoint held =>
    [("endpoint", .string endpoint), ("held_for", .string (Inspect.milliseconds held))]
  | aborted fault => faultFields fault

def level (e : Event) : String :=
  if e.isError then "ERROR" else if e.isDetail then "DEBUG" else "INFO"

def toJson (e : Event) : Json :=
  .object (("level", .string e.level) :: ("message", .string e.message) :: e.fields)

end Event

inductive Entry where
  | did (action : Action)
  | noted (event : Event)
  | sent (request : PutRequest)
deriving DecidableEq

abbrev Journal := List Entry

namespace Journal

def actions (j : Journal) : List Action :=
  j.filterMap fun
    | .did a => some a
    | _ => none

def events (j : Journal) : List Event :=
  j.filterMap fun
    | .noted e => some e
    | _ => none

def requests (j : Journal) : List PutRequest :=
  j.filterMap fun
    | .sent r => some r
    | _ => none

end Journal

end Backlog
