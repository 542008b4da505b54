import Backlog.Fault
import Backlog.Number.Layout
import Backlog.Reading

/-!
The data that one request reports, and the limits that a metrics service sets to a request.
-/

namespace Backlog

inductive MetricUnit where
  | count
deriving DecidableEq, Repr

namespace MetricUnit

def name : MetricUnit → String
  | count => "Count"

end MetricUnit

structure Dimension where
  name : String
  value : String
deriving DecidableEq, Repr

structure Datum where
  metric : String
  dimensions : List Dimension
  value : Double
  timestamp : Instant
  unit : MetricUnit
deriving DecidableEq

structure Batch where
  metricNamespace : String
  data : List Datum
deriving DecidableEq

/-- A double as a JSON number; what is not finite has none and is null. -/
def Double.toJson : Double → Json
  | .finite negative m => .number (String.ofList (writeFinite .data negative m))
  | .infinite _ => .null
  | .nan => .null

namespace Dimension

def queueName : String := "QueueName"

def toJson (d : Dimension) : Json := .object [("name", .string d.name), ("value", .string d.value)]

end Dimension

namespace Datum

/-- A reading as a count in one dimension, the key of its queue. -/
def ofReading (r : Reading) (timestamp : Instant) : Datum where
  metric := r.queue.metric
  dimensions := [⟨Dimension.queueName, r.queue.key⟩]
  value := .ofNat r.length.toNat
  timestamp := timestamp
  unit := .count

def toJson (d : Datum) : Json :=
  .object [("metric_name", .string d.metric),
    ("dimensions", .array (d.dimensions.map Dimension.toJson)), ("value", d.value.toJson),
    ("timestamp", .string (String.ofList d.timestamp.rfc3339)), ("unit", .string d.unit.name)]

end Datum

inductive BatchFault where
  | empty
  | tooManyData (count : Nat)
  | tooManyDimensions (metric : String) (count : Nat)
deriving DecidableEq, Repr

namespace Batch

def maxData : Nat := 1000

def maxDimensions : Nat := 30

def ofReadings (metricNamespace : String) (readings : List Reading) (now : Instant) : Batch :=
  ⟨metricNamespace, readings.map fun r => .ofReading r now⟩

def toJson (b : Batch) : Json :=
  .object [("namespace", .string b.metricNamespace), ("data", .array (b.data.map Datum.toJson))]

/-- The first limit that a batch breaks: it holds something, not too much, and no datum of it has
too many dimensions. -/
def fault? (b : Batch) : Option BatchFault :=
  if b.data.length = 0 then some .empty
  else if maxData < b.data.length then some (.tooManyData b.data.length)
  else
    match b.data.find? fun d => decide (maxDimensions < d.dimensions.length) with
    | some d => some (.tooManyDimensions d.metric d.dimensions.length)
    | none => none

end Batch

namespace BatchFault

def message : BatchFault → String
  | empty => "metric batch is empty"
  | tooManyData count =>
    "metric batch has " ++ Numeral.text count ++ " data points (limit: " ++
      Numeral.text Batch.maxData ++ ")"
  | tooManyDimensions metric count =>
    "metric '" ++ metric ++ "' has " ++ Numeral.text count ++ " dimensions (limit: " ++
      Numeral.text Batch.maxDimensions ++ ")"

def toFault (f : BatchFault) : Fault := .publish f.message

end BatchFault

end Backlog
