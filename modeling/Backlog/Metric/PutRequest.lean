import Backlog.Metric.Batch

/-!
A batch as the metrics service takes it, and what its answers mean. The service keeps time in
milliseconds, so a moment is rounded down to one.
-/

namespace Backlog

structure PutDatum where
  metric : String
  dimensions : List Dimension
  milliseconds : Int
  value : Double
  unit : MetricUnit
deriving DecidableEq

structure PutRequest where
  metricNamespace : String
  data : List PutDatum
deriving DecidableEq

namespace PutRequest

def ofDatum (d : Datum) : PutDatum where
  metric := d.metric
  dimensions := d.dimensions
  milliseconds := d.timestamp.milliseconds
  value := d.value
  unit := d.unit

def ofBatch (b : Batch) : PutRequest := ⟨b.metricNamespace, b.data.map ofDatum⟩

end PutRequest

/-- What came back of a request: an answer with its status, and the code and message that its body
may carry, or nothing. -/
inductive PutResponse where
  | answered (status : Nat) (code message : Option String)
  | unreachable (reason : String)
deriving DecidableEq, Repr

namespace PutResponse

def accepted : PutResponse := .answered 200 none none

/-- The name under which the service documents a fault, of the codes it documents. -/
def knownName? (code : String) : Option String :=
  if code = "InternalServiceError" then some "InternalServiceFault"
  else if code = "InvalidParameterCombination" ∨ code = "InvalidParameterValue" then
    some (code ++ "Exception")
  else if code = "MissingParameter" then some "MissingRequiredParameterException"
  else none

/-- A documented fault is told twice, once as the outcome and once as its cause. -/
def knownText (name : String) (message : Option String) : String :=
  let once := match message with
    | none => name
    | some m => name ++ ": " ++ m
  once ++ ": " ++ once

def unknownText (code message : Option String) : String :=
  let parts := [("code", code), ("message", message)].filterMap fun p =>
    p.2.map fun t => (p.1, Inspect.text t)
  "unhandled error" ++ (match code with
    | none => ""
    | some c => " (" ++ c ++ ")") ++
    ": " ++ (if parts = [] then "Error" else Inspect.record "Error" parts)

def serviceText (code message : Option String) : String :=
  match code.bind knownName? with
  | some name => knownText name message
  | none => unknownText code message

/-- Why a request failed, if it did: any status from 200 to 299 accepts it. -/
def fault? : PutResponse → Option Fault
  | .answered status code message =>
    if 200 ≤ status ∧ status < 300 then none
    else some (.publish (Text.trimmedEnd ("service error: " ++ serviceText code message)))
  | .unreachable reason =>
    some (.publish (Text.trimmedEnd ("dispatch failure: io error: " ++ reason)))

end PutResponse

end Backlog
