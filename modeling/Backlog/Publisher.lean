import Backlog.Journal

/-!
Where a batch goes: into the log on a dry run, or to the metrics service. Both refuse what breaks a
limit before they do anything.
-/

namespace Backlog

/-- What a publisher does with a batch beside its outcome. -/
inductive Effect where
  | logged (metricNamespace : String) (points : Nat) (payload : String)
  | sent (request : PutRequest)
  | accepted (metricNamespace : String) (points : Nat)
deriving DecidableEq

def Effect.entry : Effect → Entry
  | .logged metricNamespace points payload => .noted (.notSent metricNamespace points payload)
  | .sent request => .sent request
  | .accepted metricNamespace points => .noted (.accepted metricNamespace points)

/-- A delay of `none` is none at all: whoever waits is not suspended. -/
structure Delivery where
  effects : List Effect
  delay : Option Nat
  outcome : Except Fault Unit

abbrev Publisher := Batch → Delivery

namespace Publisher

def refuse (fault : Fault) : Delivery := ⟨[], none, .error fault⟩

def dryRun : Publisher := fun b =>
  match b.fault? with
  | some fault => refuse fault.toFault
  | none => ⟨[.logged b.metricNamespace b.data.length b.toJson.text], none, .ok ()⟩

/-- One request for one batch, and no second attempt. -/
def service (answer : PutRequest → PutResponse) : Publisher := fun b =>
  match b.fault? with
  | some fault => refuse fault.toFault
  | none =>
    let request := PutRequest.ofBatch b
    match (answer request).fault? with
    | some fault => ⟨[.sent request], none, .error fault⟩
    | none => ⟨[.sent request, .accepted b.metricNamespace b.data.length], none, .ok ()⟩

end Publisher

end Backlog
