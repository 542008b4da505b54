import Backlog.Config.Basic
import Backlog.Config.Fault

/-!
A configuration in the making. Each setting has its default except the host, and any can be changed
any number of times; the whole is checked when it is built.
-/

namespace Backlog

structure Draft where
  host : Option String := none
  port : UInt16 := StoreConfig.defaultPort
  password : Option String := none
  database : UInt32 := StoreConfig.defaultDatabase
  tls : Bool := true
  metricNamespace : String := Config.defaultNamespace
  queues : List Queue := Queue.defaults
deriving DecidableEq, Repr

namespace Draft

inductive Change where
  | host (value : String)
  | port (value : UInt16)
  | password (value : String)
  | database (value : UInt32)
  | tls (value : Bool)
  | metricNamespace (value : String)
  | queues (value : List Queue)

def set (d : Draft) : Change → Draft
  | .host value => { d with host := some value }
  | .port value => { d with port := value }
  | .password value => { d with password := some value }
  | .database value => { d with database := value }
  | .tls value => { d with tls := value }
  | .metricNamespace value => { d with metricNamespace := value }
  | .queues value => { d with queues := value }

def setAll (d : Draft) (changes : List Change) : Draft := changes.foldl set d

/-- The first fault among queues, where `keys` and `metrics` are taken already. -/
def queueFault? (keys metrics : List String) : List Queue → Option ConfigFault
  | [] => none
  | q :: rest =>
    if q.key = "" ∨ q.metric = "" then some .emptyPart
    else if q.key ∈ keys then some (.repeatedKey q.key)
    else if q.metric ∈ metrics then some (.repeatedMetric q.metric)
    else queueFault? (q.key :: keys) (q.metric :: metrics) rest

def build (d : Draft) : Except ConfigFault Config :=
  match d.host with
  | none => .error .noHost
  | some host =>
    if host = "" then .error .noHost
    else if d.metricNamespace = "" then .error .noNamespace
    else if d.queues = [] then .error .noQueues
    else
      match queueFault? [] [] d.queues with
      | some fault => .error fault
      | none => .ok
        { store :=
            { host := host, port := d.port, password := d.password, database := d.database
              tls := d.tls }
          metricNamespace := d.metricNamespace
          queues := d.queues }

/-- The password shows here: a draft is printed only where it is made. -/
def inspect (d : Draft) : String :=
  Inspect.record "ProbeConfigBuilder" [("host", Inspect.option (d.host.map Inspect.text)),
    ("port", Inspect.nat d.port.toNat),
    ("password", Inspect.option (d.password.map Inspect.text)),
    ("database", Inspect.nat d.database.toNat), ("tls", Inspect.bool d.tls),
    ("namespace", Inspect.text d.metricNamespace),
    ("queues", Inspect.list (d.queues.map Queue.inspect))]

end Draft

end Backlog
